import CrateBook.Error
import CrateBook.Json.Basic
import CrateBook.Yaml.Node

/-!
# Values of YAML

A plain scalar is a truth value, a number, null or a text, told by how it is written. Keys become
texts. Pairs under the key `<<` are those of the mappings that it leads to; a pair of the mapping
itself goes before them.
-/

namespace CrateBook.Yaml

/-! ## Plain scalars -/

/-- The spellings of true. -/
def trueWords : List String := ["yes", "Yes", "YES", "true", "True", "TRUE", "on", "On", "ON"]

/-- The spellings of false. -/
def falseWords : List String := ["no", "No", "NO", "false", "False", "FALSE", "off", "Off", "OFF"]

/-- The spellings of null. -/
def nullWords : List String := ["", "~", "null", "Null", "NULL"]

/-- A sign, and what follows it. -/
def unsigned : List Char → Bool × List Char
  | '-' :: cs => (true, cs)
  | '+' :: cs => (false, cs)
  | cs => (false, cs)

/-- The number that digits of a base spell, underscores left out. -/
def numberIn (base : Nat) (cs : List Char) : Option Nat :=
  (cs.filter (· ≠ '_')).foldlM
    (fun n c => (Text.hexDigit? c).bind fun d => if d < base then some (base * n + d) else none) 0

/-- A digit of a base or an underscore. -/
def isDigitIn (base : Nat) (c : Char) : Bool :=
  c = '_' || (Text.hexDigit? c).any (· < base)

/-- The groups of a number with colons, each below sixty but the first. -/
def sexagesimal? (cs : List Char) : Option Nat :=
  match cs.splitOn ':' with
  | first :: more =>
    if more.isEmpty || !(more.all fun g => (g.length = 1 || g.length = 2) && g.all Char.isDigit)
    then none
    else do
      let n ← numberIn 10 first
      more.foldlM (fun n g => do
        let d ← numberIn 10 g
        if d < 60 then some (60 * n + d) else none) n
  | [] => none

/-- The natural number that the characters after a sign spell. -/
def natural? (cs : List Char) : Option Nat :=
  match cs with
  | ['0'] => some 0
  | '0' :: 'b' :: ds =>
    if ds.any (· ≠ '_') && ds.all (isDigitIn 2) then numberIn 2 ds else none
  | '0' :: 'x' :: ds =>
    if ds.any (· ≠ '_') && ds.all (isDigitIn 16) then numberIn 16 ds else none
  | '0' :: ds => if ds.all (isDigitIn 8) then numberIn 8 ds else none
  | c :: ds =>
    if !c.isDigit then none
    else if ds.all (isDigitIn 10) then numberIn 10 cs
    else if (ds.takeWhile (· ≠ ':')).all (isDigitIn 10) then sexagesimal? cs
    else none
  | [] => none

/-- The integer that a scalar spells. -/
def integer? (cs : List Char) : Option Int :=
  let (negative, cs) := unsigned cs
  (natural? cs).map fun n => if negative then -(n : Int) else n

/-- An exponent, with its sign. -/
def isExponent : List Char → Bool
  | [] => true
  | e :: sign :: ds =>
    (e = 'e' || e = 'E') && (sign = '+' || sign = '-') && !ds.isEmpty && ds.all Char.isDigit
  | _ => false

/-- The number with a fraction that a scalar spells. -/
def decimal? (cs : List Char) : Option String :=
  let (negative, body) := unsigned cs
  let sign (s : String) : String := if negative then "-" ++ s else s
  let word := String.ofList body
  if [".inf", ".Inf", ".INF"].contains word then some (sign "Infinity")
  else if [".nan", ".NaN", ".NAN"].contains word && body = cs then some "NaN"
  else
    let whole := body.takeWhile (isDigitIn 10)
    match body.drop whole.length with
    | '.' :: rest =>
      let fraction := rest.takeWhile (isDigitIn 10)
      let exponent := rest.drop fraction.length
      let startsWell := match whole with
        | [] => (fraction.head?.map Char.isDigit).getD false && body = cs
        | c :: _ => c.isDigit
      if !startsWell || !isExponent exponent then none
      else
        let digits (ds : List Char) : List Char :=
          let ds := ds.filter (· ≠ '_')
          if ds.isEmpty then ['0'] else ds
        some (sign (String.ofList (digits whole ++ '.' :: digits fraction ++ exponent)))
    | _ => none

/-- The value that a plain scalar spells; none for the signs that only a mapping may hold. -/
def plainValue? (text : String) : Option Json :=
  if trueWords.contains text then some (.bool true)
  else if falseWords.contains text then some (.bool false)
  else if nullWords.contains text then some .null
  else if text = "=" || text = "<<" then none
  else match decimal? text.toList, integer? text.toList with
    | some d, _ => some (.decimal (Number.canonical d))
    | none, some n => some (.int n)
    | none, none => some (.str text)

/-- What the tags of the language start with. -/
def tagStart : String := "tag:yaml.org,2002:"

/-- The tag says nothing, or that the node is of a kind of the language. -/
def isTag (kind : String) (tag : Option String) : Bool :=
  tag = none || tag = some "!" || tag = some (tagStart ++ kind)

/-- The value of a scalar under a tag. -/
def scalarValue? (tag : Option String) (text : String) (isPlain : Bool) : Option Json :=
  match tag with
  | none => if isPlain then plainValue? text else some (.str text)
  | some "!" => plainValue? text
  | some "tag:yaml.org,2002:str" => some (.str text)
  | some "tag:yaml.org,2002:null" => some .null
  | some "tag:yaml.org,2002:bool" =>
    if (trueWords.map String.toLower).contains text.toLower then some (.bool true)
    else if (falseWords.map String.toLower).contains text.toLower then some (.bool false)
    else none
  | some "tag:yaml.org,2002:int" => (integer? text.toList).map .int
  | some "tag:yaml.org,2002:float" =>
    (decimal? text.toList).map fun d => .decimal (Number.canonical d)
  | some _ => none

/-! ## Collections -/

/-- A key as text; only scalars are keys. -/
def keyText? : Json → Option String
  | .null => some "null"
  | .bool b => some (if b then "true" else "false")
  | .int n => some (toString n)
  | .decimal text => some text
  | .str s => some s
  | .arr _ => none
  | .obj _ => none

/-- The pairs that a value under the key `<<` brings: those of a mapping, or of several, of which
the first goes before the later ones. -/
def broughtPairs? : Json → Option (List (String × Json))
  | .obj members => some members
  | .arr items => do
    let all ← items.mapM fun
      | .obj members => some members
      | _ => none
    return all.reverse.flatten
  | _ => none

/-- The node is a sign that has a meaning of its own as a key. -/
def isSign (sign : String) : Node → Bool
  | .scalar none text true => text = sign
  | _ => false

/-- The values of the anchors so far. -/
abbrev Anchors := List (String × Json)

mutual

/-- The value of a node, and the anchors after it. -/
def Node.value? (anchors : Anchors) : Node → Option (Json × Anchors)
  | .scalar tag text isPlain => (scalarValue? tag text isPlain).map (·, anchors)
  | .sequence tag items =>
    if isTag "seq" tag then
      (itemValues? anchors items).map fun (vs, anchors) => (.arr vs, anchors)
    else none
  | .mapping tag pairs =>
    if isTag "map" tag then
      (pairValues? anchors pairs).map fun (brought, own, anchors) =>
        (Json.object (brought ++ own), anchors)
    else none
  | .alias name => (anchors.lookup name).map (·, anchors)
  | .anchored name node =>
    if (anchors.lookup name).isSome then none
    else (node.value? anchors).map fun (v, anchors) => (v, (name, v) :: anchors)

/-- The values of items. -/
def itemValues? (anchors : Anchors) : List Node → Option (List Json × Anchors)
  | [] => some ([], anchors)
  | n :: ns => do
    let (v, anchors) ← n.value? anchors
    let (vs, anchors) ← itemValues? anchors ns
    return (v :: vs, anchors)

/-- The pairs that a mapping brings in and its own ones. -/
def pairValues? (anchors : Anchors) :
    List (Node × Node) → Option (List (String × Json) × List (String × Json) × Anchors)
  | [] => some ([], [], anchors)
  | (k, v) :: rest =>
    if isSign "<<" k then do
      let (v, anchors) ← v.value? anchors
      let pairs ← broughtPairs? v
      let (brought, own, anchors) ← pairValues? anchors rest
      return (pairs ++ brought, own, anchors)
    else do
      let (k, anchors) ← if isSign "=" k then some (.str "=", anchors) else k.value? anchors
      let k ← keyText? k
      let (v, anchors) ← v.value? anchors
      let (brought, own, anchors) ← pairValues? anchors rest
      return (brought, (k, v) :: own, anchors)

end

/-- The value of a text, null when nothing is written. -/
def read (s : String) : Except Fault Json :=
  match Node.ofText? s with
  | none => .error .notYaml
  | some none => .ok .null
  | some (some n) =>
    match n.value? [] with
    | none => .error .notYaml
    | some (v, _) => .ok v

end CrateBook.Yaml
