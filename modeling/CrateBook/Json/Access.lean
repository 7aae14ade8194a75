import CrateBook.Error
import CrateBook.Json.Basic

/-!
# Reading values that may be malformed

Values of a dump are read one member at a time, each where it is needed, so that a malformed value
is a fault only where something depends on it. What a fault says names the kind of the value.
-/

namespace CrateBook.Json

/-- The name of the kind of a value. -/
def kindName : Json → String
  | .null => "NoneType"
  | .bool _ => "bool"
  | .int _ => "int"
  | .decimal _ => "float"
  | .str _ => "str"
  | .arr _ => "list"
  | .obj _ => "dict"

/-- The kind of the value with a verdict on it. -/
def verdict (v : Json) (what : String) : String := "'" ++ v.kindName ++ "' object " ++ what

/-- The fault of a value that should be an object. -/
def lacks (v : Json) (what : String) : Fault :=
  .notAnObject (v.verdict ("has no attribute '" ++ what ++ "'"))

/-- The value of a member that an object may have. -/
def member? (key : String) : Json → Except Fault (Option Json)
  | .obj members => .ok (members.lookup key)
  | v => .error (v.lacks "get")

/-- The value of a member, null when the object does not have it. -/
def memberOrNull (key : String) (v : Json) : Except Fault Json :=
  return (← v.member? key).getD .null

/-- The value of a member under its name or, when the object does not have it, under an older
name. -/
def memberOr (key older : String) (v : Json) : Except Fault Json := do
  let old ← v.memberOrNull older
  return (← v.member? key).getD old

/-- The value of a member that an object must have. -/
def member (key : String) : Json → Except Fault Json
  | .obj members =>
    match members.lookup key with
    | some v => .ok v
    | none => .error (.missingKey key)
  | .str _ => .error (.typeMismatch "string indices must be integers, not 'str'")
  | .arr _ => .error (.typeMismatch "list indices must be integers or slices, not str")
  | v => .error (.typeMismatch (v.verdict "is not subscriptable"))

/-- The value is the text `s`. -/
def isText (s : String) : Json → Bool
  | .str t => t == s
  | _ => false

/-- An object has a member of this name; a text or an array mentions it. -/
def mentions (key : String) : Json → Except Fault Bool
  | .obj members => .ok (members.any (·.1 == key))
  | .str s => .ok (Text.contains s key)
  | .arr items => .ok (items.any (isText key))
  | v => .error (.typeMismatch ("argument of type '" ++ v.kindName ++ "' is not iterable"))

/-- The parts of a value: the items of an array, the keys of an object, the characters of a
text. -/
def parts : Json → Except Fault (List Json)
  | .arr items => .ok items
  | .obj members => .ok (members.map fun m => .str m.1)
  | .str s => .ok (s.toList.map fun c => .str (String.singleton c))
  | v => .error (.typeMismatch (v.verdict "is not iterable"))

/-- The parts of a value, none when it is falsy. -/
def partsIfAny (v : Json) : Except Fault (List Json) := if v.truthy then v.parts else .ok []

/-- How many parts a value has, none when it is falsy. -/
def size : Json → Except Fault Nat
  | .arr items => .ok items.length
  | .obj members => .ok members.length
  | .str s => .ok s.toList.length
  | v =>
    if v.truthy then .error (.typeMismatch ("object of type '" ++ v.kindName ++ "' has no len()"))
    else .ok 0

/-- The value, or the empty object when it is falsy. -/
def orObject (v : Json) : Json := if v.truthy then v else .obj []

/-- The first member of an object. -/
def firstMember : Json → Except Fault (String × Json)
  | .obj (m :: _) => .ok m
  | .obj [] => .error .emptyObject
  | v => .error (v.lacks "items")

/-- The members of an object. -/
def members : Json → Except Fault (List (String × Json))
  | .obj members => .ok members
  | v => .error (v.lacks "items")

/-- A number with a fraction or an exponent as part of a text. -/
def decimalText : String → String
  | "Infinity" => "inf"
  | "-Infinity" => "-inf"
  | "NaN" => "nan"
  | text => text

mutual

/-- A value inside another one: texts stand between quotes. -/
def innerText : Json → String
  | .null => "None"
  | .bool b => if b then "True" else "False"
  | .int n => toString n
  | .decimal text => decimalText text
  | .str s => Text.quotedName s
  | .arr items => "[" ++ ", ".intercalate (innerTexts items) ++ "]"
  | .obj members => "\x7b" ++ ", ".intercalate (innerMembers members) ++ "\x7d"

/-- Values inside another one. -/
def innerTexts : List Json → List String
  | [] => []
  | v :: vs => innerText v :: innerTexts vs

/-- Members inside a value. -/
def innerMembers : List (String × Json) → List String
  | [] => []
  | (k, v) :: ms => (Text.quotedName k ++ ": " ++ innerText v) :: innerMembers ms

end

/-- A value as part of a text. -/
def display : Json → String
  | .str s => s
  | v => v.innerText

mutual

/-- How deep a value is nested. -/
def depth : Json → Nat
  | .arr items => depthOfItems items + 1
  | .obj members => depthOfMembers members + 1
  | _ => 1

/-- How deep the deepest item is nested. -/
def depthOfItems : List Json → Nat
  | [] => 0
  | v :: vs => max v.depth (depthOfItems vs)

/-- How deep the deepest member is nested. -/
def depthOfMembers : List (String × Json) → Nat
  | [] => 0
  | (_, v) :: ms => max v.depth (depthOfMembers ms)

end

end CrateBook.Json
