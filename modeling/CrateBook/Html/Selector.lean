import CrateBook.Html.Node
import CrateBook.Text.Blank

/-!
# Selectors

A selector is a list of alternatives. Each asks for an element by its name, ids, classes and
attributes and for elements around it: a parent (`>`) or any ancestor (a blank).
-/

namespace CrateBook.Html

/-- What is asked of one element. -/
structure Compound where
  name : Option String := none
  ids : List String := []
  classes : List String := []
  attrs : List (String × Option String) := []
  deriving DecidableEq, Repr

/-- Where the next element outwards must stand. -/
inductive Combinator where
  | parent
  | ancestor
  deriving DecidableEq, Repr

/-- One alternative: an element, and the elements around it from the inside out. -/
structure Alternative where
  subject : Compound
  around : List (Combinator × Compound)
  deriving DecidableEq, Repr

/-- A selector. -/
abbrev Selector := List Alternative

/-- The classes of an element. -/
def Element.classes (e : Element) : List String :=
  match attr? "class" e.attrs with
  | some (.tokens l) => l
  | some (.text s) => Text.words s
  | none => []

/-- The element has the attribute, and the value if one is given. Names of attributes are compared
without regard to case. -/
def Element.hasAttr (e : Element) (name : String) (value : Option String) : Bool :=
  match e.attrs.find? fun a => asciiLower a.1 == asciiLower name with
  | none => false
  | some a => value.all fun v => v == a.2.toText

/-- The element is what the compound asks for. -/
def Compound.isMet (c : Compound) (e : Element) : Bool :=
  c.name.all (fun n => n == "*" || asciiLower n == asciiLower e.name) &&
    c.ids.all (fun id => (attr? "id" e.attrs).any fun v => v.toText == id) &&
    c.classes.all (e.classes.contains ·) &&
    c.attrs.all fun a => e.hasAttr a.1 a.2

/-- The list and its shorter ends. -/
def tails : List α → List (List α)
  | [] => [[]]
  | a :: l => (a :: l) :: tails l

/-- The elements around an element, from the inside out, are those asked for. -/
def isMetAround : List (Combinator × Compound) → List Element → Bool
  | [], _ => true
  | (.parent, c) :: more, around =>
    match around with
    | [] => false
    | e :: rest => c.isMet e && isMetAround more rest
  | (.ancestor, c) :: more, around =>
    (tails around).any fun
      | [] => false
      | e :: rest => c.isMet e && isMetAround more rest

/-- The element, with the elements around it, is one that the selector asks for. -/
def Selector.isMet (s : Selector) (e : Element) (around : List Element) : Bool :=
  s.any fun a => a.subject.isMet e && isMetAround a.around around

mutual

/-- The elements at a node, in document order, each with the elements around it. -/
def Node.placed (around : List Element) : Node → List (Element × List Element)
  | .element name attrs children =>
    let e : Element := ⟨name, attrs, children⟩
    (e, around) :: placedIn (e :: around) children
  | _ => []

/-- The elements at a list of nodes, in document order, each with the elements around it. -/
def placedIn (around : List Element) : List Node → List (Element × List Element)
  | [] => []
  | n :: ns => n.placed around ++ placedIn around ns

end

/-- The elements that a selector asks for, in document order. -/
def selectAll (s : Selector) (doc : List Node) : List Element :=
  ((placedIn [] doc).filter fun p => s.isMet p.1 p.2).map (·.1)

/-! ## Reading selectors -/

namespace Selector

/-- A part of a written selector. -/
inductive Part where
  | name (s : String)
  | id (s : String)
  | cls (s : String)
  | attr (name : String) (value : Option String)
  | comma
  | child
  | space
  deriving DecidableEq, Repr

/-- The blanks of a written selector. -/
def isSpace (c : Char) : Bool :=
  c = ' ' || c = '\t' || c = '\n' || c = '\r' || c = '\x0c'

/-- A character inside a name. -/
def isNameChar (c : Char) : Bool :=
  c.isAlphanum || c = '_' || c = '-' || c.toNat ≥ 0xA0

/-- A name at the start of `cs`: it does not start with a digit, nor with a dash and no name after
it. -/
def name? (cs : List Char) : Option (List Char) :=
  match cs.takeWhile isNameChar with
  | [] => none
  | '-' :: c :: r => if c.isDigit then none else some ('-' :: c :: r)
  | ['-'] => none
  | c :: r => if c.isDigit then none else some (c :: r)

/-- A value at the start of `cs`, quoted or a name, with the number of characters it takes. -/
def value? (cs : List Char) : Option (String × Nat) :=
  match cs with
  | [] => none
  | q :: r =>
    if q = '"' || q = '\x27' then
      let v := r.takeWhile (· != q)
      if (r.drop v.length).isEmpty then none else some (String.ofList v, v.length + 2)
    else (name? cs).map fun n => (String.ofList n, n.length)

/-- The number of blanks at the start of `cs`. -/
def spaces (cs : List Char) : Nat := (cs.takeWhile isSpace).length

/-- What stands between the brackets of an attribute test, with the number of characters that it
takes together with the closing bracket. -/
def attrTest? (cs : List Char) : Option (Part × Nat) := do
  let before := spaces cs
  let name ← name? (cs.drop before)
  let read := before + name.length
  let read := read + spaces (cs.drop read)
  match cs.drop read with
  | ']' :: _ => some (.attr (String.ofList name) none, read + 1)
  | '=' :: r =>
    let read := read + 1 + spaces r
    let (v, n) ← value? (cs.drop read)
    let read := read + n
    let read := read + spaces (cs.drop read)
    match cs.drop read with
    | ']' :: _ => some (.attr (String.ofList name) (some v), read + 1)
    | _ => none
  | _ => none

/-- The part at the start of `c :: cs`, with the number of characters that it takes. Blanks around
a comma or a `>` belong to it. -/
def part? (c : Char) (cs : List Char) : Option (Part × Nat) :=
  let blanks := spaces (c :: cs)
  let sign (c : Char) (p : Part) (r : List Char) : Option (Part × Nat) :=
    if r.head? == some c then some (p, blanks + 1 + spaces r.tail) else none
  let rest := (c :: cs).drop blanks
  sign ',' .comma rest <|> sign '>' .child rest <|>
    if blanks > 0 then some (.space, blanks)
    else if c = '*' then some (.name "*", 1)
    else if c = '.' then (name? cs).map fun n => (.cls (String.ofList n), n.length + 1)
    else if c = '#' then (name? cs).map fun n => (.id (String.ofList n), n.length + 1)
    else if c = '[' then (attrTest? cs).map fun (p, n) => (p, n + 1)
    else (name? (c :: cs)).map fun n => (.name (String.ofList n), n.length)

/-- The parts of a written selector; `skip` characters at the start belong to the last part. -/
def partsFrom (skip : Nat) : List Char → Option (List Part)
  | [] => some []
  | c :: cs =>
    match skip with
    | n + 1 => partsFrom n cs
    | 0 => do
      let (p, n) ← part? c cs
      return p :: (← partsFrom (n - 1) cs)

/-- A selector that is being read: the alternatives so far, last first, the elements around the
next one from the inside out, and the compound so far. -/
structure State where
  done : List Alternative := []
  around : List (Combinator × Compound) := []
  compound : Option Compound := none

/-- Takes a part. -/
def State.step (s : State) (p : Part) : Option State :=
  let c := s.compound.getD {}
  let around (sign : Combinator) : Option State :=
    s.compound.map fun c => { s with around := (sign, c) :: s.around, compound := none }
  match p with
  | .name n =>
    if s.compound.isSome then none else some { s with compound := some { name := some n } }
  | .id i => some { s with compound := some { c with ids := c.ids ++ [i] } }
  | .cls k => some { s with compound := some { c with classes := c.classes ++ [k] } }
  | .attr n v => some { s with compound := some { c with attrs := c.attrs ++ [(n, v)] } }
  | .space => around .ancestor
  | .child => around .parent
  | .comma => s.compound.map fun c => { done := ⟨c, s.around⟩ :: s.done }

/-- The selector when no part follows. -/
def State.finish? (s : State) : Option Selector :=
  s.compound.map fun c => (⟨c, s.around⟩ :: s.done).reverse

/-- The selector that a text spells, blanks at its ends left out. -/
def parse? (s : String) : Option Selector := do
  let cs := (Text.dropEndWhile isSpace s.toList).dropWhile isSpace
  (← (← partsFrom 0 cs).foldlM State.step {}).finish?

end Selector

end CrateBook.Html
