import CrateBook.Json.Basic
import CrateBook.Text.Digits

/-!
# Reading JSON

The reader takes one character at a time and keeps the containers that are open around it, so that
reading a text is a fold of `Reader.step` over its characters and reading two texts in a row is
reading the second from where the first ended.

Besides standard JSON it accepts the numbers `NaN`, `Infinity` and `-Infinity`. An escape of half
a surrogate pair stands for the replacement character.
-/

namespace CrateBook.Json.Reader

open Number (natOfDigits)

/-- A container that is open: its parts so far, last first, and for a field the key whose value
is being read. -/
inductive Frame where
  | arr (done : List Json)
  | obj (done : List (String × Json))
  | field (done : List (String × Json)) (key : String)

/-- What is being read. A string is collected as code units, last first. -/
inductive Mode where
  | value
  | firstItem
  | firstKey
  | key
  | colon (key : String)
  | text (isKey : Bool) (units : List Nat)
  | escape (isKey : Bool) (units : List Nat)
  | hex (isKey : Bool) (units : List Nat) (missing : Nat) (unit : Nat)
  | word (chars : List Char)
  | done (v : Json)

/-- A point in a text: the open containers, innermost first, and what is being read. -/
structure State where
  frames : List Frame
  mode : Mode

/-- Space between tokens. -/
def isSpace (c : Char) : Bool := c = ' ' || c = '\t' || c = '\n' || c = '\r'

/-- A character of a number or a literal. -/
def isWordChar (c : Char) : Bool :=
  c.isAlphanum || c = '+' || c = '-' || c = '.'

/-- The characters of a sequence of code units, a surrogate pair being one character. -/
def charsOfUnits : List Nat → List Char
  | [] => []
  | u :: us =>
    if 0xD800 ≤ u && u < 0xDC00 then
      match us with
      | w :: ws =>
        if 0xDC00 ≤ w && w < 0xE000 then
          Char.ofNat (0x10000 + (u - 0xD800) * 0x400 + (w - 0xDC00)) :: charsOfUnits ws
        else '\uFFFD' :: charsOfUnits (w :: ws)
      | [] => ['\uFFFD']
    else (if 0xDC00 ≤ u && u < 0xE000 then '\uFFFD' else Char.ofNat u) :: charsOfUnits us

/-- The digits are not empty and have no needless zero in front. -/
def isIntegerPart (ds : List Char) : Bool :=
  !ds.isEmpty && (ds = ['0'] || ds.head? != some '0')

/-- What may follow the integer part: digits after a point and an exponent. -/
def isFractionPart (cs : List Char) : Bool :=
  let afterPoint := match cs with
    | '.' :: r => let (ds, r) := r.span Char.isDigit; if ds.isEmpty then none else some r
    | r => some r
  match afterPoint with
  | none => false
  | some [] => true
  | some (e :: r) =>
    let ds := match r with
      | '+' :: ds => ds
      | '-' :: ds => ds
      | ds => ds
    (e = 'e' || e = 'E') && !ds.isEmpty && ds.all Char.isDigit

/-- The number that a word spells. -/
def number? (cs : List Char) : Option Json :=
  let (negative, unsigned) := match cs with
    | '-' :: r => (true, r)
    | r => (false, r)
  let (ds, r) := unsigned.span Char.isDigit
  if !isIntegerPart ds || !isFractionPart r then none
  else if r.isEmpty then
    some (.int (if negative then -(natOfDigits ds : Int) else natOfDigits ds))
  else some (.decimal (Number.canonical (String.ofList cs)))

/-- The value that a word spells. -/
def wordValue? (cs : List Char) : Option Json :=
  let s := String.ofList cs
  if s = "null" then some .null
  else if s = "true" then some (.bool true)
  else if s = "false" then some (.bool false)
  else if s = "NaN" || s = "Infinity" || s = "-Infinity" then some (.decimal s)
  else number? cs

/-- The first character of a value. -/
def startValue (frames : List Frame) (c : Char) : Option State :=
  if c = '"' then some ⟨frames, .text false []⟩
  else if c = '[' then some ⟨.arr [] :: frames, .firstItem⟩
  else if c = '\x7b' then some ⟨.obj [] :: frames, .firstKey⟩
  else if isWordChar c then some ⟨frames, .word [c]⟩
  else none

/-- A character after the whole value `v`. -/
def afterValue (frames : List Frame) (v : Json) (c : Char) : Option State :=
  if isSpace c then some ⟨frames, .done v⟩
  else match frames with
    | .arr items :: rest =>
      if c = ',' then some ⟨.arr (v :: items) :: rest, .value⟩
      else if c = ']' then some ⟨rest, .done (.arr (v :: items).reverse)⟩
      else none
    | .field members key :: rest =>
      if c = ',' then some ⟨.obj ((key, v) :: members) :: rest, .key⟩
      else if c = '\x7d' then some ⟨rest, .done (object ((key, v) :: members).reverse)⟩
      else none
    | _ => none

/-- The state after the closing quote of a string. -/
def endText (frames : List Frame) (isKey : Bool) (units : List Nat) : State :=
  let s := String.ofList (charsOfUnits units.reverse)
  ⟨frames, if isKey then .colon s else .done (.str s)⟩

/-- The code unit that a one-letter escape stands for. -/
def escapeUnit? (c : Char) : Option Nat :=
  if c = '"' || c = '\\' || c = '/' then some c.toNat
  else if c = 'b' then some 8
  else if c = 'f' then some 12
  else if c = 'n' then some 10
  else if c = 'r' then some 13
  else if c = 't' then some 9
  else none

/-- Reads one character. -/
def step (s : State) (c : Char) : Option State :=
  match s.mode with
  | .value => if isSpace c then some s else startValue s.frames c
  | .firstItem =>
    if isSpace c then some s
    else if c = ']' then some ⟨s.frames.tail, .done (.arr [])⟩
    else startValue s.frames c
  | .firstKey =>
    if isSpace c then some s
    else if c = '\x7d' then some ⟨s.frames.tail, .done (.obj [])⟩
    else if c = '"' then some ⟨s.frames, .text true []⟩
    else none
  | .key =>
    if isSpace c then some s
    else if c = '"' then some ⟨s.frames, .text true []⟩
    else none
  | .colon key =>
    if isSpace c then some s
    else if c = ':' then
      match s.frames with
      | .obj members :: rest => some ⟨.field members key :: rest, .value⟩
      | _ => none
    else none
  | .text isKey units =>
    if c = '"' then some (endText s.frames isKey units)
    else if c = '\\' then some ⟨s.frames, .escape isKey units⟩
    else if c.toNat < 0x20 then none
    else some ⟨s.frames, .text isKey (c.toNat :: units)⟩
  | .escape isKey units =>
    if c = 'u' then some ⟨s.frames, .hex isKey units 4 0⟩
    else (escapeUnit? c).map fun u => ⟨s.frames, .text isKey (u :: units)⟩
  | .hex isKey units missing unit =>
    (Text.hexDigit? c).map fun d =>
      let unit := 16 * unit + d
      ⟨s.frames, if missing ≤ 1 then .text isKey (unit :: units)
        else .hex isKey units (missing - 1) unit⟩
  | .word chars =>
    if isWordChar c then some ⟨s.frames, .word (c :: chars)⟩
    else do afterValue s.frames (← wordValue? chars.reverse) c
  | .done v => afterValue s.frames v c

/-- Reads characters one after another. -/
def run (s : State) (cs : List Char) : Option State := cs.foldlM step s

/-- The value that a text holds when it ends here. -/
def finish? (s : State) : Option Json :=
  match s.frames, s.mode with
  | [], .done v => some v
  | [], .word chars => wordValue? chars.reverse
  | _, _ => none

end Reader

/-- The value that a text spells, if it is JSON. -/
def read? (s : String) : Option Json := do
  (← Reader.run ⟨[], .value⟩ s.toList) |> Reader.finish?

end CrateBook.Json
