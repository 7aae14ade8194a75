import CrateBook.Json.Basic
import CrateBook.Text.Digits

/-!
# Writing JSON

Every character outside printable ASCII is escaped, so the text is pure ASCII: control characters by
a letter where JSON has one, all others by their UTF-16 code units in four lower-case hexadecimal
digits. `Json.compact` writes on one line with a space after commas and colons; `Json.pretty`
writes each part on a line of its own, indented by two spaces for each level.
-/

namespace CrateBook.Json

/-- The escape of a code unit. -/
def unitEscape (u : Nat) : List Char := '\\' :: 'u' :: Text.hexDigits 4 u

/-- How a character is written inside a string. -/
def charText (c : Char) : List Char :=
  let n := c.toNat
  if c = '"' then ['\\', '"']
  else if c = '\\' then ['\\', '\\']
  else if 0x20 ≤ n && n < 0x7F then [c]
  else if n = 8 then ['\\', 'b']
  else if n = 9 then ['\\', 't']
  else if n = 10 then ['\\', 'n']
  else if n = 12 then ['\\', 'f']
  else if n = 13 then ['\\', 'r']
  else if n < 0x10000 then unitEscape n
  else unitEscape (0xD800 + (n - 0x10000) / 0x400) ++ unitEscape (0xDC00 + (n - 0x10000) % 0x400)

/-- A string between quotes. -/
def quoted (s : String) : String :=
  String.ofList ('"' :: s.toList.flatMap charText ++ ['"'])

/-- The parts between two brackets. -/
def bracketed (left right : String) (parts : List String) : String :=
  left ++ ", ".intercalate parts ++ right

mutual

/-- The value on one line. -/
def compact : Json → String
  | .null => "null"
  | .bool b => if b then "true" else "false"
  | .int n => toString n
  | .decimal text => text
  | .str s => quoted s
  | .arr items => bracketed "[" "]" (compactItems items)
  | .obj members => bracketed "\x7b" "\x7d" (compactMembers members)

/-- The items of an array. -/
def compactItems : List Json → List String
  | [] => []
  | v :: vs => compact v :: compactItems vs

/-- The members of an object. -/
def compactMembers : List (String × Json) → List String
  | [] => []
  | (k, v) :: ms => (quoted k ++ ": " ++ compact v) :: compactMembers ms

end

/-- A new line at a level of nesting. -/
def newLine (depth : Nat) : String := String.ofList ('\n' :: List.replicate (2 * depth) ' ')

/-- The parts between two brackets, each on a line of its own; without parts nothing stands between
the brackets. -/
def stacked (left right : String) (depth : Nat) (parts : List String) : String :=
  if parts.isEmpty then left ++ right
  else left ++ newLine (depth + 1) ++ ("," ++ newLine (depth + 1)).intercalate parts ++
    newLine depth ++ right

mutual

/-- The value at a level of nesting, each part on a line of its own. -/
def prettyAt (depth : Nat) : Json → String
  | .null => "null"
  | .bool b => if b then "true" else "false"
  | .int n => toString n
  | .decimal text => text
  | .str s => quoted s
  | .arr items => stacked "[" "]" depth (prettyItems (depth + 1) items)
  | .obj members => stacked "\x7b" "\x7d" depth (prettyMembers (depth + 1) members)

/-- The items of an array. -/
def prettyItems (depth : Nat) : List Json → List String
  | [] => []
  | v :: vs => prettyAt depth v :: prettyItems depth vs

/-- The members of an object. -/
def prettyMembers (depth : Nat) : List (String × Json) → List String
  | [] => []
  | (k, v) :: ms => (quoted k ++ ": " ++ prettyAt depth v) :: prettyMembers depth ms

end

/-- The value with each part on a line of its own. -/
def pretty (v : Json) : String := prettyAt 0 v

mutual

/-- The value with the members of every object sorted by key. -/
def sortKeys : Json → Json
  | .arr items => .arr (sortItems items)
  | .obj members => .obj ((sortMembers members).mergeSort fun a b => !decide (b.1 < a.1))
  | v => v

/-- The items of an array with the members of every object sorted by key. -/
def sortItems : List Json → List Json
  | [] => []
  | v :: vs => sortKeys v :: sortItems vs

/-- The members of an object with sorted values. -/
def sortMembers : List (String × Json) → List (String × Json)
  | [] => []
  | (k, v) :: ms => (k, sortKeys v) :: sortMembers ms

end

end CrateBook.Json
