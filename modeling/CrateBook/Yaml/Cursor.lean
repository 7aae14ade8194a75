/-!
# Places in a YAML text

A cursor is a place in a text: what is left to read, and the line and the column of the next
character. The characters that end a line are the line feed, the next-line character and the line
and paragraph separators; a carriage return is no character of a text that is read here.
-/

namespace CrateBook.Yaml

/-- A place in a text. -/
structure Cursor where
  rest : List Char
  index : Nat := 0
  line : Nat := 0
  column : Nat := 0

/-- The character ends a line. -/
def isBreak (c : Char) : Bool :=
  c = '\n' || c.toNat = 0x85 || c.toNat = 0x2028 || c.toNat = 0x2029

/-- The character may stand in a text. -/
def isPrintable (c : Char) : Bool :=
  let n := c.toNat
  n = 9 || n = 10 || (0x20 ≤ n && n ≤ 0x7E) || n = 0x85 ||
    (0xA0 ≤ n && n ≤ 0xFFFD) || 0x10000 ≤ n

/-- The text ends here or goes on with a blank or on a new line. -/
def endsWord : List Char → Bool
  | [] => true
  | c :: _ => c = ' ' || c = '\t' || isBreak c

/-- The line ends here. -/
def endsLine : List Char → Bool
  | [] => true
  | c :: _ => isBreak c

/-- The text goes on with a mark between documents. -/
def atMark : List Char → Bool
  | '-' :: '-' :: '-' :: rest => endsWord rest
  | '.' :: '.' :: '.' :: rest => endsWord rest
  | _ => false

namespace Cursor

/-- The place after the next character. -/
def next (p : Cursor) : Cursor :=
  match p.rest with
  | [] => p
  | c :: rest =>
    if isBreak c then ⟨rest, p.index + 1, p.line + 1, 0⟩
    else ⟨rest, p.index + 1, p.line, if c = '\uFEFF' then p.column else p.column + 1⟩

/-- The place after `n` characters. -/
def skip (p : Cursor) : Nat → Cursor
  | 0 => p
  | n + 1 => p.next.skip n

/-- The characters from here on that satisfy `test`, and the place after them. -/
def span (p : Cursor) (test : Char → Bool) : List Char × Cursor :=
  let cs := p.rest.takeWhile test
  (cs, p.skip cs.length)

/-- The place after the characters that satisfy `test`. -/
def pass (p : Cursor) (test : Char → Bool) : Cursor := (p.span test).2

/-- The place after the spaces from here on. -/
def passSpaces (p : Cursor) : Cursor := p.pass (· = ' ')

/-- The place after the spaces from here on, no further than to a column. -/
def passIndent (p : Cursor) (column : Nat) : Cursor :=
  p.skip (min (p.rest.takeWhile (· = ' ')).length (column - p.column))

/-- A line end, as it counts in a text, and the place after it; nothing when no line ends here. -/
def lineEnd (p : Cursor) : List Char × Cursor :=
  match p.rest with
  | [] => ([], p)
  | c :: _ =>
    if isBreak c then ([if c.toNat = 0x85 then '\n' else c], p.next) else ([], p)

/-- The place after a comment, if one starts here. -/
def passComment (p : Cursor) : Cursor :=
  match p.rest with
  | '#' :: _ => p.pass (!isBreak ·)
  | _ => p

end Cursor

end CrateBook.Yaml
