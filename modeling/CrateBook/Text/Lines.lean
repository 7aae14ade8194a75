/-!
# Lines

A line ends at a line feed, a carriage return (with a line feed after it, the two are one end), a
vertical tab, a form feed, a file, group or record separator, the next-line character, or a line or
paragraph separator. Text that ends at a line end has no empty line after it.
-/

namespace CrateBook.Text

/-- The characters that end a line. -/
def isLineEnd (c : Char) : Bool :=
  let n := c.toNat
  (10 ≤ n && n ≤ 13) || (28 ≤ n && n ≤ 30) || n == 0x85 || n == 0x2028 || n == 0x2029

/-- The lines of `cs` without their ends. -/
def lineRuns : List Char → List (List Char)
  | [] => []
  | '\r' :: '\n' :: cs => [] :: lineRuns cs
  | c :: cs =>
    if isLineEnd c then [] :: lineRuns cs
    else match lineRuns cs with
      | [] => [[c]]
      | l :: ls => (c :: l) :: ls

/-- The lines of a text without their ends. -/
def lines (s : String) : List String := (lineRuns s.toList).map String.ofList

/-- Every line end of the two-character and the lone carriage-return kind becomes a line feed. -/
def feedRuns : List Char → List Char
  | [] => []
  | '\r' :: '\n' :: cs => '\n' :: feedRuns cs
  | c :: cs => (if c = '\r' then '\n' else c) :: feedRuns cs

/-- A text in which line feeds have taken the place of carriage returns. -/
def withLineFeeds (s : String) : String := String.ofList (feedRuns s.toList)

end CrateBook.Text
