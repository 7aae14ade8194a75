/-!
# Blank characters, trimming and words

Blank is meant in the sense of Unicode: the ASCII blanks, the four information separators, the
next-line and no-break spaces, and the spaces of the punctuation blocks. The zero-width space and
the byte order mark are not blank.

`squeeze` is the normal form of text on one line: its words, one space apart.
-/

namespace CrateBook.Text

/-- The blank characters. -/
def isBlank (c : Char) : Bool :=
  let n := c.toNat
  (9 ≤ n && n ≤ 13) || (28 ≤ n && n ≤ 32) || n == 0x85 || n == 0xA0 || n == 0x1680 ||
    (0x2000 ≤ n && n ≤ 0x200A) || n == 0x2028 || n == 0x2029 || n == 0x202F || n == 0x205F ||
    n == 0x3000

/-- Drops the trailing members of `l` that satisfy `p`. -/
def dropEndWhile (p : α → Bool) (l : List α) : List α :=
  (l.reverse.dropWhile p).reverse

/-- `s` without the leading characters that satisfy `p`. -/
def trimStartOf (p : Char → Bool) (s : String) : String :=
  String.ofList (s.toList.dropWhile p)

/-- `s` without the trailing characters that satisfy `p`. -/
def trimEndOf (p : Char → Bool) (s : String) : String :=
  String.ofList (dropEndWhile p s.toList)

/-- `s` without the characters at either end that satisfy `p`. -/
def trimOf (p : Char → Bool) (s : String) : String :=
  trimEndOf p (trimStartOf p s)

/-- `s` without leading blanks. -/
def trimStart (s : String) : String := trimStartOf isBlank s

/-- `s` without trailing blanks. -/
def trimEnd (s : String) : String := trimEndOf isBlank s

/-- `s` without blanks at either end. -/
def trim (s : String) : String := trimOf isBlank s

/-- The text holds no character that is not blank. The empty text counts. -/
def allBlank (s : String) : Bool := s.toList.all isBlank

/-- The maximal runs of characters that are not blank. -/
def wordRuns (cs : List Char) : List (List Char) :=
  (cs.splitOnP isBlank).filter (!·.isEmpty)

/-- The words of a text: its maximal runs of characters that are not blank. -/
def words (s : String) : List String := (wordRuns s.toList).map String.ofList

/-- The words of `s`, one space apart. -/
def squeeze (s : String) : String := " ".intercalate (words s)

end CrateBook.Text
