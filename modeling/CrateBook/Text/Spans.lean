/-!
# Ranges of code points

Classes of characters are given as lists of inclusive ranges.
-/

namespace CrateBook.Text

/-- The code point lies in one of the ranges. -/
def inSpans (spans : List (Nat × Nat)) (n : Nat) : Bool :=
  spans.any fun s => s.1 ≤ n && n ≤ s.2

end CrateBook.Text
