import CrateBook.Text.CaseData
import CrateBook.Text.Spans
import CrateBook.Text.WordData

/-!
# Letters: title case, lower case and word characters

In title case a letter that follows no letter takes its title form and every other letter its
lower-case form. A capital sigma at the end of a word becomes the final form of the small letter.
-/

namespace CrateBook.Text

/-- A letter, a numeral or the underscore. -/
def isWordChar (c : Char) : Bool := inSpans wordSpans c.toNat

/-- The character has an upper, lower or title case. -/
def isCased (c : Char) : Bool := inSpans casedSpans c.toNat

/-- The image of a character under a case mapping. -/
def mapCase (expansions : List (Nat × List Nat)) (spans : List CaseSpan) (c : Char) : List Char :=
  match expansions.lookup c.toNat with
  | some ns => ns.map Char.ofNat
  | none =>
    match spans.find? (·.has c.toNat) with
    | some s => [Char.ofNat ((c.toNat : Int) + s.shift).toNat]
    | none => [c]

/-- The title form of a character. -/
def titleForm (c : Char) : List Char := mapCase titleExpansions titleSpans c

/-- The lower-case form of a character wherever it stands. -/
def lowerForm (c : Char) : List Char := mapCase lowerExpansions lowerSpans c

/-- The next character that case rules do not look past has a case. -/
def meetsCased (cs : List Char) : Bool :=
  match cs.dropWhile (fun c => inSpans caseIgnorableSpans c.toNat) with
  | [] => false
  | c :: _ => isCased c

/-- The lower-case form of `c` between the characters `before`, nearest first, and `after`. -/
def lowerFormIn (before : List Char) (c : Char) (after : List Char) : List Char :=
  if c = 'Σ' then [if meetsCased before && !meetsCased after then 'ς' else 'σ']
  else lowerForm c

/-- Title case of a text of which the characters `before`, nearest first, are done. -/
def titleRuns (before : List Char) : List Char → List Char
  | [] => []
  | c :: cs =>
    (if (before.head?.map isCased).getD false then lowerFormIn before c cs else titleForm c) ++
      titleRuns (c :: before) cs

/-- Lower case of a text of which the characters `before`, nearest first, are done. -/
def lowerRuns (before : List Char) : List Char → List Char
  | [] => []
  | c :: cs => lowerFormIn before c cs ++ lowerRuns (c :: before) cs

/-- The text in lower case. -/
def lowerCase (s : String) : String := String.ofList (lowerRuns [] s.toList)

/-- The text in title case. -/
def titleCase (s : String) : String := String.ofList (titleRuns [] s.toList)

end CrateBook.Text
