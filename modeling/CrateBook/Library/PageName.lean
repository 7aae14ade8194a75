import CrateBook.Text.Blank
import CrateBook.Text.Pieces

/-!
# Names of pages

The page of an item is named for the path of the item: what follows a less-than sign is dropped,
two colons become a hyphen, and so does every run of characters that are not safe in a file name.
-/

namespace CrateBook

/-- A character that is safe in the name of a page. -/
def isPageChar (c : Char) : Bool := c.isAlphanum || c = '_' || c = '-'

/-- The text with each run of unsafe characters made one hyphen; `inRun` says that the last
character belongs to such a run. -/
def hyphenate (inRun : Bool) : List Char → List Char
  | [] => []
  | c :: cs =>
    if isPageChar c then c :: hyphenate false cs
    else if inRun then hyphenate true cs
    else '-' :: hyphenate true cs

/-- The name of the page of an item. -/
def pageName (itemPath : String) : String :=
  let base := String.ofList (itemPath.toList.takeWhile (· != '<'))
  let base := hyphenate false (Text.replace base "::" "-").toList
  let base := Text.trimOf (· == '-') (String.ofList base)
  (if base == "" then "Unknown" else base) ++ ".md"

end CrateBook
