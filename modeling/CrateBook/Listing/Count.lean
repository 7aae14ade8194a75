import CrateBook.Json.Basic
import CrateBook.Listing.Fragment
import CrateBook.Markdown.Basic
import CrateBook.Text.Letters

/-!
# Counts of items

An overview says how many items of each kind a library has.
-/

namespace CrateBook.Listing

/-- How often something is counted, by its label. -/
abbrev Counts := List (String × Int)

/-- The sum of all counts. -/
def Counts.total (counts : Counts) : Int := counts.foldl (fun n c => n + c.2) 0

/-- The section on counts, the labels in the order of their code points. -/
def countLines (counts : Counts) : List String :=
  let head := [Markdown.heading 2 "Item Counts", ""]
  let total := Counts.total counts
  if total = 0 then head ++ ["No public items found.", ""]
  else
    let sorted := counts.mergeSort fun a b => Text.le a.1 b.1
    head ++ ["**Total**: " ++ toString total ++ " public items", ""] ++
      sorted.map (fun c => "- **" ++ c.1 ++ "**: " ++ toString c.2) ++ [""]

/-- One more under a label. -/
def Counts.add (counts : Counts) (label : String) : Counts :=
  Json.setMember label ((counts.lookup label).getD 0 + 1) counts

/-- How often each label occurs. -/
def countOf (labels : List String) : Counts := labels.foldl Counts.add []

/-- The section on the counts of listed pages. -/
def fragmentCountLines (fragments : List String) : List String :=
  countLines (countOf (fragments.map fragmentLabel))

end CrateBook.Listing
