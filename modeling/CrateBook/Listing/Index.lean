import CrateBook.Error
import CrateBook.Html.Selector
import CrateBook.Json.Basic

/-!
# The index of a library

The page of all items links to the page of each item. The index maps the names of the items to the
fragments that the links lead to; of two links with one name the later one counts, and it is noted
when they lead to different pages.
-/

namespace CrateBook.Listing

open Html (Node)

/-- Which elements of a listing are links to items. -/
def itemLink : Html.Selector :=
  [⟨{ name := "a" },
    [(.ancestor, { name := "li" }), (.ancestor, { name := "ul", classes := ["all-items"] })]⟩]

/-- How `itemLink` is written. -/
def itemLinkText : String := "ul.all-items li a"

/-- A link of a listing: the name it shows and the fragment it leads to, if it leads anywhere. -/
structure Link where
  name : String
  fragment : Option String
  deriving DecidableEq, Repr

/-- The links to items. -/
def links (doc : List Node) : List Link :=
  (Html.selectAll itemLink doc).map fun e =>
    let fragment := ((Html.attr? "href" e.attrs).map (·.toText)).filter (· != "")
    ⟨Text.trim e.text, fragment⟩

/-- Two links that show one name and lead to different pages. -/
structure Duplicate where
  name : String
  earlier : String
  later : String
  deriving DecidableEq, Repr

/-- The fragments by name, with those of `done` before them. -/
def entriesAfter (done : List (String × String)) : List Link →
    Except Problem (List (String × String))
  | [] => .ok done
  | ⟨name, none⟩ :: _ =>
    .error (.elementNotFound (itemLinkText ++ "[href]") name "item link has no href attribute")
  | ⟨name, some fragment⟩ :: rest => entriesAfter (Json.setMember name fragment done) rest

/-- The duplicates up to the first link that leads nowhere, after the entries `done`. -/
def duplicatesAfter (done : List (String × String)) : List Link → List Duplicate
  | [] => []
  | ⟨_, none⟩ :: _ => []
  | ⟨name, some fragment⟩ :: rest =>
    let rest := duplicatesAfter (Json.setMember name fragment done) rest
    match done.lookup name with
    | some earlier => if earlier = fragment then rest else ⟨name, earlier, fragment⟩ :: rest
    | none => rest

/-- The duplicates of a listing. -/
def duplicates (doc : List Node) : List Duplicate := duplicatesAfter [] (links doc)

/-- The fragments by the names of a listing, which must not be empty. -/
def entries (doc : List Node) : Except Problem (List (String × String)) := do
  let found ← entriesAfter [] (links doc)
  if found.isEmpty then
    throw (.elementNotFound itemLinkText (Html.runningText doc)
      "failed to find item mappings in documentation, no items found")
  return found

/-- The fragments by the full names of the items of a library. -/
def index (library : String) (doc : List Node) : Except Problem (List (String × String)) :=
  return (← entries doc).map fun e => (library ++ "::" ++ e.1, e.2)

end CrateBook.Listing
