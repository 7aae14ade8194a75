import CrateBook.Json.Compare
import CrateBook.Listing.Count
import CrateBook.Listing.Page
import CrateBook.Rustdoc.ItemPage

/-!
# The overview and the listing of a crate

The overview of a crate counts its items by kind and names them. The listing names them by their
paths inside the crate and has the form of a listing page, which `Listing.page` completes.
-/

namespace CrateBook.Rustdoc

/-- Adds a name to the group with a label. -/
def addToGroup (groups : List (String × List Json)) (label : String) (name : Json) :
    List (String × List Json) :=
  Json.setMember label ((groups.lookup label).getD [] ++ [name]) groups

/-- Names by label, labels in the order of their code points. -/
def groupsOf (named : List (String × Json)) : List (String × List Json) :=
  (named.foldl (fun groups n => addToGroup groups n.1 n.2) []).mergeSort fun a b => Text.le a.1 b.1

/-- The names of each group can be brought into order. -/
def checkGroups (named : List (String × Json)) : Except Fault Unit :=
  (groupsOf named).forM fun g => Json.comparable g.2

/-- Names by label, labels in the order of their code points and names in theirs. -/
def groupNames (named : List (String × Json)) : List (String × List String) :=
  (groupsOf named).map fun g => (g.1, (g.2.mergeSort Json.le).map Json.display)

/-- The title of the section for a label. -/
def sectionTitle (label : String) : String :=
  match label with
  | "Type Alias" => "Type Aliases"
  | "Trait Alias" => "Trait Aliases"
  | label => label ++ "s"

/-- The overview of a crate. -/
def overviewPage (crate : Crate) : Except Fault String := do
  let items ← crate.publicItems
  let named := items.map fun i => (kindLabel i.kind, i.name)
  checkGroups named
  let groups := groupNames named
  let docs := crate.rootItem?.elim .null (·.docs)
  Docs.check docs
  let docs := Docs.clean (Docs.textOf docs)
  let version :=
    if crate.version.truthy then ["**Version:** " ++ crate.version.display, ""] else []
  return pageOf ([Markdown.heading 1 crate.name, ""] ++
    (if docs == "" then [] else [docs, ""]) ++ version ++
    Listing.countLines (groups.map fun g => (g.1, (g.2.length : Int))) ++
    groups.flatMap (fun g => Markdown.heading 3 g.1 :: "" :: g.2.map ("- " ++ ·) ++ [""]) ++
    Markdown.nextActions ["Browse all items: `cargo docmd list " ++ crate.name ++ "`"])

/-- The path of an item inside its crate, or its name where the path is empty. -/
def innerPath (crate : Crate) (item : Item) : Json :=
  let path := "::".intercalate ((Text.splitOn (crate.qualifiedName item) "::").drop 1)
  if path == "" then item.name else .str path

/-- The listing of a crate. -/
def listing (crate : Crate) : Except Fault String := do
  let items ← crate.publicItems
  let named := items.map fun i => (kindLabel i.kind, innerPath crate i)
  checkGroups named
  return pageOf ([Markdown.heading 1 "List of all items", ""] ++
    (groupNames named).flatMap fun g =>
      Markdown.heading 3 (sectionTitle g.1) :: "" :: g.2.map ("- " ++ ·) ++ [""])

end CrateBook.Rustdoc
