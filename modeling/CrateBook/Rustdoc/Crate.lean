import CrateBook.Rustdoc.Item
import CrateBook.Rustdoc.Kind
import CrateBook.Rustdoc.Ty.Read
import CrateBook.Text.Pieces

/-!
# Crates

A crate is its items by id, with the full paths of those that have one. `Crate.publicItems` are the
items that get pages of their own, in the order of their full names.
-/

namespace CrateBook.Rustdoc

/-- A crate. The parts of a path should be texts; they are looked at where the path is written. -/
structure Crate where
  root : String
  items : List (String × Item)
  paths : List (String × List Json)
  pathKinds : List (String × Json)
  version : Json
  formatVersion : Json

namespace Crate

/-- The items of an index by their ids; an item without an id has the key it stands under. -/
def readItems (index : Json) : Except Fault (List (String × Item)) := do
  let items ← (← index.orObject.members).mapM fun (key, v) => do
    let item ← Item.ofJson v
    return (if item.id == "" then key else item.id, item)
  return Json.lastOfEach items

/-- The crate that a value records. -/
def ofJson (v : Json) : Except Fault Crate := do
  let items ← readItems (← v.memberOrNull "index")
  let summaries ← (← v.memberOrNull "paths").orObject.members
  let summaries ← summaries.mapM fun (key, s) => do
    let segments ← (← s.memberOrNull "path").partsIfAny
    return (key, segments, (← s.member? "kind").getD (.str ""))
  return {
    root := (Item.key? (← v.memberOrNull "root")).getD ""
    items := items
    paths := summaries.map fun s => (s.1, s.2.1)
    pathKinds := summaries.map fun s => (s.1, s.2.2)
    version := ← v.memberOrNull "crate_version"
    formatVersion := ← v.memberOrNull "format_version" }

/-- The item with a key. -/
def item? (crate : Crate) (key : String) : Option Item := crate.items.lookup key

/-- The item with an id. -/
def get? (crate : Crate) (id : Json) : Option Item := do crate.item? (← Item.key? id)

/-- The module that holds all others. -/
def rootItem? (crate : Crate) : Option Item := crate.item? crate.root

/-- The name of the crate. -/
def name (crate : Crate) : String :=
  (crate.rootItem?.map (·.nameOr "Unknown")).getD "Unknown"

/-- The full path of the item with a key, if one is recorded. -/
def path? (crate : Crate) (key : String) : Option (List String) :=
  (crate.paths.lookup key).map (·.map Json.display)

/-- A recorded path can be written, without as many parts at its end as are left out. -/
def checkPath (crate : Crate) (left : Nat) (item : Item) : Except Fault Unit :=
  let parts := (crate.paths.lookup item.id).getD []
  joinable 0 ((parts.take (parts.length - left)).map fun
    | .str _ => none
    | v => some v)

/-- The full name of an item. -/
def qualifiedName (crate : Crate) (item : Item) : String :=
  match crate.path? item.id with
  | none | some [] => crate.name ++ "::" ++ item.displayName
  | some path => "::".intercalate path

/-- The full name of the module around an item, if the item is not at the top of its crate. -/
def namespace? (crate : Crate) (item : Item) : Option String :=
  match crate.path? item.id with
  | some (a :: b :: path) => some ("::".intercalate (a :: b :: path).dropLast)
  | _ => none

/-- The ids of what is declared inside implementations and traits. -/
def memberIds (crate : Crate) : Except Fault (List String) := do
  let holders := crate.items.filter fun i => i.2.kind == "impl" || i.2.kind == "trait"
  let ids ← holders.mapM fun i => (i.2.part "items").partsIfAny
  return ids.flatten.filterMap Item.key?

/-- The item gets a page of its own, unless it is a member of another one. -/
def isListed (crate : Crate) (item : Item) : Bool :=
  item.id != crate.root && item.name.truthy && item.isPublic && item.isOwn &&
    !memberKinds.contains item.kind &&
    (crate.paths.isEmpty || (crate.path? item.id).isSome)

/-- The items that get pages of their own, in the order of their full names. Items of one name
stay in the order in which the crate records them. -/
def publicItems (crate : Crate) : Except Fault (List Item) := do
  let members ← crate.memberIds
  let found := (crate.items.map (·.2)).filter fun i =>
    crate.isListed i && !members.contains i.id
  found.forM (crate.checkPath 0)
  return found.mergeSort fun a b => Text.le (crate.qualifiedName a) (crate.qualifiedName b)

end Crate

end CrateBook.Rustdoc
