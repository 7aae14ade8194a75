import CrateBook.Build.Html
import CrateBook.Library.PageName
import CrateBook.Rustdoc.Overview

/-!
# Building from a dump

The pages of a crate are written from its dump, one for each public item. An item whose record lacks
a member or has a value of the wrong kind is noted in the report, or ends the build if the
configuration says so; every other fault ends the build.
-/

namespace CrateBook.Build

open Corpus (Built Resolver)
open Rustdoc (Crate Item)

/-- A fault that concerns only the item in which it is found. -/
def isOfItem : Fault → Bool
  | .missingKey _ => true
  | .typeMismatch _ => true
  | _ => false

/-- The full path of an item, the library under its canonical name. -/
def fullPath (library : LibraryName) (crate : Crate) (item : Item) : String :=
  let names := Text.splitOn (crate.qualifiedName item) "::"
  "::".intercalate (library.canonical :: names.drop 1)

/-- Writes the pages of items. -/
def writeItems (library : LibraryName) (crate : Crate) (failFast : Bool) :
    List Item → Built → Reported Built
  | [], b => return b
  | item :: rest, b =>
    let itemPath := fullPath library crate item
    match Rustdoc.itemPage crate item with
    | .ok text =>
      writeItems library crate failFast rest (addPage b itemPath (pageName itemPath) text)
    | .error f => do
      if failFast || !isOfItem f then throw (.fault f)
      report (.skipped itemPath f.message)
      writeItems library crate failFast rest (addOmission b itemPath item.id f.message)

/-- The crate in a dump. -/
def loadCrate (disk : Disk) (dump : Path) : Except Fault Crate := do
  match Json.read? (← disk.read dump) with
  | none => throw .notJson
  | some v => Crate.ofJson v

/-- What is built from the dump of a library. -/
def fromDump (disk : Disk) (library : LibraryName) (dump : Path) (config : Json) :
    Reported Built := do
  let failFast ← orFault (failsFast config)
  let crate ← orFault (loadCrate disk dump)
  let overview ← orFault (Rustdoc.overviewPage crate)
  let listing ← orFault (Rustdoc.listing crate)
  writeItems library crate failFast (← orFault crate.publicItems)
    { files := [(Resolver.overviewName, overview),
        (Resolver.listingName, Listing.page library.canonical listing)]
      report := { library := library.declared, digest := Config.digest config } }

end CrateBook.Build
