import CrateBook.Build.Page
import CrateBook.Config.Basic
import CrateBook.Corpus.Resolver
import CrateBook.Listing.Count
import CrateBook.Listing.Page

/-!
# Building from pages

The pages of a library are found through its listing and converted one after another in the order
of the full paths of their items. A page that cannot be converted is noted in the report, or ends
the build if the configuration says so; the overview and the listing must be convertible.
-/

namespace CrateBook.Build

open Corpus (Built Change Report Resolver)

/-- The overview of a library: its page, and the counts of what its listing names. -/
def overview (page : String) (fragments : List String) : String :=
  Text.trimEnd page ++ "\n\n" ++
    Text.trimEnd ("\n".intercalate (Listing.fragmentCountLines fragments)) ++ "\n"

/-- What has been built after another page. -/
def addPage (b : Built) (itemPath page text : String) : Built where
  files := Json.setMember page text b.files
  itemMap := Json.setMember itemPath page b.itemMap
  report := b.report.addConverted itemPath

/-- What has been built after a page that could not be made. -/
def addOmission (b : Built) (itemPath source cause : String) : Built :=
  { b with report := b.report.addFailure ⟨itemPath, source, cause⟩ }

/-- Converts the pages of items. -/
def convertItems (disk : Disk) (skip : Page.SkipRules) (docs : Path) (failFast : Bool) :
    List (String × String) → Built → Reported Built
  | [], b => return b
  | (itemPath, fragment) :: rest, b =>
    match convertPage disk skip (docs.child fragment) with
    | .ok text => do
      let page ← orFault (Listing.markdownPath fragment)
      convertItems disk skip docs failFast rest (addPage b itemPath page text)
    | .error (.fault f) => throw (.fault f)
    | .error (.problem p) => do
      if failFast then throw (.problem p)
      report (.skipped itemPath p.message)
      convertItems disk skip docs failFast rest (addOmission b itemPath fragment p.message)

/-- Whether a build ends at the first page that cannot be made. -/
def failsFast (config : Json) : Except Fault Bool := do
  return (← (← config.member "build").member "fail_fast").truthy

/-- The page at `p`, which must be there. -/
def requirePage (disk : Disk) (library : LibraryName) (p : Path) : Reported Unit := do
  if !(← orFault (disk.has p)) then throw (.problem (.docsMissing library.declared p.toString))

/-- What is built from the documentation of a library in the directory `docs`. -/
def fromPages (disk : Disk) (library : LibraryName) (docs : Path) (config : Json) :
    Reported Built := do
  let skip ← orFault (do Page.SkipRules.default.extendedBy (← config.member "skip"))
  let failFast ← orFault (failsFast config)
  let indexPage := docs.child "index.html"
  let listingPage := docs.child "all.html"
  requirePage disk library indexPage
  requirePage disk library listingPage
  report (.reading docs)
  let listing := Html.parse (← orFault (disk.read listingPage))
  for d in Listing.duplicates listing do report (.duplicate d)
  let index ← orProblem (Listing.index library.canonical listing)
  report (.found index.length listingPage)
  let page ← orFailure (convertPage disk skip indexPage)
  let all ← orFailure (convertPage disk skip listingPage)
  convertItems disk skip docs failFast (index.mergeSort fun a b => Text.le a.1 b.1)
    { files := [(Resolver.overviewName, overview page (index.map (·.2))),
        (Resolver.listingName, Listing.page library.canonical all)]
      report := { library := library.declared, digest := Config.digest config } }

end CrateBook.Build
