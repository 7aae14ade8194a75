import CrateBook.Corpus.Change
import CrateBook.Library.ItemPath

/-!
# Resolving item paths

A resolver finds the pages of items below a directory that holds one corpus for each library. It
keeps the sidecars that it has read until it is told to forget them.
-/

namespace CrateBook.Corpus

/-- A resolver: where the corpora are, what their sidecars are called, and the sidecars that it has
read, by the canonical names of the libraries. -/
structure Resolver where
  root : Path
  sidecarName : Json := .str "metadata.json"
  known : List (String × Sidecar) := []

namespace Resolver

/-- The name of the overview of a library. -/
def overviewName : String := "index.md"

/-- The name of the listing of a library. -/
def listingName : String := "all.md"

/-- The directory of a library. -/
def libraryPath (r : Resolver) (l : LibraryName) : Path := r.root.child l.canonical

/-- The path of the sidecar of a library. -/
def sidecarPath (r : Resolver) (l : LibraryName) : Except Fault Path :=
  configuredPath (r.libraryPath l) r.sidecarName

/-- The sidecar of a library, none when it has no corpus; and the resolver that knows it. -/
def load (r : Resolver) (disk : Disk) (l : LibraryName) :
    Resolver × Except Failure (Option Sidecar) :=
  match r.known.lookup l.canonical, r.sidecarPath l with
  | some s, _ => (r, .ok (some s))
  | none, .error f => (r, .error (.fault f))
  | none, .ok path =>
    match disk.has path with
    | .error f => (r, .error (.fault f))
    | .ok false => (r, .ok none)
    | .ok true =>
      match Sidecar.load disk path with
      | .error p => (r, .error (.problem p))
      | .ok s => ({ r with known := Json.setMember l.canonical s r.known }, .ok (some s))

/-- The resolver after it has forgotten the sidecar of a library. -/
def forget (r : Resolver) (l : LibraryName) : Resolver :=
  { r with known := r.known.filter (·.1 != l.canonical) }

/-- The page of an item by the sidecar of its library, if there is one. A path that names only a
library leads to its overview. -/
def pagePath (r : Resolver) (p : ItemPath) (s : Option Sidecar) : Except Failure Path :=
  let l : LibraryName := ⟨p.library⟩
  let unresolved : Failure := .problem (.unresolved p.raw l.declared)
  match s with
  | none => .error unresolved
  | some s =>
    if p.item?.isNone then .ok ((r.libraryPath l).child overviewName)
    else match s.itemMap.lookup (p.qualified l.canonical) with
      | none | some .null => .error unresolved
      | some page => (configuredPath (r.libraryPath l) page).mapError .fault

/-- The page of an item, and the resolver that knows the sidecar of its library. -/
def resolve (r : Resolver) (disk : Disk) (p : ItemPath) : Resolver × Except Failure Path :=
  let (r, s) := r.load disk ⟨p.library⟩
  (r, s >>= r.pagePath p)

/-- The listing of a library, and the resolver that knows its sidecar. -/
def listingPath (r : Resolver) (disk : Disk) (name : String) : Resolver × Except Failure Path :=
  let l : LibraryName := ⟨name⟩
  let (r, s) := r.load disk l
  (r, do
    match ← s with
    | none => throw (.problem (.unresolved name l.declared))
    | some _ => return (r.libraryPath l).child listingName)

end Resolver

end CrateBook.Corpus
