import CrateBook.Workspace

/-!
# Showing and listing items

Before an item is shown or the items of a library are listed, the library is built if it has no
corpus yet, or if its corpus was built with a configuration of another digest.
-/

namespace CrateBook.Browse

open Corpus (Resolver Sidecar)
open Work

/-- A resolver for the project in a directory. -/
def resolverFor (config : Json) (directory : Option String) : Work Resolver := do
  let p ← project directory
  let root ← ofReported (orFault (Build.outputRoot p config))
  let name ← ofReported (orFault (do (← config.member "output").member "metadata_file"))
  return { root := root, sidecarName := name }

/-- The sidecar of a library, none when there is no readable one; and the resolver that knows it. -/
def readableSidecar (r : Resolver) (l : LibraryName) : Work (Resolver × Option Sidecar) := do
  match r.load (← disk) l with
  | (r, .ok s) => return (r, s)
  | (r, .error (.problem p)) =>
    notify (.unreadable p)
    return (r, none)
  | (_, .error f) => throw f

/-- The corpus that a sidecar describes was built with a configuration. -/
def isCurrent (s : Sidecar) (config : Json) : Bool := s.digest.isText (Config.digest config)

/-- Builds a library unless its corpus is current, and says whether it did. -/
def ensureBuilt (r : Resolver) (l : LibraryName) (config : Json) (directory : Option String) :
    Work (Resolver × Bool) := do
  let (r, s) ← readableSidecar r l
  if s.any (isCurrent · config) then return (r, false)
  notify (if s.isNone then .notBuilt l.declared else .configChanged l.declared)
  discard (Build.build l.declared config directory)
  return (r.forget l, true)

/-- The Markdown of an item. -/
def showItem (itemPath : String) (config : Json) (directory : Option String) : Work String := do
  let path ← ofReported (orProblem (ItemPath.parse itemPath))
  let r ← resolverFor config directory
  let (r, _) ← ensureBuilt r ⟨path.library⟩ config directory
  let page ← orFail (r.resolve (← disk) path).2
  ofReported (orFault ((← disk).read page))

/-- The listing of a library. -/
def listItems (library : String) (config : Json) (directory : Option String) : Work String := do
  let name ← ofReported (orProblem (parseLibrary library))
  let r ← resolverFor config directory
  let (r, _) ← ensureBuilt r ⟨name⟩ config directory
  let listing ← orFail (r.listingPath (← disk) name).2
  ofReported (orFault ((← disk).read listing))

end CrateBook.Browse
