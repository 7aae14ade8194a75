import CrateBook.Build.Dump
import CrateBook.Cargo

/-!
# Work in a project

A workspace is a disk together with the answers of cargo. Work in it may change the disk, calls
cargo, reports notices, and may fail; what was done before a failure stays done.
-/

namespace CrateBook

/-- A workspace: its disk, the answers that cargo will give, the commands it was given and where,
and the notices so far. -/
structure Workspace where
  disk : Disk := {}
  cargo : Cargo.Script := []
  calls : List (String × Option String) := []
  notices : List Notice := []

/-- Work in a workspace. -/
abbrev Work := ExceptT Failure (StateM Workspace)

namespace Work

/-- Goes on with a value, or fails. -/
def orFail (r : Except Failure α) : Work α :=
  match r with
  | .ok a => pure a
  | .error f => throw f

/-- Work that only reports notices. -/
def ofReported (r : Reported α) : Work α := do
  let (result, notices) := r.run []
  modify fun w => { w with notices := w.notices ++ notices }
  orFail result

/-- Reports a notice. -/
def notify (n : Notice) : Work Unit := modify fun w => { w with notices := w.notices ++ [n] }

/-- The disk. -/
def disk : Work Disk := return (← get).disk

/-- Makes changes until one fails. -/
def makeChanges (changes : List Corpus.Change) : Work Unit := do
  let applied := Corpus.applyAll (← disk) changes
  modify fun w => { w with disk := applied.disk, notices := w.notices ++ applied.notices }
  match applied.failure with
  | none => return ()
  | some f => throw f

/-- Gives cargo a command, to be run in a directory. A reply with another status than zero is a
failure. -/
def callCargo (args : List String) (directory : Option String) : Work Cargo.Reply := do
  let command := " ".intercalate args
  let shown := "cargo " ++ command
  let (answer, script) := (← get).cargo.next command
  modify fun w => { w with cargo := script, calls := w.calls ++ [(shown, directory)] }
  match answer with
  | .unavailable reason => throw (.problem (.cargoFailed shown reason))
  | .reply r =>
    let written (d : Disk) : Disk := r.files.foldl (fun d f => (d.writeBytes f.1 f.2).1) d
    modify fun w => { w with disk := written w.disk }
    if r.code ≠ 0 then throw (.problem (.cargoFailed shown r.stderr))
    return r

/-- The project in a directory. -/
def project (directory : Option String) : Work Cargo.Project := do
  orFail (Cargo.Project.ofText (← callCargo Cargo.metadataArgs directory).stdout)

end Work

namespace Build

open Corpus (Report)
open Work

/-- The directory that holds all corpora of a project. -/
def outputRoot (p : Cargo.Project) (config : Json) : Except Fault Path := do
  Corpus.configuredPath p.target (← (← config.member "output").member "dir_name")

/-- Saves what a build has made. -/
def save (library : LibraryName) (out : Path) (format : String) (config : Json)
    (b : Corpus.Built) : Work Report := do
  makeChanges (b.changes library out format config)
  return b.report

/-- Builds the corpus of a library in the directory `out` from pages. -/
def buildFromPages (library : LibraryName) (docs out : Path) (config : Json) : Work Report := do
  save library out "html" config (← ofReported (fromPages (← disk) library docs config))

/-- Builds the corpus of a library in the directory `out` from a dump. -/
def buildFromDump (library : LibraryName) (dump out : Path) (config : Json) : Work Report := do
  save library out "json" config (← ofReported (fromDump (← disk) library dump config))

/-- Has cargo write the documentation of a library, and gives its directory. -/
def document (library : LibraryName) (directory : Option String) : Work Path := do
  notify (.documenting library.declared)
  let r ← callCargo (Cargo.docArgs library.declared) directory
  ofReported (orProblem (Cargo.docDirectory r.stderr))

/-- Has cargo write the dump of a library, and gives its path. -/
def dump (library : LibraryName) (p : Cargo.Project) (directory : Option String) : Work Path := do
  notify (.dumping library.declared)
  discard (callCargo (Cargo.dumpArgs library.declared) directory)
  let path := (p.target.child "doc").child (library.canonical ++ ".json")
  ofReported (requirePage (← disk) library path)
  return path

/-- Builds the corpus of a dependency of the project in a directory. -/
def build (name : String) (config : Json) (directory : Option String) : Work Report := do
  let p ← project directory
  let library ← orFail (p.library name)
  let root ← ofReported (orFault (outputRoot p config))
  let out := root.child library.canonical
  let format ← ofReported (orFault (do (← config.member "build").member "format"))
  if format.isText "json" then
    buildFromDump library (← dump library p directory) out config
  else buildFromPages library (← document library directory) out config

end Build

end CrateBook
