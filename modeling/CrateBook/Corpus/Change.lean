import CrateBook.Corpus.Report
import CrateBook.Corpus.Sidecar
import CrateBook.Library.Name
import CrateBook.Notice

/-!
# Changes to a corpus

A build decides on all changes before it makes the first one: the pages in the order of their paths,
then the sidecar, then the report, which is written when there are failures and removed when there
are none. The changes are made one after another until one fails, so a state of the disk between two
changes is that after a prefix of the list.
-/

namespace CrateBook.Corpus

/-- A change, or something to report or to fail with at its place among the changes. -/
inductive Change where
  | write (path : Path) (text : String)
  | remove (path : Path)
  | report (n : Notice)
  | fail (f : Failure)

/-- What comes of a change: the disk after it, and a notice or a failure. -/
def Change.apply (d : Disk) : Change → Disk × Except Failure (List Notice)
  | .write path text =>
    match d.write path text with
    | (d, .ok ()) => (d, .ok [])
    | (d, .error f) => (d, .error f)
  | .remove path =>
    match d.remove path with
    | .ok d => (d, .ok [])
    | .error f => (d, .error (.fault f))
  | .report n => (d, .ok [n])
  | .fail f => (d, .error f)

/-- What comes of changes: the disk after them, the notices, and the failure that ended them. -/
structure Applied where
  disk : Disk
  notices : List Notice := []
  failure : Option Failure := none

/-- Makes changes one after another until one fails. -/
def applyAll (d : Disk) : List Change → Applied
  | [] => ⟨d, [], none⟩
  | c :: cs =>
    match c.apply d with
    | (d, .ok ns) =>
      let rest := applyAll d cs
      { rest with notices := ns ++ rest.notices }
    | (d, .error f) => ⟨d, [], some f⟩

/-- After how many files progress is reported. -/
def progressStep : Nat := 200

/-- The changes that write files into a directory, in the order of their paths. -/
def fileChanges (out : Path) (files : List (String × String)) : List Change :=
  let sorted := files.mergeSort fun a b => Text.le a.1 b.1
  sorted.zipIdx.flatMap fun (file, place) =>
    .write (out.child file.1) file.2 ::
      if (place + 1) % progressStep = 0 then [.report (.progress (place + 1) files.length)] else []

/-- The path to a file that a configuration names. -/
def configuredPath (out : Path) : Json → Except Fault Path
  | .str s => .ok (out.child s)
  | v => .error (.typeMismatch ("a path is a text, not a value of kind " ++ v.kindName))

/-- What a build has made: the pages, the map from items to pages, and the report. -/
structure Built where
  files : List (String × String)
  itemMap : List (String × String) := []
  report : Report

/-- The sidecar of a corpus. -/
def Built.sidecar (b : Built) (library : LibraryName) (format : String) : Sidecar where
  declared := .str library.declared
  canonical := .str library.canonical
  itemMap := b.itemMap.map fun m => (m.1, .str m.2)
  format := .str format
  digest := .str b.report.digest

/-- The changes that write or remove a report. -/
def reportChanges (path : Path) (r : Report) : List Change :=
  if r.isComplete then [.remove path]
  else [.write path r.text, .report (.failures r.failures.length path)]

/-- The change with a path, or the failure where there is none. -/
def changesAt (path : Except Fault Path) (changes : Path → List Change) : List Change :=
  match path with
  | .ok path => changes path
  | .error f => [.fail (.fault f)]

/-- The changes that save what a build has made. -/
def Built.changes (b : Built) (library : LibraryName) (out : Path) (format : String)
    (config : Json) : List Change :=
  match config.member "output" with
  | .error f => [.fail (.fault f)]
  | .ok output =>
    fileChanges out b.files ++
      changesAt (do configuredPath out (← output.member "metadata_file")) fun sidecar =>
        [.write sidecar (b.sidecar library format).text,
          .report (.written b.files.length out)] ++
        changesAt (do configuredPath out (← output.member "report_file")) fun report =>
          reportChanges report b.report

end CrateBook.Corpus
