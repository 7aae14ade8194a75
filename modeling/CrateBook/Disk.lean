import CrateBook.Error
import CrateBook.Path
import CrateBook.Text.Lines

/-!
# Disks

A disk is a finite map from places to files and directories. A place is a list of names seen from
the working directory, which is a directory itself, like everything around it. Reading, writing and
removing take a path, which is walked name by name: every place on the way must be a directory, and
`..` leads back to the directory around a place. A name may be too long for the system to look it
up; `walkFrom` finds that out, and whoever walks hears of it.

A file is written in full or not at all. A failed write may leave behind directories that were made
for it.
-/

namespace CrateBook

/-- What stands at a place. -/
inductive Entry where
  | file (bytes : ByteArray)
  | directory

/-- A disk. -/
structure Disk where
  entries : List (List String × Entry) := []

/-- Why a path leads nowhere. -/
inductive Obstacle where
  /-- A place on the way is missing. -/
  | missing
  /-- A place on the way is a file. -/
  | file
  /-- A name or the whole path is longer than the system takes. -/
  | tooLong
  /-- A null character stands in the path. -/
  | null
  deriving DecidableEq, Repr

namespace Disk

/-- The place is the working directory or one around it. -/
def isAround (place : List String) : Bool := place == ["/"] || place.all (· == "..")

/-- What stands at a place. -/
def entry? (d : Disk) (place : List String) : Option Entry :=
  if isAround place then some .directory else d.entries.lookup place

/-- The disk with an entry at a place. -/
def put (d : Disk) (place : List String) (e : Entry) : Disk :=
  ⟨(place, e) :: d.entries.filter (·.1 != place)⟩

/-- The disk with nothing at a place. -/
def erase (d : Disk) (place : List String) : Disk := ⟨d.entries.filter (·.1 != place)⟩

/-- The place that a name leads to from a directory. -/
def step (place : List String) (name : String) : List String :=
  if name != ".." then place ++ [name]
  else if place == ["/"] then place
  else if place.all (· == "..") then place ++ [".."]
  else place.dropLast

/-- Where a path starts. -/
def start (p : Path) : List String := if p.root == "" then [] else ["/"]

/-- How many bytes a name may have. -/
def maxNameBytes : Nat := 255

/-- How many bytes a written path may take. -/
def maxPathBytes : Nat := 4096

/-- Why the system takes no path like this, wherever it would lead. -/
def refusal? (p : Path) : Option Obstacle :=
  if p.hasNull then some .null else if maxPathBytes < p.byteSize then some .tooLong else none

/-- The place that names lead to; there need not be anything at the place itself. A name that is too
long is found out only where the way to it is there. -/
def walkFrom (d : Disk) (place : List String) : List String → Except Obstacle (List String)
  | [] => .ok place
  | name :: rest =>
    match d.entry? place with
    | some .directory =>
      if maxNameBytes < name.utf8ByteSize then .error .tooLong
      else walkFrom d (step place name) rest
    | some (.file _) => .error .file
    | none => .error .missing

/-- The place that a path leads to. -/
def walk (d : Disk) (p : Path) : Except Obstacle (List String) :=
  match refusal? p with
  | some o => .error o
  | none => walkFrom d (start p) p.parts

/-- What a path leads to. -/
def find (d : Disk) (p : Path) : Except Obstacle Entry := do
  match d.entry? (← d.walk p) with
  | some e => return e
  | none => throw .missing

/-- What is said where a path leads nowhere. -/
def lookupFault (p : Path) : Obstacle → Fault
  | .missing => .noSuchFile p.toString
  | .file => .notDirectory p.toString
  | .tooLong => .nameTooLong p.toString
  | .null => .nullInPath

/-- What a path leads to, if anything. Where a name is too long to be looked up, that cannot be
told. -/
def lookUp (d : Disk) (p : Path) : Except Fault (Option Entry) :=
  match d.find p with
  | .ok e => .ok (some e)
  | .error .tooLong => .error (lookupFault p .tooLong)
  | .error _ => .ok none

/-- A path leads to a file or a directory. -/
def has (d : Disk) (p : Path) : Except Fault Bool := (d.lookUp p).map Option.isSome

/-- The text of a file, with line feeds at its line ends. -/
def read (d : Disk) (p : Path) : Except Fault String :=
  match d.find p with
  | .error o => .error (lookupFault p o)
  | .ok .directory => .error (.isDirectory p.toString)
  | .ok (.file bytes) =>
    match Text.Utf8.decode bytes with
    | .ok s => .ok (Text.withLineFeeds s)
    | .error fault => .error (.notUtf8 fault)

/-! ## Changes -/

/-- The disk with directories at all places on the way along names; false when a file stands in the
way or a name is too long. -/
def makeDirectoriesFrom (d : Disk) (place : List String) : List String → Disk × Bool
  | [] => (d, true)
  | name :: rest =>
    let place := step place name
    if maxNameBytes < name.utf8ByteSize then (d, false)
    else match d.entry? place with
      | some .directory => makeDirectoriesFrom d place rest
      | some (.file _) => (d, false)
      | none => makeDirectoriesFrom (d.put place .directory) place rest

/-- The disk with directories along a path. -/
def makeDirectories (d : Disk) (p : Path) : Disk × Bool :=
  if (refusal? p).isSome then (d, false) else makeDirectoriesFrom d (start p) p.parts

/-- How many bytes more than the name of a file the name has under which it is written at first. -/
def draftBytes : Nat := 14

/-- The path is short enough to write a file there. -/
def fits (p : Path) : Bool :=
  p.name.utf8ByteSize + draftBytes ≤ maxNameBytes && p.byteSize + draftBytes ≤ maxPathBytes

/-- The disk after a file is written, with the directories around it made; false when the file
cannot be written. -/
def writeBytes (d : Disk) (p : Path) (bytes : ByteArray) : Disk × Bool :=
  match d.makeDirectories p.parent with
  | (d, false) => (d, false)
  | (d, true) =>
    match d.walk p with
    | .error _ => (d, false)
    | .ok place =>
      match d.entry? place with
      | some .directory => (d, false)
      | _ => if fits p then (d.put place (.file bytes), true) else (d, false)

/-- Why a file cannot be written. A null character is a fault where the system comes to it, which it
does not when it cannot make the directories. -/
def writeFailure (d : Disk) (p : Path) : Failure :=
  if p.parent.hasNull || (p.hasNull && (d.makeDirectories p.parent).2) then .fault .nullInPath
  else .problem (.writeFailed p.toString "not writable")

/-- The disk after a text is written to a file. -/
def write (d : Disk) (p : Path) (text : String) : Disk × Except Failure Unit :=
  match d.writeBytes p (Text.Utf8.encode text) with
  | (d', true) => (d', .ok ())
  | (d', false) => (d', .error (d.writeFailure p))

/-- The disk after what a path leads to is removed, if it is a file. Nothing is done when the path
leads nowhere. -/
def remove (d : Disk) (p : Path) : Except Fault Disk :=
  match d.lookUp p with
  | .error f => .error f
  | .ok none => .ok d
  | .ok (some .directory) => .error (.isDirectory p.toString)
  | .ok (some (.file _)) =>
    match d.walk p with
    | .error o => .error (lookupFault p o)
    | .ok place => .ok (d.erase place)

/-- The files and their places. -/
def files (d : Disk) : List (List String × ByteArray) :=
  d.entries.filterMap fun
    | (place, .file bytes) => some (place, bytes)
    | (_, .directory) => none

end Disk

end CrateBook
