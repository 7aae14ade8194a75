import CrateBook.Workspace

/-!
# Snapshots of workspaces

A snapshot is a JSON value that holds the files of a workspace and the answers that cargo will give
in it. A file is a text, or bytes in hexadecimal digits; the answer to a command is one value or a
list of values that are used one after another.
-/

namespace CrateBook.Snapshot

/-- The bytes that pairs of hexadecimal digits spell. -/
def bytesOfHex : List Char → List UInt8
  | a :: b :: rest =>
    match Text.hexDigit? a, Text.hexDigit? b with
    | some m, some n => UInt8.ofNat (16 * m + n) :: bytesOfHex rest
    | _, _ => bytesOfHex rest
  | _ => []

/-- The text of a member, empty when there is none. -/
def textOf (key : String) (v : Json) : String :=
  match v.get? key with
  | some (.str s) => s
  | _ => ""

/-- The bytes of a file. -/
def bytesOf : Json → ByteArray
  | .str s => Text.Utf8.encode s
  | v => ⟨(bytesOfHex (textOf "hex" v).toList).toArray⟩

/-- The members of an object, none of any other value. -/
def membersOf : Json → List (String × Json)
  | .obj members => members
  | _ => []

/-- The files by their paths. -/
def filesOf (v : Json) : List (Path × ByteArray) :=
  (membersOf v).map fun m => (Path.ofString m.1, bytesOf m.2)

/-- The disk with further files. -/
def addFiles (d : Disk) (v : Json) : Disk :=
  (filesOf v).foldl (fun d f => (d.writeBytes f.1 f.2).1) d

/-- An answer of cargo. -/
def answerOf (v : Json) : Cargo.Answer :=
  match v.get? "oserror" with
  | some (.str reason) => .unavailable reason
  | _ =>
    let code := match v.get? "code" with
      | some (.int n) => n
      | _ => 0
    .reply ⟨code, textOf "stdout" v, textOf "stderr" v, filesOf ((v.get? "files").getD .null)⟩

/-- The answers to a command. -/
def answersOf : Json → List Cargo.Answer
  | .arr items => items.map answerOf
  | v => [answerOf v]

/-- The answers by their commands. -/
def scriptOf (v : Json) : Cargo.Script := (membersOf v).map fun m => (m.1, answersOf m.2)

/-- The answers with others put in the place of those to the same commands. -/
def addAnswers (script : Cargo.Script) (v : Json) : Cargo.Script :=
  (scriptOf v).foldl (fun s m => Json.setMember m.1 m.2 s) script

/-- The workspace of a snapshot. -/
def read (v : Json) : Workspace where
  disk := addFiles {} ((v.get? "files").getD .null)
  cargo := scriptOf ((v.get? "cargo").getD .null)

/-- The files that differ on two disks, with what they hold on the later one. -/
def changes (earlier later : Disk) : List (String × Option ByteArray) :=
  let old := earlier.files
  let new := later.files
  let gone := old.filter fun f => (new.lookup f.1).isNone
  let changed := new.filter fun f => ((old.lookup f.1).map (·.data)) != some f.2.data
  gone.map (fun f => ("/".intercalate f.1, none)) ++
    changed.map fun f => ("/".intercalate f.1, some f.2)

end CrateBook.Snapshot
