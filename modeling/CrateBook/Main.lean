import CrateBook.Command.Run
import CrateBook.Snapshot

/-!
# The program

The program runs a command line in the workspace of which a snapshot is given on its standard input.
What the run writes goes to the standard output, the notices to the standard error, and the files
that the run has changed to the working directory.
-/

namespace CrateBook

/-- The rest of a stream. -/
partial def readAll (stream : IO.FS.Stream) (before : String) : IO String := do
  let line ← stream.getLine
  if line.isEmpty then return before
  readAll stream (before ++ line)

/-- Writes or removes a file that a run has changed. -/
def saveChange (name : String) (content : Option ByteArray) : IO Unit := do
  match content with
  | none => IO.FS.removeFile name
  | some bytes =>
    IO.FS.createDirAll (Path.ofString name).parent.toString
    IO.FS.writeBinFile name bytes

/-- Runs a line in a workspace. -/
def runIn (workspace : Workspace) (l : Command.Line) : IO UInt32 := do
  let (result, after) := (Command.run l).run workspace
  for n in after.notices do
    if Command.isShown l.verbosity n then IO.eprintln n.line
  for (name, content) in Snapshot.changes workspace.disk after.disk do
    saveChange name content
  match result with
  | .ok outcome =>
    IO.print outcome.stdout
    return UInt32.ofNat outcome.status
  | .error f =>
    IO.eprintln f.message
    return 1

end CrateBook

open CrateBook in
/-- Runs the program with its arguments. -/
def main (words : List String) : IO UInt32 := do
  match Command.readLine words with
  | .error refusal =>
    IO.eprintln refusal.text
    return 2
  | .ok l =>
    let snapshot ← readAll (← IO.getStdin) ""
    runIn (Snapshot.read ((Json.read? snapshot).getD .null)) l
