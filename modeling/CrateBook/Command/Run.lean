import CrateBook.Browse
import CrateBook.Command.Line

/-!
# Running command lines

A command line that is understood is run in a workspace, with the configuration of its file and of
its options. A problem is reported and ends the run with status one. A build with failures has
status one as well, and a line that is refused has status two.
-/

namespace CrateBook.Command

open Work

/-- The configuration of a file, or of the file that is read when no other one is named. -/
def loadConfig (path : Option String) : Work Json := do
  let named := path.filter (· != "")
  let file := Path.ofString (named.getD Config.fileName)
  let d ← disk
  if ← ofReported (orFault (d.has file)) then
    ofReported (orFault (do Config.ofYaml (← d.read file)))
  else
    if let some name := named then notify (.noConfig name)
    return Config.standard

/-- The members of a section that is taken apart to change one of them. -/
def sectionMembers (config : Json) (name : String) : Except Fault (List (String × Json)) := do
  match ← config.member name with
  | .obj members => return members
  | v => throw (.typeMismatch (v.verdict "has no members"))

/-- The configuration with a value for a member of its section on building. -/
def setBuild (key : String) (value : Json) (config : Json) : Except Fault Json := do
  let build ← sectionMembers config "build"
  return .obj (Json.setMember "build" (.obj (Json.setMember key value build)) (← config.members))

/-- The configuration with the options of a line. -/
def withOptions (action : Action) (config : Json) : Except Fault Json :=
  match action with
  | .build _ format failFast => do
    let config ← match format with
      | some f => setBuild "format" (.str f) config
      | none => pure config
    if failFast then setBuild "fail_fast" (.bool true) config else return config
  | _ => return config

/-- What is written when a library has been built. -/
def builtText (library : String) (r : Corpus.Report) : String :=
  r.summary ++ "\n  Run `cargo docmd list " ++ library ++ "` to see all items\n"

/-- What a run leaves: its status, and what it has written. -/
structure Outcome where
  status : Nat
  stdout : String := ""
  deriving DecidableEq, Repr

/-- Does what a line asks for. -/
def perform (l : Line) : Work Outcome := do
  let config ← loadConfig l.config
  let config ← ofReported (orFault (withOptions l.action config))
  let directory := l.directory.map Path.toString
  match l.action with
  | .build library _ _ =>
    let r ← Build.build library config directory
    return ⟨if r.isComplete then 0 else 1, builtText library r⟩
  | .show itemPath => return ⟨0, (← Browse.showItem itemPath config directory) ++ "\n"⟩
  | .list library => return ⟨0, (← Browse.listItems library config directory) ++ "\n"⟩
  | .help => return ⟨0, ""⟩

/-- Runs a line. A problem is reported; a fault is not caught. -/
def run (l : Line) : Work Outcome :=
  if l.action = .help then return ⟨0, ""⟩
  else
    tryCatch (perform l) fun
      | .problem p => do
        notify (.failed p)
        return ⟨1, ""⟩
      | .fault f => throw (.fault f)

/-- The notice is shown in a run of a verbosity. -/
def isShown (verbosity : Nat) (n : Notice) : Bool := n.level != .info || verbosity ≥ 1

end CrateBook.Command
