import CrateBook.Command.Options
import CrateBook.Path

/-!
# Command lines

A command line names one of three commands with its argument and its options, behind the options
that all commands share. A line that is refused is answered by one line that starts with the name
of the command it was given to.
-/

namespace CrateBook.Command

/-- What is to be done. -/
inductive Action where
  | build (library : String) (format : Option String) (failFast : Bool)
  | show (itemPath : String)
  | list (library : String)
  | help
  deriving DecidableEq, Repr

/-- A command line. -/
structure Line where
  verbosity : Nat := 0
  config : Option String := none
  directory : Option Path := none
  action : Action
  deriving DecidableEq, Repr

/-- A line that is refused: by which command, and why. -/
structure Refusal where
  command : String
  reason : String
  deriving DecidableEq, Repr

/-- What is written about a refused line. -/
def Refusal.text (r : Refusal) : String := r.command ++ ": error: " ++ r.reason

/-- The name of the program. -/
def programName : String := "cargo-docmd"

/-- Asks for help. -/
def help : Opt := { names := ["-h", "--help"], isFinal := true }

/-- Asks for more notices. -/
def verbose : Opt := { names := ["-v", "--verbose"] }

/-- Names the file of the configuration. -/
def configFile : Opt := { names := ["--config"], takesValue := true }

/-- Names the directory of the project. -/
def manifestDir : Opt := { names := ["--manifest-dir"], takesValue := true }

/-- Chooses the form in which the documentation is read. -/
def format : Opt := { names := ["--format"], takesValue := true, choices := ["html", "json"] }

/-- Ends a build at the first page that cannot be made. -/
def failFast : Opt := { names := ["--fail-fast"] }

/-- The names of the commands. -/
def commandNames : List String := ["build", "show", "list"]

/-- The options before a command, and the command with what follows it. -/
def mainSpec : Spec where
  options := [help, verbose, configFile, manifestDir]
  argument := "command"
  isOpen := true

/-- What a command takes. -/
def specOf : String → Spec
  | "build" => { options := [help, format, failFast], argument := "library" }
  | "show" => { options := [help], argument := "item_path" }
  | _ => { options := [help], argument := "library" }

/-- The last value that was given for an option. -/
def Parsed.value? (p : Parsed) (o : Opt) : Option String :=
  (p.options.filterMap fun g => if g.1 = o then g.2 else none).getLast?

/-- The option was given. -/
def Parsed.has (p : Parsed) (o : Opt) : Bool := p.options.any (·.1 = o)

/-- What a command is to do. -/
def actionOf (command : String) (p : Parsed) : Action :=
  let argument := (p.argument.bind (·.head?)).getD ""
  if p.has help then .help
  else match command with
    | "build" => .build argument (p.value? format) (p.has failFast)
    | "show" => .show argument
    | _ => .list argument

/-- A reading of a list for a command, whose name stands before what is said about it. -/
def under (command : String) (r : Reading α) : Except Refusal α :=
  match r with
  | .ok a => .ok a
  | .error reason => .error ⟨command, reason⟩

/-- The command with its options and the words that fit nowhere. -/
def readCommand (words : List String) : Except Refusal (Action × List String) := do
  let command := words.headD ""
  if !commandNames.contains command then
    throw ⟨programName, "argument command: " ++ invalidChoice command commandNames⟩
  let p ← under (programName ++ " " ++ command) ((specOf command).read words.tail)
  return (actionOf command p, p.extras)

/-- The command line that a list of words spells. A first word that only names the program for
cargo is left out. -/
def readLine (words : List String) : Except Refusal Line := do
  let words := if words.head? == some "docmd" then words.tail else words
  let p ← under programName (mainSpec.read words)
  if p.has help then return { action := .help }
  let (action, extras) ← readCommand (p.argument.getD [])
  let extras := p.extras ++ extras
  if action ≠ .help && !extras.isEmpty then
    throw ⟨programName, "unrecognized arguments: " ++ " ".intercalate extras⟩
  return {
    verbosity := (p.options.filter (·.1 = verbose)).length
    config := p.value? configFile
    directory := (p.value? manifestDir).map Path.ofString
    action := action }

end CrateBook.Command
