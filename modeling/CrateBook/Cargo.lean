import CrateBook.Disk
import CrateBook.Json.Access
import CrateBook.Json.Reader
import CrateBook.Library.Name
import CrateBook.Text.Letters
import CrateBook.Text.Lines

/-!
# What cargo says

The build tool is asked for the metadata of a project and for documentation. Its answers are texts:
the metadata is JSON, and where the documentation was written is told by a line among others.
-/

namespace CrateBook.Cargo

/-- What a run of cargo leaves: its status, its output, and files. -/
structure Reply where
  code : Int := 0
  stdout : String := ""
  stderr : String := ""
  files : List (Path × ByteArray) := []

/-- What comes of a command: a reply, or the reason why it cannot be run. -/
inductive Answer where
  | reply (r : Reply)
  | unavailable (reason : String)

/-- The answers to commands, each used once but the last of a command, which is repeated. -/
abbrev Script := List (String × List Answer)

/-- What is said when cargo is not there. -/
def notInstalled : String := "[Errno 2] No such file or directory: 'cargo'"

/-- The next answer to a command, and the answers after it. -/
def Script.next (script : Script) (command : String) : Answer × Script :=
  match script.lookup command with
  | none | some [] => (.unavailable notInstalled, script)
  | some [a] => (a, script)
  | some (a :: more) => (a, Json.setMember command more script)

/-- The arguments that ask for metadata. -/
def metadataArgs : List String := ["metadata", "--no-deps", "--format-version", "1"]

/-- The arguments that ask for the documentation of a library. -/
def docArgs (library : String) : List String := ["doc", "--package", library, "--no-deps"]

/-- The arguments that ask for the dump of a library. -/
def dumpArgs (library : String) : List String :=
  ["+nightly", "rustdoc", "--package", library, "--lib", "--", "-Z", "unstable-options",
    "--output-format", "json"]

/-! ## Metadata -/

/-- What is known of a project: where it is built, and the names of its dependencies. -/
structure Project where
  target : Path
  dependencies : List Json

/-- The names with another one, unless it is among them. -/
def addName (names : List Json) (name : Json) : List Json :=
  if names.any (· == name) then names else names ++ [name]

/-- The project that a value records. -/
def Project.ofJson (v : Json) : Except Fault Project := do
  let packages ← (← v.memberOrNull "packages").partsIfAny
  let names ← packages.mapM fun p => do
    (← (← p.memberOrNull "dependencies").partsIfAny).mapM (Json.member "name")
  match ← v.member "target_directory" with
  | .str target => return ⟨.ofString target, names.flatten.foldl addName []⟩
  | target => throw (.typeMismatch
      ("the target directory is a text, not a value of kind " ++ target.kindName))

/-- The project that the output of cargo describes. -/
def Project.ofText (output : String) : Except Failure Project :=
  match Json.read? output with
  | none => .error (.problem
      (.cargoFailed "cargo metadata" "failed to parse cargo metadata JSON: not JSON"))
  | some v => (Project.ofJson v).mapError .fault

/-- The library among dependencies that a name is a spelling of, under the name it is declared
with; `all` are shown when there is none. -/
def findLibrary (name : String) (all : List String) : List Json → Except Failure LibraryName
  | [] => .error (.problem (.notADependency name all))
  | .str d :: rest =>
    if (⟨name⟩ : LibraryName).hasSpelling d then .ok ⟨d⟩ else findLibrary name (all ++ [d]) rest
  | v :: _ => .error (.fault (v.lacks "strip"))

/-- The dependency that a name is a spelling of. -/
def Project.library (p : Project) (name : String) : Except Failure LibraryName :=
  findLibrary name [] p.dependencies

/-! ## Documentation -/

/-- The extension of the page that a line names. -/
def pageExtension : List Char := ['.', 'h', 't', 'm', 'l']

/-- The shortest text up to an extension at the end of a word; at least one character stands before
the extension. -/
def pageName? (before : List Char) : List Char → Option (List Char)
  | [] => none
  | c :: cs =>
    let here :=
      if before.isEmpty then none
      else match Text.after? pageExtension (c :: cs) with
        | some [] => some (before.reverse ++ pageExtension)
        | some (d :: _) =>
          if Text.isWordChar d then none else some (before.reverse ++ pageExtension)
        | none => none
    match here with
    | some name => some name
    | none => pageName? (c :: before) cs

/-- The page that a line names after the word `Generated` and blanks. As many of the blanks as can
be are left out of the name. -/
def generatedPage? (line : String) : Option String := do
  let rest ← Text.after? "Generated".toList (Text.trim line).toList
  let blanks := (rest.takeWhile Text.isBlank).length
  let counts := (List.range blanks).reverse.map (· + 1)
  let name ← counts.findSome? fun n => pageName? [] (rest.drop n)
  return String.ofList name

/-- The directory of the documentation, from what cargo says while it writes it. -/
def docDirectory (output : String) : Except Problem Path :=
  match (Text.lines output).findSome? generatedPage? with
  | some page => .ok (Path.ofString page).parent
  | none => .error (.cargoFailed "cargo doc"
      ("failed to parse cargo doc output - could not find 'Generated' line. " ++
        "Output preview:\n" ++ preview output 500))

end CrateBook.Cargo
