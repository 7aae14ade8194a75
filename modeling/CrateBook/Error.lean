import CrateBook.Text.Blank
import CrateBook.Text.Pieces
import CrateBook.Text.Quoted
import CrateBook.Text.Utf8

/-!
# What can go wrong

A `Problem` is reported to the user in words. A `Fault` is a defect of data that no rule of the
program accounts for: a member that is missing, a value of the wrong kind, a file that is not there
or not text. A `Failure` is either.
-/

namespace CrateBook

/-- At most the first characters of a text; a negative limit leaves out that many at the end. -/
def preview (text : String) (limit : Int) : String :=
  let size : Int := text.toList.length
  if size ≤ limit then text
  else Text.take text (if limit < 0 then size + limit else limit).toNat ++ "..."

/-- A problem that is reported in words. -/
inductive Problem where
  | badSelector (selector reason : String)
  | elementNotFound (selector content detail : String)
  | wrongKind (expected actual : String)
  | badItemPath (value reason : String)
  | unresolved (itemPath library : String)
  | cargoFailed (command output : String)
  | notADependency (name : String) (available : List String)
  | docsMissing (name path : String)
  | badPage (path cause : String)
  | writeFailed (path reason : String)
  | badSidecar (path reason : String)
  deriving DecidableEq, Repr

namespace Problem

/-- What the searched text starts with, blanks at its ends left out. -/
def contentPreview (content : String) : String := preview (Text.trim content) 200

/-- The words in which a problem is reported. -/
def message : Problem → String
  | badSelector selector reason => "Failed to parse selector '" ++ selector ++ "': " ++ reason
  | elementNotFound selector content detail =>
    let shown := contentPreview content
    "Element not found with selector '" ++ selector ++ "'" ++
      (if detail == "" then "" else ": " ++ detail) ++
      (if shown == "" then "" else "\nContent preview:\n" ++ shown)
  | wrongKind expected actual => "Expected " ++ expected ++ " item, found " ++ actual
  | badItemPath value reason => "invalid item path '" ++ value ++ "': " ++ reason
  | unresolved itemPath library =>
    "could not resolve item path '" ++ itemPath ++ "'. Run `cargo docmd list " ++ library ++
      "` to see available items, or rebuild with `cargo docmd build " ++ library ++ "`."
  | cargoFailed command output => "Failed to execute `" ++ command ++ "`:\n" ++ output
  | notADependency name available =>
    "Crate '" ++ name ++ "' is not an installed dependency.\n\nAvailable crates: " ++
      ", ".intercalate available ++ "\n\nOnly installed dependencies can be built. " ++
      "Add the crate to Cargo.toml as a dependency first."
  | docsMissing name path =>
    "Documentation was not generated for crate '" ++ name ++ "'. Expected '" ++ path ++ "'"
  | badPage path cause => "Failed to parse HTML file '" ++ path ++ "': " ++ cause
  | writeFailed path reason => "Failed to write file '" ++ path ++ "': " ++ reason
  | badSidecar path reason => "Metadata file '" ++ path ++ "' is unreadable: " ++ reason

/-- The problem is one of building documentation. -/
def isBuildProblem : Problem → Bool
  | cargoFailed _ _ => true
  | notADependency _ _ => true
  | docsMissing _ _ => true
  | badPage _ _ => true
  | writeFailed _ _ => true
  | badSidecar _ _ => true
  | _ => false

end Problem

/-- A defect of data. -/
inductive Fault where
  /-- A member that an object must have. -/
  | missingKey (key : String)
  /-- A value of a kind that the place does not take. -/
  | typeMismatch (explanation : String)
  /-- A value that should be an object. -/
  | notAnObject (explanation : String)
  /-- An object without the one member it must have. -/
  | emptyObject
  /-- A value of the right kind that makes no sense. -/
  | badValue (explanation : String)
  | noSuchFile (path : String)
  | isDirectory (path : String)
  | notDirectory (path : String)
  | nameTooLong (path : String)
  | notUtf8 (fault : Text.Utf8.Fault)
  | notJson
  | notYaml
  deriving DecidableEq, Repr

namespace Fault

/-- A byte in two lower-case hexadecimal digits. -/
def byteText (b : UInt8) : String := String.ofList (Text.hexDigits 2 b.toNat)

/-- What is wrong with a sequence of bytes. -/
def defectText : Text.Utf8.Defect → String
  | .invalidStart => "invalid start byte"
  | .invalidContinuation => "invalid continuation byte"
  | .unexpectedEnd => "unexpected end of data"

/-- A sequence of bytes that is no text, in words. -/
def utf8Text (f : Text.Utf8.Fault) : String :=
  let place := match f.bytes with
    | [b] => "byte 0x" ++ byteText b ++ " in position " ++ toString f.position
    | bs => "bytes in position " ++ toString f.position ++ "-" ++
        toString (f.position + bs.length - 1)
  "'utf-8' codec can't decode " ++ place ++ ": " ++ defectText f.defect

/-- The defect of a path with a null character in it. -/
def nullInPath : Fault := .badValue "embedded null byte"

/-- A defect in words. -/
def message : Fault → String
  | missingKey key => Text.quotedName key
  | typeMismatch explanation => explanation
  | notAnObject explanation => explanation
  | emptyObject => ""
  | badValue explanation => explanation
  | noSuchFile path => "[Errno 2] No such file or directory: " ++ Text.quotedName path
  | isDirectory path => "[Errno 21] Is a directory: " ++ Text.quotedName path
  | notDirectory path => "[Errno 20] Not a directory: " ++ Text.quotedName path
  | nameTooLong path => "[Errno 36] File name too long: " ++ Text.quotedName path
  | notUtf8 fault => utf8Text fault
  | notJson => "not JSON"
  | notYaml => "not YAML"

end Fault

/-- Why something could not be done. -/
inductive Failure where
  | problem (p : Problem)
  | fault (f : Fault)
  deriving DecidableEq, Repr

namespace Failure

/-- A failure in words. -/
def message : Failure → String
  | problem p => p.message
  | fault f => f.message

end Failure

instance : Coe Problem Failure := ⟨.problem⟩
instance : Coe Fault Failure := ⟨.fault⟩

end CrateBook
