import CrateBook.Markdown.Basic
import CrateBook.Text.Blank
import CrateBook.Text.Lines

/-!
# The page of all items

The listing of a library is completed by naming its items in full and by showing how to look at
them: the first item of each of the first three sections serves as an example.
-/

namespace CrateBook.Listing

/-- What the first line of a listing says. -/
def title : String := "# List of all items"

/-- A line of a listing: an item is named in full. -/
def qualifyLine (library line : String) : String :=
  if Text.startsWith line "- " then
    "- " ++ library ++ "::" ++ Text.drop line 2
  else line

/-- The first item of each section; `fresh` says that the section has had none yet. -/
def examplesFrom (library : String) (fresh : Bool) : List String → List String
  | [] => []
  | line :: lines =>
    if Text.startsWith line "### " then examplesFrom library true lines
    else if Text.startsWith line "- " then
      if fresh then (library ++ "::" ++ Text.drop line 2) :: examplesFrom library false lines
      else examplesFrom library false lines
    else examplesFrom library fresh lines

/-- How many examples are shown. -/
def maxExamples : Nat := 3

/-- The section on usage. -/
def usage (library : String) (examples : List String) : List String :=
  let commands := (examples.take maxExamples).map ("cargo docmd show " ++ ·)
  let commands :=
    if commands.isEmpty then ["cargo docmd show " ++ library ++ "::SomeItem"] else commands
  ["", "## Usage", "",
    "To view documentation for a specific item, use the `show` command:", "",
    Markdown.codeBlock "cargo docmd show <ITEM_PATH>" "shell", "",
    "Examples:", "",
    Markdown.codeBlock ("\n".intercalate commands) "shell"]

/-- The page of all items of a library from its listing. -/
def page (library content : String) : String :=
  match Text.lines content with
  | [] => "\n".intercalate ["# " ++ library, ""]
  | first :: rest =>
    let first := if Text.startsWith first title then Text.drop first 2 else first
    let body := ("# " ++ library) :: "" :: first :: rest.map (qualifyLine library)
    "\n".intercalate (Text.dropEndWhile Text.allBlank body ++
      usage library (examplesFrom library false rest)) ++ "\n"

end CrateBook.Listing
