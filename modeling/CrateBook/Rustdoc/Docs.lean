import CrateBook.Json.Access
import CrateBook.Text.Blank
import CrateBook.Text.Lines
import CrateBook.Text.Pieces

/-!
# Documentation text

Comment marks left over at the start of a line are dropped together with the blanks around them;
a line without a mark keeps its indentation.
-/

namespace CrateBook.Rustdoc.Docs

/-- A line without a leading comment mark and without blanks at its end. -/
def cleanLine (line : String) : String :=
  let stripped := Text.trim line
  if Text.startsWith stripped "///" then Text.trimStart (Text.drop stripped 3)
  else if Text.startsWith stripped "//" then Text.trimStart (Text.drop stripped 2)
  else Text.trimEnd line

/-- The text without comment marks and without line feeds at its ends. -/
def clean (docs : String) : String :=
  Text.trimOf (· == '\n') ("\n".intercalate ((Text.lines docs).map cleanLine))

/-- The first paragraph on one line. -/
def summary (docs : String) : String :=
  let lines := (Text.lines (clean docs)).dropWhile Text.allBlank
  " ".intercalate ((lines.takeWhile (!Text.allBlank ·)).map Text.trim)

/-- Documentation that is there is a text. -/
def check : Json → Except Fault Unit
  | .str _ => .ok ()
  | v => if v.truthy then .error (v.lacks "splitlines") else .ok ()

/-- The documentation, nothing when there is none. -/
def textOf : Json → String
  | .str s => s
  | _ => ""

/-- The summary of documentation that may be missing. -/
def summaryOf (docs : Json) : String := summary (textOf docs)

/-- A list line followed by the summary of what it lists, if there is one. -/
def withSummary (line : String) (docs : Json) : String :=
  if summaryOf docs == "" then line else line ++ " - " ++ summaryOf docs

end CrateBook.Rustdoc.Docs
