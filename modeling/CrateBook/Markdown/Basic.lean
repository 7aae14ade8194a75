import CrateBook.Text.Blank
import CrateBook.Text.Pieces

/-!
# Markdown pieces

Headings, code spans, fenced code and tables.
-/

namespace CrateBook.Markdown

/-- A heading; a level below one has no mark. -/
def heading (level : Int) (text : String) : String :=
  String.ofList (List.replicate level.toNat '#') ++ " " ++ text

/-- A code span, between double backticks and spaces if it is to be a wide one. -/
def codeSpan (isWide : Bool) (text : String) : String :=
  if isWide then "`` " ++ text ++ " ``" else "`" ++ text ++ "`"

/-- A code span. Text that holds a backtick stands between double backticks and spaces. -/
def inlineCode (text : String) : String := codeSpan (Text.contains text "`") text

/-- Fenced code, marked with its language. -/
def codeBlock (code lang : String) : String :=
  "```" ++ lang ++ "\n" ++ Text.trimEnd code ++ "\n```"

/-- A row of a table. -/
def row (cells : List String) : String := "| " ++ " | ".intercalate cells ++ " |"

/-- The row that separates the header of `n` columns from the rows below. -/
def separator (n : Nat) : String := row (List.replicate n "---")

/-- A table of a header and rows. -/
def table (headers : List String) (rows : List (List String)) : String :=
  "\n".intercalate (row headers :: separator headers.length :: rows.map row)

/-- A table of a header and rows, or nothing when there are no rows. -/
def tableUnlessEmpty (headers : List String) (rows : List (List String)) : String :=
  if rows.isEmpty then "" else table headers rows

/-- A section of things to do next, nothing when there are none. -/
def nextActions (actions : List String) : List String :=
  if actions.isEmpty then [] else heading 2 "Next Actions" :: "" :: actions.map ("- " ++ ·)

end CrateBook.Markdown
