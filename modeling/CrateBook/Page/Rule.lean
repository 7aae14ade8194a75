/-!
# How elements are written

Each element name has one rule. Elements without a rule of their own add nothing to what is inside
them, so that no text is lost: a link keeps its text and loses its target.
-/

namespace CrateBook.Page

/-- What becomes of the blanks inside an element. -/
inductive Spacing where
  /-- The parts are written as they come. -/
  | asIs
  /-- The words of the content stand on one line, one space apart. -/
  | squeezed
  /-- Every text is kept as it is, and brackets are not taken for links. -/
  | verbatim
  deriving DecidableEq, Repr

/-- How an element is written. -/
inductive Rule where
  /-- The content between two texts. -/
  | wrap (before after : String) (spacing : Spacing)
  /-- A text, whatever the element holds. -/
  | fixed (text : String)
  /-- A code span, or the bare content directly inside preformatted text. -/
  | code
  /-- A line for each item. -/
  | list (ordered : Bool)
  /-- A line for each term with its descriptions. -/
  | definitions
  /-- A quotation mark before each line. -/
  | quote
  /-- A table. -/
  | table
  deriving DecidableEq, Repr

/-- A heading of the given level. -/
def Rule.heading (level : Nat) : Rule :=
  .wrap (String.ofList (List.replicate level '#') ++ " ") "\n\n" .squeezed

/-- The content of an element that adds nothing to it. -/
def Rule.plain : Rule := .wrap "" "" .asIs

/-- The rules by element name. -/
def rules : List (String × Rule) := [
  ("h1", .heading 1), ("h2", .heading 2), ("h3", .heading 3),
  ("h4", .heading 4), ("h5", .heading 5), ("h6", .heading 6),
  ("p", .wrap "" "\n\n" .squeezed),
  ("li", .wrap "" "" .squeezed),
  ("dt", .wrap "- **" "**" .squeezed),
  ("dd", .wrap ": " "\n" .squeezed),
  ("strong", .wrap "**" "**" .asIs),
  ("b", .wrap "**" "**" .asIs),
  ("em", .wrap "_" "_" .asIs),
  ("i", .wrap "_" "_" .asIs),
  ("br", .fixed "\n\n"),
  ("hr", .fixed "---\n\n"),
  ("pre", .wrap "```\n" "\n```\n\n" .verbatim),
  ("code", .code),
  ("ul", .list false),
  ("ol", .list true),
  ("dl", .definitions),
  ("blockquote", .quote),
  ("table", .table)]

/-- The rule of an element. -/
def ruleFor (name : String) : Rule := (rules.lookup name).getD .plain

end CrateBook.Page
