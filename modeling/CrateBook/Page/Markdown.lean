import CrateBook.Error
import CrateBook.Html.Node
import CrateBook.Markdown.Basic
import CrateBook.Markdown.Reference
import CrateBook.Page.Rule
import CrateBook.Page.Skip
import CrateBook.Text.Lines

/-!
# The Markdown of a page

A page is written by one recursion over its tree. Besides the skip tables it carries three things
down: the name of the parent (code directly inside preformatted text has no marks of its own),
whether text is verbatim, and whether the content ends on one squeezed line, where blanks between
elements separate words.

Lists, definition lists and tables start afresh: what they hold is always written on squeezed
lines of their own.
-/

namespace CrateBook.Page

open Html (Node AttrValue)

/-- Text with its no-break spaces, as characters and as entities left over, made spaces. -/
def breakable (s : String) : String := Text.replace (Text.replace s "\u00A0" " ") "&nbsp;" " "

/-- A text node. Blank text is dropped where it holds a line feed and is one space elsewhere; on a
squeezed line it is always one space. -/
def textMarkdown (verbatim inline : Bool) (s : String) : String :=
  let s := breakable s
  if verbatim then s
  else if Text.allBlank s then
    if s == "" || (Text.contains s "\n" && !inline) then "" else " "
  else Markdown.stripReferences s

/-- What a list line starts with: the number of the item or a dash. -/
def marker (ordered : Bool) (count : Nat) : String :=
  if ordered then toString count ++ "." else "-"

/-- The lines ended by a blank line; nothing when there are none. -/
def paragraph (lines : List String) : String :=
  if lines.isEmpty then "" else "\n".intercalate lines ++ "\n\n"

/-- A term or a description of a definition list, squeezed. -/
inductive Definition where
  | term (s : String)
  | description (s : String)

/-- A term, if there is one, with its descriptions. -/
structure Entry where
  term : Option String
  descriptions : List String

/-- The entries that definitions make: each description belongs to the term before it. The pair is
made of the descriptions before the first term and the entries from there on. -/
def entriesFrom : List Definition → List String × List Entry
  | [] => ([], [])
  | .term t :: ds => let (own, rest) := entriesFrom ds; ([], ⟨some t, own⟩ :: rest)
  | .description d :: ds => let (own, rest) := entriesFrom ds; (d :: own, rest)

/-- The entries of a definition list. -/
def entries (ds : List Definition) : List Entry :=
  let (own, rest) := entriesFrom ds
  if own.isEmpty then rest else ⟨none, own⟩ :: rest

/-- The line of an entry; descriptions without a term and without text have none. -/
def Entry.line? (e : Entry) : Option String :=
  let description := " ".intercalate (e.descriptions.filter (· != ""))
  match e.term with
  | none => if description == "" then none else some ("- " ++ description)
  | some term =>
    some ("- **" ++ term ++ "**" ++ if description == "" then "" else ": " ++ description)

/-- A quotation: every line of the content after a mark. -/
def quotation (content : String) : String :=
  let content := Text.trim content
  if content == "" then ""
  else
    let lines := (Text.lines content).map Text.squeeze
    "\n".intercalate (lines.map fun l => if l == "" then ">" else "> " ++ l) ++ "\n\n"

/-- The rows as a table of full width, nothing when there are none. -/
def tableOf (rows : List (List String)) : String :=
  let width := (rows.map List.length).foldl max 0
  match rows.map fun r => r ++ List.replicate (width - r.length) "" with
  | [] => ""
  | header :: body => Markdown.table header body ++ "\n\n"

mutual

/-- A node inside an element named `parent`. -/
def nodeMarkdown (skip : SkipRules) (parent : String) (verbatim inline : Bool) : Node → String
  | .text _ s => textMarkdown verbatim inline s
  | .comment _ => ""
  | .cdata _ => ""
  | .element name attrs children =>
    if skip.skips name attrs then ""
    else match ruleFor name with
      | .wrap before after spacing =>
        let inner := childrenMarkdown skip name (verbatim || spacing == .verbatim)
          (inline || spacing == .squeezed) children
        before ++ (if spacing == .squeezed then Text.squeeze inner else inner) ++ after
      | .fixed text => text
      | .code =>
        let inner := childrenMarkdown skip name true false children
        if parent == "pre" then inner else "`" ++ inner ++ "`"
      | .list ordered => paragraph (listLines skip name ordered 1 children)
      | .definitions => paragraph ((entries (definitions skip children)).filterMap Entry.line?)
      | .quote => quotation (childrenMarkdown skip name false false children)
      | .table => tableOf (tableRows skip children)

/-- The nodes inside an element named `parent`, one after another. -/
def childrenMarkdown (skip : SkipRules) (parent : String) (verbatim inline : Bool) :
    List Node → String
  | [] => ""
  | n :: ns =>
    nodeMarkdown skip parent verbatim inline n ++ childrenMarkdown skip parent verbatim inline ns

/-- The lines of a list named `parent` whose next item has the number `count`. What stands between
the items has lines of its own. -/
def listLines (skip : SkipRules) (parent : String) (ordered : Bool) (count : Nat) :
    List Node → List String
  | [] => []
  | .element name attrs children :: ns =>
    if name == "li" then
      if skip.skips name attrs then listLines skip parent ordered count ns
      else
        let content := Text.squeeze (childrenMarkdown skip name false true children)
        (marker ordered count ++ " " ++ content) :: listLines skip parent ordered (count + 1) ns
    else
      let content :=
        Text.squeeze (nodeMarkdown skip parent false false (.element name attrs children))
      if content == "" then listLines skip parent ordered count ns
      else content :: listLines skip parent ordered count ns
  | .text _ s :: ns =>
    let content := Text.squeeze (textMarkdown false true s)
    if content == "" then listLines skip parent ordered count ns
    else content :: listLines skip parent ordered count ns
  | .comment _ :: ns => listLines skip parent ordered count ns
  | .cdata _ :: ns => listLines skip parent ordered count ns

/-- The terms and descriptions of a definition list. -/
def definitions (skip : SkipRules) : List Node → List Definition
  | [] => []
  | .element name attrs children :: ns =>
    if (name == "dt" || name == "dd") && !skip.skips name attrs then
      let content := Text.squeeze (childrenMarkdown skip name false true children)
      (if name == "dt" then .term content else .description content) :: definitions skip ns
    else definitions skip ns
  | .text _ _ :: ns => definitions skip ns
  | .comment _ :: ns => definitions skip ns
  | .cdata _ :: ns => definitions skip ns

/-- The rows at any depth inside a table, each before the rows inside it; a row without cells is
left out. -/
def tableRows (skip : SkipRules) : List Node → List (List String)
  | [] => []
  | .element name _ children :: ns =>
    let own := if name == "tr" then [rowCells skip children] else []
    own.filter (!·.isEmpty) ++ tableRows skip children ++ tableRows skip ns
  | .text _ _ :: ns => tableRows skip ns
  | .comment _ :: ns => tableRows skip ns
  | .cdata _ :: ns => tableRows skip ns

/-- The cells of a row, squeezed, with every bar escaped. -/
def rowCells (skip : SkipRules) : List Node → List String
  | [] => []
  | .element name _ children :: ns =>
    if name == "th" || name == "td" then
      let content := Text.squeeze (childrenMarkdown skip name false true children)
      Text.replace content "|" "\\|" :: rowCells skip ns
    else rowCells skip ns
  | .text _ _ :: ns => rowCells skip ns
  | .comment _ :: ns => rowCells skip ns
  | .cdata _ :: ns => rowCells skip ns

end

/-- The first element named `main`, wherever it stands. -/
def mainElement? (doc : List Node) : Option Html.Element :=
  (Html.elementsOf doc).find? fun e => Html.asciiLower e.name == "main"

/-- The Markdown of the main element of a page, if it has one. -/
def markdown? (skip : SkipRules) (doc : List Node) : Option String :=
  (mainElement? doc).map fun e => childrenMarkdown skip e.name false false e.children

/-- What is said about a page without a main element. -/
def noMainElement (doc : List Node) : Problem :=
  .elementNotFound "main" (Html.runningText doc)
    ("HTML document does not contain a <main> element. " ++
      "This may indicate invalid rustdoc HTML output.")

/-- The Markdown of the main element of a page. -/
def markdown (skip : SkipRules) (doc : List Node) : Except Problem String :=
  match markdown? skip doc with
  | some s => .ok s
  | none => .error (noMainElement doc)

end CrateBook.Page
