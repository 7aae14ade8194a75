import CrateBook.Html.Nesting
import CrateBook.Html.Token
import CrateBook.Text.Lines

/-!
# Trees of markup

A document is built token by token on a stack of open elements. The outer elements of a document
are added where they are missing: text outside the body goes into a paragraph. Text made of ASCII
blanks only is reduced to one line feed, or to one space where it has none, except inside
preformatted text.
-/

namespace CrateBook.Html.Tree

/-- An open element. Its content stands last first. -/
structure Open where
  name : String
  attrs : List (String × AttrValue)
  content : List Node

/-- A document that is being built: the open elements, innermost first, the nodes outside of them,
last first, and the text since the last node, last piece first. -/
structure Builder where
  opened : List Open := []
  roots : List Node := []
  pending : List (List Char) := []
  headSeen : Bool := false
  bodySeen : Bool := false
  /-- How many outer start tags were left out as misplaced. -/
  ignored : Nat := 0

namespace Builder

/-- The name of the innermost open element. -/
def current? (b : Builder) : Option String := b.opened.head?.map (·.name)

/-- An element of this name is open. -/
def isOpen (b : Builder) (name : String) : Bool := b.opened.any (·.name == name)

/-- Adds a node to the innermost open element. -/
def addNode (b : Builder) (n : Node) : Builder :=
  match b.opened with
  | [] => { b with roots := n :: b.roots }
  | e :: rest => { b with opened := { e with content := n :: e.content } :: rest }

/-- Text of blanks only becomes one line feed or one space, except inside preformatted text. -/
def collapse (preformatted : Bool) (cs : List Char) : List Char :=
  if !preformatted && cs.all Token.isSpace then [if cs.contains '\n' then '\n' else ' '] else cs

/-- Ends the text since the last node. -/
def flush (b : Builder) : Builder :=
  if b.pending.isEmpty then b
  else
    let cs := collapse (b.isOpen "pre" || b.isOpen "textarea") b.pending.reverse.flatten
    let home := (b.opened.find? fun e => apartElements.contains e.name).map (·.name)
    { b with pending := [] }.addNode (.text home (String.ofList cs))

/-- Opens an element. -/
def enter (b : Builder) (name : String) (attrs : List (String × AttrValue)) : Builder :=
  let b := b.flush
  { b with
    opened := ⟨name, attrs, []⟩ :: b.opened
    headSeen := b.headSeen || name == "head"
    bodySeen := b.bodySeen || name == "body" }

/-- Closes the innermost open element. -/
def leave (b : Builder) : Builder :=
  let b := b.flush
  match b.opened with
  | [] => b
  | e :: rest => { b with opened := rest }.addNode (.element e.name e.attrs e.content.reverse)

/-- Closes `n` elements. -/
def leaveMany (b : Builder) : Nat → Builder
  | 0 => b
  | n + 1 => b.leave.leaveMany n

/-- Closes the elements that the start of `name` ends. -/
def closeBefore (b : Builder) (name : String) : Builder :=
  b.leaveMany (endedBy b.opened)
where
  /-- The number of innermost open elements that the start tag ends. -/
  endedBy : List Open → Nat
    | [] => 0
    | e :: rest => if endsAtStart e.name name then endedBy rest + 1 else 0

/-- Elements of the head of a document. -/
def headElements : List String := ["script", "style", "meta", "link", "title", "base"]

/-- Opens the outer elements that the start of `name` implies. -/
def openImplied (b : Builder) (name : String) : Builder :=
  if name == "html" then b
  else
    let b := if b.opened.isEmpty then b.enter "html" [] else b
    if name == "body" || name == "head" then b
    else if b.opened.length ≤ 1 && headElements.contains name then
      if b.headSeen then b else b.enter "head" []
    else if name == "noframes" || name == "frame" || name == "frameset" then b
    else if b.bodySeen || b.isOpen "body" || b.isOpen "head" then b
    else b.enter "body" []

/-- The start tag of an outer element that has no place here. -/
def isMisplaced (b : Builder) (name : String) : Bool :=
  (name == "html" && !b.opened.isEmpty) ||
    (name == "head" && b.opened.length != 1) ||
    (name == "body" && b.isOpen "body")

/-- The value of an attribute as the tree holds it. -/
def attrValue (element : String) (a : String × String) : String × AttrValue :=
  (a.1, if isWordAttr element a.1 then .tokens (Text.words a.2) else .text a.2)

/-- Takes a start tag. -/
def startTag (b : Builder) (name : String) (attrs : List (String × String))
    (selfClosing : Bool) : Builder :=
  let b := (b.closeBefore name).openImplied name
  if b.isMisplaced name then { b with ignored := b.ignored + 1 }
  else
    let b := b.enter name (attrs.map (attrValue name))
    if selfClosing || voidElements.contains name then b.leave else b

/-- The number of open elements that an end tag closes, none when it is out of place. -/
def closedBy (name : String) : List Open → Option Nat
  | [] => none
  | e :: rest =>
    if e.name == name then some 1
    else if rank e.name > rank name then none
    else (closedBy name rest).map (· + 1)

/-- Takes an end tag. -/
def endTag (b : Builder) (name : String) : Builder :=
  if b.ignored > 0 && (name == "html" || name == "body" || name == "head") then
    { b with ignored := b.ignored - 1 }
  else b.leaveMany ((closedBy name b.opened).getD 0)

/-- Takes text. Outside the body, blanks at its start stay where they are and the rest opens a
paragraph. -/
def text (b : Builder) (cs : List Char) : Builder :=
  if b.current?.all fun name => name == "html" || name == "head" then
    let blanks := cs.takeWhile Token.isSpace
    let rest := cs.drop blanks.length
    let b := if blanks.isEmpty || b.opened.isEmpty then b else
      { b with pending := blanks :: b.pending }
    if rest.isEmpty then b
    else
      let b := ((b.closeBefore "p").openImplied "p").enter "p" []
      { b with pending := rest :: b.pending }
  else { b with pending := cs :: b.pending }

/-- Takes a token. -/
def step (b : Builder) : Token → Builder
  | .text cs => b.text cs
  | .comment cs => b.flush.addNode (.comment (String.ofList cs))
  | .startTag name attrs selfClosing => b.startTag name attrs selfClosing
  | .endTag name => b.endTag name

/-- The document when no token follows. -/
def finish (b : Builder) : List Node :=
  (b.leaveMany b.opened.length).flush.roots.reverse

end Builder

/-- The document that tokens describe. -/
def ofTokens (tokens : List Token) : List Node := (tokens.foldl Builder.step {}).finish

end CrateBook.Html.Tree

namespace CrateBook.Html

/-- The document that markup describes. -/
def parse (markup : String) : List Node :=
  let cs := match markup.toList with
    | '\uFEFF' :: cs => cs
    | cs => cs
  let cs := (Text.feedRuns cs).map fun c => if c.toNat == 0 then '\uFFFD' else c
  Tree.ofTokens (Token.ofChars cs)

end CrateBook.Html
