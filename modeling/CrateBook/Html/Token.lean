import CrateBook.Html.CharRef
import CrateBook.Html.Node

/-!
# Markup tokens

Markup is read one character at a time into runs of text, tags and comments. A less-than sign that
starts no tag is text. Everything between `<!` or `<?` and the next greater-than sign is a comment,
and so is an end tag without a name; a tag that the end of the markup breaks off is dropped. Inside
scripts and styles nothing is markup but their own end tag; inside titles and text areas character
references are resolved as well.
-/

namespace CrateBook.Html

/-- A token of markup. -/
inductive Token where
  | text (s : List Char)
  | comment (s : List Char)
  | startTag (name : String) (attrs : List (String × String)) (selfClosing : Bool)
  | endTag (name : String)
  deriving Repr

namespace Token

/-- A tag that is being read. Characters stand last first. -/
structure Tag where
  isEnd : Bool
  name : List Char
  attrs : List (String × String) := []

/-- What is being read. Characters stand last first. -/
inductive Mode where
  | data
  | tagOpen
  | endTagOpen
  | tagName (tag : Tag)
  | beforeAttr (tag : Tag)
  | selfClose (tag : Tag)
  | attrName (tag : Tag) (name : List Char)
  | afterAttrName (tag : Tag) (name : List Char)
  | beforeValue (tag : Tag) (name : List Char)
  | quotedValue (tag : Tag) (name : List Char) (quote : Char) (value : List Char)
  | bareValue (tag : Tag) (name : List Char) (value : List Char)
  | declaration (chars : List Char)
  | comment (chars : List Char)
  | bogus (chars : List Char)
  | raw (name : String) (chars : List Char)

/-- A point in markup: the tokens so far, last first, the text since the last token, last
character first, and what is being read. -/
structure State where
  tokens : List Token
  text : List Char
  mode : Mode

/-- The blanks between the parts of a tag. -/
def isSpace (c : Char) : Bool :=
  c = ' ' || c = '\n' || c = '\t' || c = '\x0c' || c = '\r'

/-- Elements whose content is text. -/
def rawElements : List String := ["script", "style", "textarea", "title"]

/-- Elements whose content is text with character references. -/
def referenceElements : List String := ["textarea", "title"]

/-- The text since the last token as a token of its own. -/
def State.flush (s : State) : List Token :=
  if s.text.isEmpty then s.tokens else .text (resolve false s.text.reverse) :: s.tokens

/-- The tag with an attribute added. An attribute that the tag has already does not count. -/
def Tag.addAttr (tag : Tag) (name : List Char) (value : List Char) : Tag :=
  let name := asciiLower (String.ofList name.reverse)
  if (tag.attrs.lookup name).isSome then tag
  else { tag with
    attrs := tag.attrs ++ [(name, String.ofList (resolve true value.reverse))] }

/-- Goes on after a token. -/
def State.emit (s : State) (t : Token) : State := ⟨t :: s.flush, [], .data⟩

/-- Goes on after the whole of a tag. -/
def State.emitTag (s : State) (tag : Tag) (selfClosing : Bool) : State :=
  let name := asciiLower (String.ofList tag.name.reverse)
  if tag.isEnd then s.emit (.endTag name)
  else
    let s := s.emit (.startTag name tag.attrs selfClosing)
    if rawElements.contains name && !selfClosing then { s with mode := .raw name [] } else s

/-- A character of text outside of tags. -/
def State.dataChar (s : State) (c : Char) : State :=
  if c = '<' then { s with mode := .tagOpen } else { s with text := c :: s.text, mode := .data }

/-- A character between the attributes of a tag. -/
def State.attrChar (s : State) (tag : Tag) (c : Char) : State :=
  if isSpace c then { s with mode := .beforeAttr tag }
  else if c = '/' then { s with mode := .selfClose tag }
  else if c = '>' then s.emitTag tag false
  else { s with mode := .attrName tag [c] }

/-- The text that ends a comment stands at the end of `chars`, which a greater-than sign follows. -/
def endsComment (chars : List Char) : Bool :=
  match chars with
  | [] => true
  | ['-'] => true
  | '-' :: '-' :: _ => true
  | '!' :: '-' :: '-' :: _ => true
  | _ => false

/-- The content before an end tag of `name` that stands, without its last character, at the end of
`chars`. -/
def beforeEndTag? (name : String) (chars : List Char) : Option (List Char) :=
  let closing := name.toList.reverse ++ ['/', '<']
  if (chars.take closing.length).map Char.toLower == closing then
    some (chars.drop closing.length)
  else none

/-- The text of an element that holds only text. -/
def rawText (name : String) (chars : List Char) : List Char :=
  if referenceElements.contains name then resolve false chars.reverse else chars.reverse

/-- The tokens with the text of an element that holds only text. -/
def withRawText (name : String) (chars : List Char) (tokens : List Token) : List Token :=
  if chars.isEmpty then tokens else .text (rawText name chars) :: tokens

/-- Reads one character. -/
def step (s : State) (c : Char) : State :=
  match s.mode with
  | .data => s.dataChar c
  | .tagOpen =>
    if c.isAlpha then { s with mode := .tagName ⟨false, [c], []⟩ }
    else if c = '/' then { s with mode := .endTagOpen }
    else if c = '!' then { s with mode := .declaration [] }
    else if c = '?' then { s with mode := .bogus [c] }
    else { s with text := '<' :: s.text }.dataChar c
  | .endTagOpen =>
    if c.isAlpha then { s with mode := .tagName ⟨true, [c], []⟩ }
    else if c = '>' then { s with mode := .data }
    else { s with mode := .bogus [c] }
  | .tagName tag =>
    if isSpace c || c = '/' || c = '>' then s.attrChar tag c
    else { s with mode := .tagName { tag with name := c :: tag.name } }
  | .beforeAttr tag => s.attrChar tag c
  | .selfClose tag => if c = '>' then s.emitTag tag true else s.attrChar tag c
  | .attrName tag name =>
    if isSpace c then { s with mode := .afterAttrName tag name }
    else if c = '=' then { s with mode := .beforeValue tag name }
    else if c = '/' || c = '>' then s.attrChar (tag.addAttr name []) c
    else { s with mode := .attrName tag (c :: name) }
  | .afterAttrName tag name =>
    if isSpace c then s
    else if c = '=' then { s with mode := .beforeValue tag name }
    else s.attrChar (tag.addAttr name []) c
  | .beforeValue tag name =>
    if isSpace c then s
    else if c = '"' || c = '\x27' then { s with mode := .quotedValue tag name c [] }
    else if c = '>' then s.emitTag (tag.addAttr name []) false
    else { s with mode := .bareValue tag name [c] }
  | .quotedValue tag name quote value =>
    if c = quote then { s with mode := .beforeAttr (tag.addAttr name value) }
    else { s with mode := .quotedValue tag name quote (c :: value) }
  | .bareValue tag name value =>
    if isSpace c || c = '>' then s.attrChar (tag.addAttr name value) c
    else { s with mode := .bareValue tag name (c :: value) }
  | .declaration chars =>
    if c = '-' && chars.isEmpty then { s with mode := .declaration ['-'] }
    else if c = '-' then { s with mode := .comment [] }
    else if c = '>' then s.emit (.comment chars.reverse)
    else { s with mode := .bogus (c :: chars) }
  | .comment chars =>
    if c = '>' && endsComment chars then s.emit (.comment chars.reverse)
    else { s with mode := .comment (c :: chars) }
  | .bogus chars =>
    if c = '>' then s.emit (.comment chars.reverse) else { s with mode := .bogus (c :: chars) }
  | .raw name chars =>
    if isSpace c || c = '/' || c = '>' then
      match beforeEndTag? name chars with
      | some content =>
        let tag : Tag := ⟨true, name.toList.reverse, []⟩
        ({ s with tokens := withRawText name content s.tokens }).attrChar tag c
      | none => { s with mode := .raw name (c :: chars) }
    else { s with mode := .raw name (c :: chars) }

/-- The tokens of markup that ends here. -/
def finish (s : State) : List Token :=
  match s.mode with
  | .tagOpen => { s with text := '<' :: s.text }.flush
  | .endTagOpen => { s with text := '/' :: '<' :: s.text }.flush
  | .declaration chars => .comment chars.reverse :: s.flush
  | .comment chars => .comment chars.reverse :: s.flush
  | .bogus chars => .comment chars.reverse :: s.flush
  | .raw name chars => withRawText name chars s.flush
  | _ => s.flush

/-- The tokens of markup. -/
def ofChars (cs : List Char) : List Token := (finish (cs.foldl step ⟨[], [], .data⟩)).reverse

end Token

end CrateBook.Html
