import CrateBook.Yaml.Scalar

/-!
# Tokens of YAML

A text is read into tokens. Blocks are told by their columns, so the reader keeps the columns of the
open blocks and closes those that a line stands left of. A simple key is known only by the colon
behind it, so the reader also keeps, for every level of flow collections, the place where a key may
have started; the colon puts the token of the key there.
-/

namespace CrateBook.Yaml

/-- What a directive says: the version of the language, what a handle of tags stands for, or
something else. -/
inductive Directive where
  | version (major : Nat)
  | handle (name stands : String)
  | other
  deriving DecidableEq, Repr

/-- A token. A tag may be written behind a handle. -/
inductive Token where
  | directive (d : Directive)
  | documentStart
  | documentEnd
  | blockSequence
  | blockMapping
  | blockEnd
  | flowSequence
  | flowSequenceEnd
  | flowMapping
  | flowMappingEnd
  | blockEntry
  | flowEntry
  | key
  | value
  | alias (name : String)
  | anchor (name : String)
  | tag (handle : Option String) (name : String)
  | scalar (text : String) (isPlain : Bool)
  deriving DecidableEq, Repr

/-- A place where a simple key may have started: the number of tokens before it and where it stands.
A key is required where nothing else could continue the block. -/
structure KeyStart where
  before : Nat
  required : Bool
  index : Nat
  line : Nat
  column : Nat

/-- What is known at a place: the tokens before it, the depth of flow collections, the column of the
innermost block and those around it, whether a simple key may start here, and the places where one
may have started, by depth. -/
structure Scan where
  place : Cursor
  tokens : Array Token := #[]
  flow : Nat := 0
  indent : Int := -1
  indents : List Int := []
  mayStartKey : Bool := true
  keys : List (Nat × KeyStart) := []

namespace Scan

/-- One more token. -/
def emit (s : Scan) (t : Token) : Scan := { s with tokens := s.tokens.push t }

/-- A token and the place after its `n` characters. -/
def emitMark (s : Scan) (n : Nat) (t : Token) : Scan :=
  { s.emit t with place := s.place.skip n }

/-- The tokens with `new` put behind the first `n` of them. -/
def insertAt (s : Scan) (n : Nat) (new : List Token) : Scan :=
  { s with tokens := s.tokens.extract 0 n ++ new.toArray ++ s.tokens.extract n s.tokens.size }

/-- The place after blanks, comments and line ends. A key may start on a new line of a block. -/
def toToken : Nat → Scan → Scan
  | 0, s => s
  | fuel + 1, s =>
    let p := s.place.passSpaces.passComment
    match p.lineEnd with
    | ([], p) => { s with place := p }
    | (_, p) =>
      toToken fuel { s with place := p, mayStartKey := s.mayStartKey || s.flow = 0 }

/-- Forgets the starts of keys that are too far back; a required one must not be among them. -/
def dropStale (s : Scan) : Option Scan :=
  let isStale (k : Nat × KeyStart) : Bool :=
    k.2.line != s.place.line || s.place.index - k.2.index > 1024
  if s.keys.any fun k => isStale k && k.2.required then none
  else some { s with keys := s.keys.filter (!isStale ·) }

/-- Forgets the start of a key at this depth, which must not be required. -/
def dropKey (s : Scan) : Option Scan :=
  match s.keys.lookup s.flow with
  | none => some s
  | some k => if k.required then none else some { s with keys := s.keys.filter (·.1 != s.flow) }

/-- Notes that a key may start here. -/
def noteKey (s : Scan) : Option Scan :=
  if !s.mayStartKey then some s
  else do
    let required := s.flow = 0 && s.indent = (s.place.column : Int)
    let s ← s.dropKey
    let start : KeyStart :=
      ⟨s.tokens.size, required, s.place.index, s.place.line, s.place.column⟩
    some { s with keys := (s.flow, start) :: s.keys }

/-- Closes the blocks that stand right of a column. -/
def closeBlocks (s : Scan) (column : Int) : Scan :=
  if s.flow ≠ 0 then s
  else
    let all := s.indent :: s.indents
    let left := all.dropWhile (column < ·)
    let closed := all.length - left.length
    { s with
      tokens := s.tokens ++ (List.replicate closed Token.blockEnd).toArray
      indent := left.headD (-1)
      indents := left.tail }

/-- Opens a block at a column, if none is open there. -/
def openBlock (s : Scan) (column : Nat) (t : Token) (before : Nat) : Scan :=
  if s.indent < (column : Int) then
    { s.insertAt before [t] with indent := column, indents := s.indent :: s.indents }
  else s

/-- Opens a block at this place. -/
def openBlockHere (s : Scan) (t : Token) : Scan := s.openBlock s.place.column t s.tokens.size

/-- A token that cannot be part of a simple key, of `n` characters. -/
def mark (s : Scan) (n : Nat) (t : Token) (mayStartKey : Bool) : Option Scan := do
  let s ← s.dropKey
  some { s.emitMark n t with mayStartKey := mayStartKey }

/-- A mark between documents. -/
def documentMark (s : Scan) (t : Token) : Option Scan := (s.closeBlocks (-1)).mark 3 t false

/-- A character of a name: a letter, a digit, a hyphen or an underscore. -/
def isNameChar (c : Char) : Bool := c.isAlphanum || c = '-' || c = '_'

/-- A character of a tag behind its handle. -/
def isTagChar (c : Char) : Bool := c.isAlphanum || "-;/?:@&=+$,_.!~*'()[]%".toList.contains c

/-- The text goes on with a space or ends with its line. -/
def endsPart (cs : List Char) : Bool := endsLine cs || cs.head? = some ' '

/-- A handle of tags: an exclamation mark, or a name between two of them. -/
def tagHandle (p : Cursor) : Option (String × Cursor) :=
  match p.rest with
  | '!' :: ' ' :: _ => some ("!", p.next)
  | '!' :: _ =>
    let (name, p) := p.next.span isNameChar
    if p.rest.head? = some '!' then some ("!" ++ String.ofList name ++ "!", p.next) else none
  | _ => none

/-- The characters of a tag; there must be one. -/
def tagChars (p : Cursor) : Option (String × Cursor) :=
  let (cs, p) := p.span isTagChar
  if cs.isEmpty then none else some (String.ofList cs, p)

/-- The number that a version starts with; a point and another number follow it. -/
def version (p : Cursor) : Option (Nat × Cursor) :=
  let (major, p) := p.span Char.isDigit
  match p.rest with
  | '.' :: _ =>
    let (minor, p) := p.next.span Char.isDigit
    if major.isEmpty || minor.isEmpty || !endsPart p.rest then none
    else some (major.foldl (fun n c => 10 * n + (c.toNat - '0'.toNat)) 0, p)
  | _ => none

/-- What the directive `name` says. -/
def directiveValue (name : String) (p : Cursor) : Option (Directive × Cursor) :=
  if name = "YAML" then (version p.passSpaces).map fun (n, p) => (.version n, p)
  else if name = "TAG" then do
    let (handle, p) ← tagHandle p.passSpaces
    if p.rest.head? ≠ some ' ' then none
    else
      let (stands, p) ← tagChars p.passSpaces
      if endsPart p.rest then some (.handle handle stands, p) else none
  else some (.other, p.pass (!isBreak ·))

/-- A directive, which has a line of its own. -/
def directive (s : Scan) : Option Scan := do
  let s ← (s.closeBlocks (-1)).dropKey
  let (name, p) := s.place.next.span isNameChar
  if name.isEmpty || !endsPart p.rest then none
  else
    let (d, p) ← directiveValue (String.ofList name) p
    let p := p.passSpaces.passComment
    if endsLine p.rest then some { s.emit (.directive d) with place := p, mayStartKey := false }
    else none

/-- The start of a flow collection. -/
def openFlow (s : Scan) (t : Token) : Option Scan := do
  let s ← s.noteKey
  some { s.emitMark 1 t with flow := s.flow + 1, mayStartKey := true }

/-- The end of a flow collection. -/
def closeFlow (s : Scan) (t : Token) : Option Scan := do
  let s ← s.mark 1 t false
  some { s with flow := s.flow - 1 }

/-- A dash before an entry of a sequence. -/
def blockEntry (s : Scan) : Option Scan :=
  if s.flow = 0 && !s.mayStartKey then none
  else (if s.flow = 0 then s.openBlockHere .blockSequence else s).mark 1 .blockEntry true

/-- A question mark before a key. -/
def explicitKey (s : Scan) : Option Scan :=
  if s.flow = 0 && !s.mayStartKey then none
  else
    (if s.flow = 0 then s.openBlockHere .blockMapping else s).mark 1 .key (s.flow = 0)

/-- A colon before a value. The start of a simple key, if there is one, becomes a key. -/
def colon (s : Scan) : Option Scan :=
  match s.keys.lookup s.flow with
  | some k =>
    let s := { s with keys := s.keys.filter (·.1 != s.flow) }
    let s := s.insertAt k.before [.key]
    let s := if s.flow = 0 then s.openBlock k.column .blockMapping k.before else s
    some { s.emitMark 1 .value with mayStartKey := false }
  | none =>
    if s.flow = 0 && !s.mayStartKey then none
    else
      (if s.flow = 0 then s.openBlockHere .blockMapping else s).mark 1 .value (s.flow = 0)

/-- A token that may be a simple key or its start, read by `read` from this place. -/
def keyPart (s : Scan) (read : Cursor → Option (Token × Cursor)) : Option Scan := do
  let s ← s.noteKey
  let (t, p) ← read s.place
  some { s.emit t with place := p, mayStartKey := false }

/-- The characters that may follow the name of an anchor. -/
def endsAnchor (cs : List Char) : Bool :=
  endsWord cs || cs.head?.any fun c => ['?', ':', ',', ']', '\x7d', '%', '@', '\x60'].contains c

/-- The name of an anchor or alias, read from its mark. -/
def anchorName (token : String → Token) (p : Cursor) : Option (Token × Cursor) :=
  let (name, p) := p.next.span isNameChar
  if name.isEmpty || !endsAnchor p.rest then none else some (token (String.ofList name), p)

/-- A tag, read from its mark: whole between angle brackets, or behind a handle. The mark alone is a
tag as well. -/
def tagName (p : Cursor) : Option (Token × Cursor) := do
  let behind (handle : String) (p : Cursor) : Option (Token × Cursor) :=
    (tagChars p).map fun (name, p) => (.tag (some handle) name, p)
  let (t, p) ← match p.rest.tail with
    | '<' :: _ => do
      let (name, p) ← tagChars (p.skip 2)
      if p.rest.head? = some '>' then some (Token.tag none name, p.next) else none
    | rest =>
      if endsWord rest then some (Token.tag none "!", p.next)
      else if (rest.takeWhile fun c => c ≠ ' ' && !isBreak c).contains '!' then do
        let (handle, p) ← tagHandle p
        behind handle p
      else behind "!" p.next
  if endsPart p.rest then some (t, p) else none

/-- A quoted scalar, read from its quote. -/
def quotedToken (read : Cursor → Option (List Char × Cursor)) (p : Cursor) :
    Option (Token × Cursor) :=
  (read p.next).map fun (cs, p) => (.scalar (String.ofList cs) false, p)

/-- A block of lines. -/
def blockToken (s : Scan) (isFolded : Bool) (fuel : Nat) : Option Scan := do
  let s ← s.dropKey
  let (cs, p) ← block isFolded s.indent fuel s.place.next
  some { s.emit (.scalar (String.ofList cs) false) with place := p, mayStartKey := true }

/-- A plain scalar. -/
def plainToken (s : Scan) (fuel : Nat) : Option Scan := do
  let s ← s.noteKey
  let (cs, newLine, p) := plain (s.flow ≠ 0) (s.indent + 1).toNat fuel s.place
  some { s.emit (.scalar (String.ofList cs) true) with place := p, mayStartKey := newLine }

/-- The characters that no plain scalar starts with. -/
def indicators : List Char :=
  ['-', '?', ':', ',', '[', ']', '\x7b', '\x7d', '#', '&', '*', '!', '|', '>', '\x27', '"', '%',
    '@', '\x60']

/-- A plain scalar starts with `c` before `rest`. A dash may start one, and outside of flow
collections a question mark or a colon, unless a blank follows. -/
def startsPlain (inFlow : Bool) (c : Char) (rest : List Char) : Bool :=
  !(c = '\t' || indicators.contains c) ||
    (!endsWord rest && (c = '-' || (!inFlow && (c = '?' || c = ':'))))

/-- Reads the token that starts with `c`. -/
def token (fuel : Nat) (s : Scan) (c : Char) (rest : List Char) : Option Scan :=
  let atStart := s.place.column = 0
  let inFlow := s.flow ≠ 0
  if c = '%' && atStart then s.directive
  else if atStart && atMark (c :: rest) then
    s.documentMark (if c = '-' then .documentStart else .documentEnd)
  else if c = '[' then s.openFlow .flowSequence
  else if c = '\x7b' then s.openFlow .flowMapping
  else if c = ']' then s.closeFlow .flowSequenceEnd
  else if c = '\x7d' then s.closeFlow .flowMappingEnd
  else if c = ',' then s.mark 1 .flowEntry true
  else if c = '-' && endsWord rest then s.blockEntry
  else if c = '?' && (inFlow || endsWord rest) then s.explicitKey
  else if c = ':' && (inFlow || endsWord rest) then s.colon
  else if c = '*' then s.keyPart (anchorName .alias)
  else if c = '&' then s.keyPart (anchorName .anchor)
  else if c = '!' then s.keyPart tagName
  else if c = '|' && !inFlow then s.blockToken false fuel
  else if c = '>' && !inFlow then s.blockToken true fuel
  else if c = '\x27' then s.keyPart (quotedToken (singleQuoted fuel))
  else if c = '"' then s.keyPart (quotedToken (doubleQuoted fuel))
  else if startsPlain inFlow c rest then s.plainToken fuel
  else none

/-- Reads tokens to the end of the text. -/
def run : Nat → Scan → Option (Array Token)
  | 0, _ => none
  | fuel + 1, s => do
    let s ← (s.toToken (s.place.rest.length + 1)).dropStale
    let s := s.closeBlocks s.place.column
    match s.place.rest with
    | [] => return (← (s.closeBlocks (-1)).dropKey).tokens
    | c :: rest => run fuel (← s.token (rest.length + 2) c rest)

end Scan

/-- The tokens of a text, if it is well formed. -/
def tokens? (s : String) : Option (List Token) :=
  let cs := s.toList
  if !cs.all isPrintable then none
  else
    let cs := match cs with
      | '\uFEFF' :: rest => rest
      | cs => cs
    (Scan.run (cs.length + 2) { place := { rest := cs } }).map Array.toList

end CrateBook.Yaml
