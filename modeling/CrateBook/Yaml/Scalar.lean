import CrateBook.Text.Digits
import CrateBook.Yaml.Cursor

/-!
# Scalars

A scalar is written on its own (plain), between quotes, or as a block of lines. Line ends inside a
plain or quoted scalar are folded: one is a space, and of several all but the first are kept. A
block keeps its line ends, unless it is of the folded kind.

Each function reads from a place and gives the characters of the scalar and the place after it;
there is none when the text is malformed.
-/

namespace CrateBook.Yaml

/-- Folds a line end followed by the line ends `more`. -/
def folded (lineEnd more : List Char) : List Char :=
  (if lineEnd ≠ ['\n'] then lineEnd else if more.isEmpty then [' '] else []) ++ more

/-! ## Quoted scalars -/

/-- The line ends from here on and the blanks around them; a mark between documents must not follow
a line end. -/
def quotedBreaks : Nat → Cursor → Option (List Char × Cursor)
  | 0, _ => none
  | fuel + 1, p =>
    if atMark p.rest then none
    else
      let p := p.pass fun c => c = ' ' || c = '\t'
      match p.lineEnd with
      | ([], p) => some ([], p)
      | (c, p) => (quotedBreaks fuel p).map fun (cs, p) => (c ++ cs, p)

/-- The blanks from here on, folded if a line ends among them. The text must go on after them. -/
def quotedSpaces (fuel : Nat) (p : Cursor) : Option (List Char × Cursor) :=
  let (blanks, p) := p.span fun c => c = ' ' || c = '\t'
  if p.rest.isEmpty then none
  else match p.lineEnd with
    | ([], p) => some (blanks, p)
    | (c, p) => (quotedBreaks fuel p).map fun (cs, p) => (folded c cs, p)

/-- What a one-letter escape stands for. -/
def escapes : List (Char × Char) := [
  ('0', '\x00'), ('a', '\x07'), ('b', '\x08'), ('t', '\t'), ('\t', '\t'), ('n', '\n'),
  ('v', '\x0b'), ('f', '\x0c'), ('r', '\r'), ('e', '\x1b'), (' ', ' '), ('"', '"'), ('\\', '\\'),
  ('/', '/'), ('N', '\u0085'), ('_', '\u00A0'), ('L', '\u2028'), ('P', '\u2029')]

/-- How many digits follow the letter of a numeric escape. -/
def numericEscapes : List (Char × Nat) := [('x', 2), ('u', 4), ('U', 8)]

/-- An escape, read from the place after its backslash. -/
def quotedEscape (fuel : Nat) (p : Cursor) : Option (List Char × Cursor) :=
  match p.rest with
  | [] => none
  | c :: rest =>
    match escapes.lookup c, numericEscapes.lookup c with
    | some e, _ => some ([e], p.next)
    | none, some digits =>
      if (rest.take digits).length < digits then none
      else do
        let n ← Text.hexNumber? (rest.take digits)
        if n ≥ 0x110000 then none
        else some ([Char.ofNat n], p.skip (digits + 1))
    | none, none => if isBreak c then quotedBreaks fuel p.next else none

/-- The rest of a scalar between single quotes, after the first one. -/
def singleQuoted : Nat → Cursor → Option (List Char × Cursor)
  | 0, _ => none
  | fuel + 1, p =>
    let more (cs : List Char) (p : Cursor) : Option (List Char × Cursor) :=
      (singleQuoted fuel p).map fun (ds, p) => (cs ++ ds, p)
    match p.rest with
    | [] => none
    | '\x27' :: '\x27' :: _ => more ['\x27'] (p.skip 2)
    | '\x27' :: _ => some ([], p.next)
    | c :: _ =>
      if c = ' ' || c = '\t' || isBreak c then do
        let (cs, p) ← quotedSpaces (fuel + 1) p
        more cs p
      else more [c] p.next

/-- The rest of a scalar between double quotes, after the first one. -/
def doubleQuoted : Nat → Cursor → Option (List Char × Cursor)
  | 0, _ => none
  | fuel + 1, p =>
    let more (cs : List Char) (p : Cursor) : Option (List Char × Cursor) :=
      (doubleQuoted fuel p).map fun (ds, p) => (cs ++ ds, p)
    match p.rest with
    | [] => none
    | '"' :: _ => some ([], p.next)
    | '\\' :: _ => do
      let (cs, p) ← quotedEscape (fuel + 1) p.next
      more cs p
    | c :: _ =>
      if c = ' ' || c = '\t' || isBreak c then do
        let (cs, p) ← quotedSpaces (fuel + 1) p
        more cs p
      else more [c] p.next

/-! ## Plain scalars -/

/-- The characters that separate parts of a flow collection. -/
def isFlowMark (c : Char) : Bool := c = ',' || c = '[' || c = ']' || c = '\x7b' || c = '\x7d'

/-- The number of characters from here on that belong to one piece of a plain scalar. -/
def plainPiece (inFlow : Bool) : List Char → Nat
  | [] => 0
  | c :: rest =>
    let ends := c = ' ' || c = '\t' || isBreak c ||
      (c = ':' && (endsWord rest || (inFlow && (rest.head?.map isFlowMark).getD false))) ||
      (inFlow && (isFlowMark c || c = '?'))
    if ends then 0 else plainPiece inFlow rest + 1

/-- Further line ends after the first one in a plain scalar, and the spaces around them; none when a
mark between documents ends the scalar. -/
def plainBreaks : Nat → Cursor → Option (List Char) × Cursor
  | 0, p => (none, p)
  | fuel + 1, p =>
    let p := p.passSpaces
    match p.lineEnd with
    | ([], p) => (some [], p)
    | (c, p) =>
      if atMark p.rest then (none, p)
      else
        let (cs, p) := plainBreaks fuel p
        (cs.map (c ++ ·), p)

/-- What stands between two pieces of a plain scalar, nothing when the scalar ends; and whether a
line ends there. -/
def plainSpaces (fuel : Nat) (p : Cursor) : List Char × Bool × Cursor :=
  let (blanks, p) := p.span (· = ' ')
  match p.lineEnd with
  | ([], p) => (blanks, false, p)
  | (c, p) =>
    if atMark p.rest then ([], true, p)
    else
      let (cs, p) := plainBreaks fuel p
      ((cs.map (folded c)).getD [], true, p)

/-- The rest of a plain scalar inside a collection that stands left of the column `indent`, with the
place after it and whether a line ends behind its last piece. -/
def plain (inFlow : Bool) (indent : Nat) : Nat → Cursor → List Char × Bool × Cursor
  | 0, p => ([], false, p)
  | fuel + 1, p =>
    let size := plainPiece inFlow p.rest
    if size = 0 || p.rest.head? = some '#' then ([], false, p)
    else
      let piece := p.rest.take size
      let (between, newLine, after) := plainSpaces (fuel + 1) (p.skip size)
      if between.isEmpty || after.rest.head? = some '#' || (!inFlow && after.column < indent) then
        (piece, newLine, after)
      else
        match plain inFlow indent fuel after with
        | ([], _, after) => (piece, newLine, after)
        | (more, newLine, after) => (piece ++ between ++ more, newLine, after)

/-! ## Blocks of lines -/

/-- What becomes of the line ends behind the last line of a block. -/
inductive Chomping where
  | clip
  | strip
  | keep
  deriving DecidableEq

/-- The mark of a chomping. -/
def chomping? : Char → Option Chomping
  | '+' => some .keep
  | '-' => some .strip
  | _ => none

/-- A digit that gives an indentation. -/
def indentDigit? (c : Char) : Option Nat :=
  if '1' ≤ c && c ≤ '9' then some (c.toNat - '0'.toNat) else none

/-- The chomping and the indentation that the head of a block asks for, in either order. -/
def blockHead (p : Cursor) : Chomping × Option Nat × Cursor :=
  let indentAt (p : Cursor) : Option Nat × Cursor :=
    match p.rest.head?.bind indentDigit? with
    | some n => (some n, p.next)
    | none => (none, p)
  let chompingAt (p : Cursor) : Chomping × Cursor :=
    match p.rest.head?.bind chomping? with
    | some c => (c, p.next)
    | none => (.clip, p)
  match p.rest.head?.bind chomping? with
  | some c => let (n, p) := indentAt p.next; (c, n, p)
  | none => let (n, p) := indentAt p; let (c, p) := chompingAt p; (c, n, p)

/-- The line after the rest of the head of a block, which may hold a comment. -/
def afterHead (p : Cursor) : Option Cursor :=
  if !(endsLine p.rest || p.rest.head? = some ' ') then none
  else
    let p := p.passSpaces.passComment
    if endsLine p.rest then some p.lineEnd.2 else none

/-- The line ends before the first line of a block, and how far the lines among them are
indented. -/
def leadingBreaks : Nat → Cursor → List Char × Nat × Cursor
  | 0, p => ([], 0, p)
  | fuel + 1, p =>
    let p := p.passSpaces
    match p.lineEnd with
    | ([], _) => ([], p.column, p)
    | (c, after) =>
      let (cs, n, after) := leadingBreaks fuel after
      (c ++ cs, max p.column n, after)

/-- The line ends before the next line of a block that is indented to `indent`. -/
def blockBreaks (indent : Nat) : Nat → Cursor → List Char × Cursor
  | 0, p => ([], p)
  | fuel + 1, p =>
    let p := p.passIndent indent
    match p.lineEnd with
    | ([], _) => ([], p)
    | (c, after) =>
      let (cs, after) := blockBreaks indent fuel after
      (c ++ cs, after)

/-- The lines of a block from a place on, after the line ends `breaks`: their characters, the last
line end, and the line ends behind it. -/
def blockLines (isFolded : Bool) (indent : Nat) :
    Nat → List Char → Cursor → List Char × List Char × List Char × Cursor
  | 0, breaks, p => ([], [], breaks, p)
  | fuel + 1, breaks, p =>
    if p.column ≠ indent || p.rest.isEmpty then ([], [], breaks, p)
    else
      let startsBlank (p : Cursor) : Bool := p.rest.head? = some ' ' || p.rest.head? = some '\t'
      let (line, after) := p.span (!isBreak ·)
      let (lineEnd, after) := after.lineEnd
      let (more, after) := blockBreaks indent (fuel + 1) after
      if after.column ≠ indent || after.rest.isEmpty then (breaks ++ line, lineEnd, more, after)
      else
        let between :=
          if isFolded && lineEnd = ['\n'] && !startsBlank p && !startsBlank after then
            if more.isEmpty then [' '] else []
          else lineEnd
        let (lines, last, trailing, after) := blockLines isFolded indent fuel more after
        (breaks ++ line ++ between ++ lines, last, trailing, after)

/-- A block of lines inside a collection at the column `parent`, read from the place after its
mark. -/
def block (isFolded : Bool) (parent : Int) (fuel : Nat) (p : Cursor) :
    Option (List Char × Cursor) := do
  let (chomping, increment, p) := blockHead p
  let p ← afterHead p
  let least := max (parent + 1).toNat 1
  let (breaks, indent, p) := match increment with
    | some n =>
      let indent := least + n - 1
      let (breaks, p) := blockBreaks indent fuel p
      (breaks, indent, p)
    | none =>
      let (breaks, deepest, p) := leadingBreaks fuel p
      (breaks, max least deepest, p)
  let (lines, last, trailing, p) := blockLines isFolded indent fuel breaks p
  some (lines ++ (if chomping = .strip then [] else last) ++
    (if chomping = .keep then trailing else []), p)

end CrateBook.Yaml
