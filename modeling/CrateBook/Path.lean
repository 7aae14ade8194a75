import CrateBook.Text.Pieces

/-!
# File paths

A path is a root, empty for a relative path, and names. Written paths are brought to this form:
repeated slashes count once (but exactly two at the start are a root of their own), names that are
a single dot and slashes at the end are dropped, and parent references stay.
-/

namespace CrateBook

/-- A file path. -/
structure Path where
  root : String
  parts : List String
  deriving DecidableEq, Repr, Inhabited

namespace Path

/-- The root of a written path: none, one slash, or exactly two. -/
def rootOf : List Char → String
  | '/' :: '/' :: '/' :: _ => "/"
  | '/' :: '/' :: _ => "//"
  | '/' :: _ => "/"
  | _ => ""

/-- The path that a text spells. -/
def ofString (s : String) : Path where
  root := rootOf s.toList
  parts := (Text.splitOnChar s '/').filter fun part => part != "" && part != "."

/-- The path of no name. -/
def here : Path := ⟨"", []⟩

/-- The written form of a path; the path of no name is a single dot. -/
def toString (p : Path) : String :=
  if p.root == "" && p.parts.isEmpty then "." else p.root ++ "/".intercalate p.parts

instance : ToString Path := ⟨Path.toString⟩

/-- The path `q` seen from `p`; a path with a root stays as it is. -/
def join (p q : Path) : Path := if q.root != "" then q else ⟨p.root, p.parts ++ q.parts⟩

instance : Append Path := ⟨join⟩

/-- The path to what a written path names inside `p`. -/
def child (p : Path) (s : String) : Path := p.join (ofString s)

/-- The last name; empty when there is none. -/
def name (p : Path) : String := p.parts.getLast?.getD ""

/-- How many bytes the written path takes, each name with the byte that ends it. -/
def byteSize (p : Path) : Nat :=
  p.parts.foldl (fun bytes name => bytes + (name.utf8ByteSize + 1)) p.root.utf8ByteSize

/-- A null character stands in the path. -/
def hasNull (p : Path) : Bool := p.parts.any fun name => name.toList.contains '\x00'

/-- The path without its last name. -/
def parent (p : Path) : Path := { p with parts := p.parts.dropLast }

/-- A name without its extension. An extension is a dot and what follows it, if neither it nor what
comes before it is empty. -/
def stem (name : String) : String :=
  let back := name.toList.reverse
  let ext := back.takeWhile (· != '.')
  match back.drop ext.length with
  | '.' :: before => if ext.isEmpty || before.isEmpty then name else String.ofList before.reverse
  | _ => name

/-- The path with the extension of its last name replaced, if it has a name. -/
def withExtension? (p : Path) (ext : String) : Option Path :=
  if p.name == "" then none else some { p with parts := p.parts.dropLast ++ [stem p.name ++ ext] }

end Path

end CrateBook
