import CrateBook.Error

/-!
# Item paths

An item path is a library and the names that lead from there to the item, each separated from the
next by two colons or a dot.
-/

namespace CrateBook

/-- An item path as it was written, with its library and the names inside the library. -/
structure ItemPath where
  raw : String
  library : String
  inner : List String
  deriving DecidableEq, Repr

namespace ItemPath

/-- The path inside the library, if the path names more than the library. -/
def item? (p : ItemPath) : Option String :=
  if p.inner.isEmpty then none else some ("::".intercalate p.inner)

/-- The full path with `library` as its first name. -/
def qualified (p : ItemPath) (library : String) : String :=
  match p.item? with
  | none => library
  | some item => library ++ "::" ++ item

/-- The names between the separators, which are two colons or a dot, from left to right. -/
def segmentRuns : List Char → List (List Char)
  | [] => [[]]
  | ':' :: ':' :: cs => [] :: segmentRuns cs
  | c :: cs =>
    if c = '.' then [] :: segmentRuns cs
    else match segmentRuns cs with
      | [] => [[c]]
      | s :: ss => (c :: s) :: ss

/-- The names between the separators of a text. -/
def segments (s : String) : List String := (segmentRuns s.toList).map String.ofList

/-- A name has no colon and no blank in it. -/
def isName (s : String) : Bool := s.toList.all fun c => c != ':' && !Text.isBlank c

/-- What is said about a name that is none. -/
def badNameReason (segment : String) : String :=
  "segment '" ++ segment ++ "' is not a valid identifier. " ++
    "Expected format: <library> or <library>::<item> (e.g., 'serde' or 'serde::Error')"

/-- Why names do not make a path, if they do not. -/
def refusal? (segments : List String) : Option String :=
  if segments.all (· == "") then some "path contains only separators"
  else if segments.head? == some "" then some "path starts with a separator"
  else if segments.getLast? == some "" then some "path ends with a separator"
  else if segments.contains "" then some "path contains an empty segment"
  else (segments.find? (!isName ·)).map badNameReason

/-- The item path that a text spells. -/
def parse (raw : String) : Except Problem ItemPath :=
  let text := Text.trim raw
  if text == "" then .error (.badItemPath raw "path is empty")
  else
    let names := segments text
    match refusal? names, names with
    | some reason, _ => .error (.badItemPath raw reason)
    | none, [] => .error (.badItemPath raw "path is empty")
    | none, library :: inner => .ok ⟨raw, library, inner⟩

end ItemPath

/-- The library that a text names, which must not be an item path. -/
def parseLibrary (raw : String) : Except Problem String :=
  let text := Text.trim raw
  if text == "" then .error (.badItemPath raw "library name is empty")
  else if Text.contains text "::" then
    .error (.badItemPath raw ("only accepts library names, not item paths. " ++
      "Use `cargo docmd show " ++ text ++ "` to view an item"))
  else do
    let path ← ItemPath.parse text
    if path.inner.isEmpty then return path.library
    throw (.badItemPath raw "only accepts library names, not item paths")

end CrateBook
