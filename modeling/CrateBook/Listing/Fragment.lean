import CrateBook.Error
import CrateBook.Path
import CrateBook.Text.Letters

/-!
# Fragments

A fragment is the path of a page inside the documentation of a library. The name of the page starts
with the kind of the item.
-/

namespace CrateBook.Listing

/-- The kind of item that a fragment names: what stands before the first dot of the name of the
page, if something follows that dot. -/
def fragmentKind (fragment : String) : String :=
  let name := (Path.ofString fragment).name.toList
  let kind := name.takeWhile (· != '.')
  if name.length ≤ kind.length + 1 then "" else String.ofList kind

/-- The labels of the kinds in fragments. -/
def fragmentLabels : List (String × String) := [
  ("struct", "Struct"), ("enum", "Enum"), ("union", "Union"), ("trait", "Trait"),
  ("traitalias", "Trait Alias"), ("fn", "Function"), ("type", "Type Alias"),
  ("constant", "Constant"), ("static", "Static"), ("macro", "Macro"), ("derive", "Derive Macro"),
  ("attr", "Attribute Macro"), ("primitive", "Primitive"), ("keyword", "Keyword"),
  ("index", "Module")]

/-- The label of the kind of item that a fragment names. -/
def fragmentLabel (fragment : String) : String :=
  let kind := fragmentKind fragment
  match fragmentLabels.lookup kind with
  | some label => label
  | none => if Text.titleCase kind == "" then "Other" else Text.titleCase kind

/-- The path of the Markdown page for a fragment, which must name a page. -/
def markdownPath (fragment : String) : Except Fault String :=
  match (Path.ofString fragment).withExtension? ".md" with
  | some path => .ok path.toString
  | none => .error (.badValue (Text.quotedName fragment ++ " names no page"))

end CrateBook.Listing
