import CrateBook.Json.Access

/-!
# Items of a crate

An item is what a crate declares under a name: a module, a type, a function, or a part of one of
them. What an item is made of depends on its kind and is read where it is shown.
-/

namespace CrateBook.Rustdoc

/-- From where an item can be used. -/
inductive Visibility where
  | pub
  | pubCrate
  | restricted
  | unmarked
  | other (v : Json)

namespace Visibility

/-- The visibility that a value records. -/
def ofJson : Json → Visibility
  | .obj _ => .restricted
  | .str "public" => .pub
  | .str "crate" => .pubCrate
  | .str "restricted" => .restricted
  | .str "default" => .unmarked
  | v => .other v

/-- The visibility as a value. -/
def toJson : Visibility → Json
  | .pub => .str "public"
  | .pubCrate => .str "crate"
  | .restricted => .str "restricted"
  | .unmarked => .str "default"
  | .other v => v

/-- The item can be used from everywhere. -/
def isPublic : Visibility → Bool
  | .pub => true
  | _ => false

/-- What a declaration starts with. -/
def keyword : Visibility → String
  | .pub => "pub "
  | .pubCrate => "pub(crate) "
  | _ => ""

/-- What is said after the name of a field. A list cannot be looked up. -/
def label : Visibility → Except Fault String
  | .pub => .ok "(pub)"
  | .pubCrate => .ok "(pub(crate))"
  | .restricted => .ok "(pub restricted)"
  | .unmarked => .ok ""
  | .other (.arr _) => .error (.typeMismatch "unhashable type: 'list'")
  | .other _ => .ok ""

end Visibility

/-- An item of a crate. Its name and its documentation should be texts; they are looked at where
they are shown. -/
structure Item where
  id : String
  name : Json
  visibility : Visibility
  docs : Json
  kind : String
  /-- What the item is made of, an object. -/
  inner : Json
  /-- The item belongs to the crate itself and not to one that it uses. -/
  isOwn : Bool

namespace Item

/-- The key of an id, which may be written as a number or as a text. -/
def key? : Json → Option String
  | .null => none
  | v => some v.display

/-- The item and what it is made of, by its kind. -/
def readInner (v : Json) : Except Fault (String × Json) := do
  match v.orObject with
  | .str kind => return (kind, .obj [])
  | inner =>
    match ← inner.members with
    | [] => return ("unknown", .obj [])
    | (kind, .obj members) :: _ => return (kind, .obj members)
    | (kind, value) :: _ => return (kind, .obj [("value", value)])

/-- The item that a value records. -/
def ofJson (v : Json) : Except Fault Item := do
  let (kind, inner) ← readInner (← v.memberOrNull "inner")
  let visibility := (← v.member? "visibility").map Visibility.ofJson
  let id := key? (← v.memberOrNull "id")
  let name ← v.memberOrNull "name"
  let docs ← v.memberOrNull "docs"
  let isOwn := match ← v.member? "crate_id" with
    | none => true
    | some crateId => crateId.number?.any (·.same (.ofInt 0))
  return ⟨id.getD "", name, visibility.getD .unmarked, docs, kind, inner, isOwn⟩

/-- The item is declared as public. -/
def isPublic (item : Item) : Bool := item.visibility.isPublic

/-- The name of the item, or another text when it has none. -/
def nameOr (default : String) (item : Item) : String :=
  if item.name.truthy then item.name.display else default

/-- The name under which the item is shown. -/
def displayName (item : Item) : String := item.nameOr "Anonymous"

/-- The value of a member of what the item is made of. -/
def part? (item : Item) (key : String) : Option Json := item.inner.get? key

/-- The value of a member of what the item is made of, null when there is none. -/
def part (item : Item) (key : String) : Json := (item.part? key).getD .null

/-- What the item declares about generic parameters. -/
def generics (item : Item) : Json := (item.part "generics").orObject

end Item

end CrateBook.Rustdoc
