import CrateBook.Markdown.Basic
import CrateBook.Rustdoc.Crate
import CrateBook.Rustdoc.Docs
import CrateBook.Rustdoc.Ty.Read
import CrateBook.Rustdoc.Ty.Text

/-!
# Fields

Fields of structs and unions are shown twice: as list lines with their documentation, and as lines
of a declaration. A field that the crate does not record is left out; a tuple keeps its place where
the type is declared.
-/

namespace CrateBook.Rustdoc

/-- The shape of what an item holds, with the value that records it. -/
def readShape (default : String) (item : Item) : Except Fault (String × Json) :=
  match item.part? "kind" with
  | none => .ok (default, .null)
  | some (.str shape) => .ok (shape, .null)
  | some v => v.firstMember

/-- The value that records the type of a field. -/
def Item.fieldType (field : Item) : Json := (field.part? "value").getD field.inner

/-- The field with an id. -/
def Crate.field? (crate : Crate) (id : Json) : Option Item :=
  (crate.get? id).filter (·.kind == "struct_field")

/-- The type of a field as text. -/
def fieldTypeText (subst : Subst) (field : Item) : Except Fault String :=
  return (← readTy field.fieldType).text subst

/-- The type of a field as code. A value in its place is asked for a backtick as it is. -/
def fieldTypeCode (subst : Subst) (field : Item) : Except Fault String := do
  let type ← readTy field.fieldType
  match type.raw? with
  | none => return Markdown.inlineCode (type.text subst)
  | some v => return Markdown.codeSpan (← v.mentions "`") v.display

/-- Parts of a line that are not empty, a space between them. -/
def spaced (parts : List String) : String := " ".intercalate (parts.filter (· != ""))

/-- The list lines of named fields. -/
def namedFieldLines (crate : Crate) (subst : Subst) (ids : List Json) :
    Except Fault (List String) :=
  (ids.filterMap crate.field?).mapM fun field => do
    let code ← fieldTypeCode subst field
    let label ← field.visibility.label
    Docs.check field.docs
    return Docs.withSummary (spaced ["- " ++ code, field.nameOr "Unnamed", label]) field.docs

/-- The list line of a field of a tuple, none when the crate does not record the field. A place
without an id is a field that is hidden. -/
def tupleFieldLine? (crate : Crate) (subst : Subst) (id : Json) (place : Nat) :
    Except Fault (Option String) :=
  match id with
  | .null => return some ("- " ++ toString place ++ ": Hidden field")
  | id =>
    match crate.field? id with
    | none => return none
    | some field => do
      let code ← fieldTypeCode subst field
      Docs.check field.docs
      return some (Docs.withSummary ("- " ++ toString place ++ ": " ++ code) field.docs)

/-- The list lines of the fields of a tuple. -/
def tupleFieldLines (crate : Crate) (subst : Subst) (ids : List Json) :
    Except Fault (List String) :=
  return (← ids.zipIdx.mapM fun p => tupleFieldLine? crate subst p.1 p.2).filterMap id

/-- The list lines of the fields of a struct. -/
def structFieldLines (crate : Crate) (subst : Subst) (item : Item) :
    Except Fault (List String) := do
  match ← readShape "unit" item with
  | ("plain", data) =>
    namedFieldLines crate subst (← (← data.memberOrNull "fields").partsIfAny)
  | ("tuple", data) => tupleFieldLines crate subst (← data.partsIfAny)
  | _ => return []

/-- The lines of a declaration for named fields. -/
def fieldDeclarations (crate : Crate) (subst : Subst) (stripped : Bool) (ids : List Json) :
    Except Fault (List String) := do
  let lines ← (ids.filterMap crate.field?).mapM fun field => do
    let type ← fieldTypeText subst field
    return "    " ++ field.visibility.keyword ++ field.name.display ++ ": " ++ type ++ ","
  return lines ++ if stripped then ["    /* private fields */"] else []

/-- The fields of a tuple as they are declared. -/
def tupleDeclaration (crate : Crate) (subst : Subst) (ids : List Json) : Except Fault String := do
  let parts ← ids.mapM fun id =>
    match id, crate.field? id with
    | .null, _ | _, none => return "_"
    | _, some field => return field.visibility.keyword ++ (← fieldTypeText subst field)
  return "(" ++ commas parts ++ ")"

end CrateBook.Rustdoc
