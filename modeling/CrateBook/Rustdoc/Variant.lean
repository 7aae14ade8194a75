import CrateBook.Rustdoc.Field

/-!
# Variants

The variants of an enum are shown as list lines, as lines of a declaration and, for an alias of the
enum, as the rows of a table. All three show what `payload` reads.
-/

namespace CrateBook.Rustdoc

/-- What a variant holds: nothing, the types of a tuple, or fields with their names. A type that is
not known is missing. -/
inductive Payload where
  | none
  | tuple (types : List (Option String))
  | named (fields : List String)

/-- The variants of an enum, in the order in which they are declared. -/
def Crate.variants (crate : Crate) (item : Item) : Except Fault (List Item) :=
  return ((← (item.part "variants").partsIfAny).filterMap crate.get?).filter (·.kind == "variant")

/-- The type of a field of a tuple; a missing one for a place without a known field. -/
def tupleType (crate : Crate) (id : Json) : Except Fault (Option Ty) :=
  match id, crate.get? id with
  | .null, _ | _, none => return none
  | _, some field => do
    let type ← readTy field.fieldType
    match type.raw? with
    | some .null => return none
    | _ => return some type

/-- A field of a variant with its name, none when the crate does not record it under a name. -/
def namedField? (crate : Crate) (subst : Subst) (id : Json) : Except Fault (Option String) :=
  match crate.get? id with
  | none => return none
  | some field =>
    if field.name.truthy then
      return some (field.name.display ++ ": " ++ (← fieldTypeText subst field))
    else return none

/-- The value that stands for a type, if one does. -/
def rawIn (type : Option Ty) : Option Json := type.bind Ty.raw?

/-- What a variant holds. -/
def payload (crate : Crate) (subst : Subst) (variant : Item) : Except Fault Payload := do
  match ← readShape "plain" variant with
  | ("tuple", data) =>
    let types ← (← data.partsIfAny).mapM (tupleType crate)
    joinable 0 (types.map rawIn)
    return .tuple (types.map fun t => t.map (·.text subst))
  | ("struct", data) =>
    let ids ← (← data.orObject.memberOrNull "fields").partsIfAny
    return .named ((← ids.mapM (namedField? crate subst)).filterMap id)
  | _ => return .none

/-- The signature of a variant that holds `payload`. -/
def Payload.signature (name : String) : Payload → String
  | .none => name
  | .tuple types =>
    if types.isEmpty then name else name ++ "(" ++ commas (types.map (·.getD "_")) ++ ")"
  | .named fields =>
    if fields.isEmpty then name else name ++ " \x7b " ++ commas fields ++ " \x7d"

/-- The signature of a variant. -/
def variantSignature (crate : Crate) (subst : Subst) (variant : Item) : Except Fault String :=
  return (← payload crate subst variant).signature variant.displayName

/-- The value that is declared for a variant, nothing when there is none. -/
def discriminantText (variant : Item) : Except Fault String := do
  let d := variant.part "discriminant"
  if !d.truthy then return ""
  let expr ← d.memberOrNull "expr"
  let value ← if expr.truthy then pure expr else d.memberOrNull "value"
  return " = " ++ value.display

/-- The list lines of the variants of an enum. -/
def variantLines (crate : Crate) (item : Item) : Except Fault (List String) := do
  (← crate.variants item).mapM fun v => do
    let signature ← variantSignature crate [] v
    let discriminant ← discriminantText v
    Docs.check v.docs
    return Docs.withSummary ("- `" ++ signature ++ "`" ++ discriminant) v.docs

/-- The lines of a declaration for the variants of an enum. -/
def variantDeclarations (crate : Crate) (subst : Subst) (item : Item) :
    Except Fault (List String) := do
  let lines ← (← crate.variants item).mapM fun v => do
    let signature ← variantSignature crate subst v
    return "    " ++ signature ++ (← discriminantText v) ++ ","
  return lines ++
    if (item.part "has_stripped_variants").truthy then ["    // some variants omitted"] else []

/-- The cell of the table of variants that shows what a variant holds. Where a type of a tuple is
missing, the argument of the alias in the place of the variant is shown. -/
def Payload.cell (argument : Except Fault (Option String)) : Payload → Except Fault String
  | .none => return "N/A"
  | .tuple types =>
    if !types.isEmpty && types.all Option.isSome then
      return "`" ++ commas (types.filterMap id) ++ "`"
    else return "`" ++ (← argument).getD "T" ++ "`"
  | .named fields => return if fields.isEmpty then "N/A" else "`" ++ commas fields ++ "`"

/-- The table of the variants of an enum, as an alias with these arguments shows them; nothing when
there are none. -/
def variantsTable (crate : Crate) (subst : Subst) (arguments : List Json) (item : Item) :
    Except Fault String := do
  let rows ← (← crate.variants item).zipIdx.mapM fun (v, place) => do
    let argument := arguments[place]?.mapM fun a => return (← readArg a).text []
    let cell ← (← payload crate subst v).cell argument
    Docs.check v.docs
    return ["`" ++ v.displayName ++ "`", cell,
      Text.replace (Docs.summaryOf v.docs) "|" "\\|"]
  return Markdown.tableUnlessEmpty ["Variant", "Type", "Description"] rows

end CrateBook.Rustdoc
