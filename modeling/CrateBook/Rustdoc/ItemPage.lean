import CrateBook.Rustdoc.Declaration
import CrateBook.Rustdoc.Implementation

/-!
# Pages of items

The page of an item is written from sections, each a list of lines. Structs, enums, unions and
aliases have pages of their own shapes; `itemPage` chooses by the kind of the item. `pageAs` writes
a page of one shape and refuses an item of another kind.
-/

namespace CrateBook.Rustdoc

/-- The title of a page. -/
def titleLines (item : Item) : List String :=
  [Markdown.heading 1 (kindLabel item.kind ++ " `" ++ item.displayName ++ "`"), ""]

/-- The module around the item, unless the item is at the top of the crate. -/
def namespaceLines (crate : Crate) (item : Item) : List String :=
  match crate.namespace? item with
  | none | some "" => []
  | some name => ["**Namespace:** `" ++ name ++ "`", ""]

/-- The declaration of an item. -/
def definitionLines (code : String) : List String :=
  ["**Definition:**", "", Markdown.codeBlock code "rust", ""]

/-- The documentation of an item, nothing when there is none. -/
def descriptionLines (item : Item) : List String :=
  let docs := Docs.clean (Docs.textOf item.docs)
  if docs == "" then [] else ["### Description", "", docs, ""]

/-- A section under a title, nothing when it has no lines. -/
def sectionLines (title : String) (lines : List String) : List String :=
  if lines.isEmpty then [] else Markdown.heading 2 title :: "" :: lines ++ [""]

/-- The commands that lead on from the page of an item. -/
def nextLines (crate : Crate) (item : Item) : List String :=
  Markdown.nextActions
    ["View this item: `cargo docmd show " ++ crate.qualifiedName item ++ "`",
      "Browse all items: `cargo docmd list " ++ crate.name ++ "`"]

/-- The lines of a page; a page ends with one line feed. -/
def pageOf (lines : List String) : String := Text.trimEnd ("\n".intercalate lines) ++ "\n"

/-- What every page starts with. -/
def headLines (crate : Crate) (item : Item) : List String :=
  titleLines item ++ namespaceLines crate item

/-- The section on generic parameters. -/
def parameterLines (item : Item) : Except Fault (List String) :=
  return sectionLines "Generic Parameters" (← paramLines (item.part "generics"))

/-- The page of a struct. -/
def structPage (crate : Crate) (item : Item) : Except Fault String := do
  let code ← structDeclaration crate [] none item
  Docs.check item.docs
  let fields ← structFieldLines crate [] item
  let parameters ← parameterLines item
  let implementations ← implementationsSection crate item
  return pageOf (headLines crate item ++ definitionLines code ++ descriptionLines item ++
    sectionLines "Fields" fields ++ parameters ++ implementations ++ nextLines crate item)

/-- The page of an enum. -/
def enumPage (crate : Crate) (item : Item) : Except Fault String := do
  let code ← enumDeclaration crate [] none item
  Docs.check item.docs
  let variants ← variantLines crate item
  let parameters ← parameterLines item
  let implementations ← implementationsSection crate item
  return pageOf (headLines crate item ++ definitionLines code ++ descriptionLines item ++
    sectionLines "Variants" variants ++ parameters ++ implementations ++ nextLines crate item)

/-- What is said about the use of unions. -/
def unionNote : String :=
  "**Important**: Accessing union fields requires unsafe code. " ++
    "Only access the field that was most recently written to. " ++
    "Reading from a different field results in undefined behavior."

/-- The page of a union. -/
def unionPage (crate : Crate) (item : Item) : Except Fault String := do
  let code ← unionDeclaration crate item
  Docs.check item.docs
  let fields ← namedFieldLines crate [] (← (item.part "fields").partsIfAny)
  let parameters ← parameterLines item
  let implementations ← implementationsSection crate item
  return pageOf (headLines crate item ++ definitionLines code ++ descriptionLines item ++
    sectionLines "Safety" [unionNote] ++ sectionLines "Fields" fields ++ parameters ++
    implementations ++ nextLines crate item)

/-- The table of variants that the page of an alias of an enum shows. -/
def aliasVariantLines (crate : Crate) (item : Item) (target : Option Item) :
    Except Fault (List String) := do
  match target.filter (·.kind == "enum") with
  | none => return []
  | some target =>
    let subst ← aliasSubst item target
    let table ← variantsTable crate subst (← item.targetArguments) target
    return if table == "" then [] else ["---", "", Markdown.heading 2 "Variants", "", table, ""]

/-- The name of what an alias stands for. -/
def targetName (item : Item) (target : Option Item) : Except Fault String :=
  match target, item.targetPath? with
  | some target, _ => return target.displayName
  | none, some path => return shortName (← readPathName path).display
  | none, none => return (← readTy (item.part "type")).text []

/-- The page of an alias. -/
def aliasPage (crate : Crate) (item : Item) : Except Fault String := do
  let target ← crate.target? item
  let code ← aliasDeclaration item
  let aliased ← aliasedCode crate item target
  Docs.check item.docs
  let variants ← aliasVariantLines crate item target
  let implementations ← inheritedSection crate (← targetName item target) target
  return pageOf (headLines crate item ++ definitionLines code ++
    ["**Aliased Type:**", "", Markdown.codeBlock aliased "rust", ""] ++ descriptionLines item ++
    variants ++ implementations ++ nextLines crate item)

/-- The line of an associated item of a trait, none for what is not shown. -/
def associatedLine? (member : Item) : Except Fault (Option String) := do
  let line (code : String) : Except Fault (Option String) := do
    Docs.check member.docs
    return some (Docs.withSummary ("- " ++ Markdown.inlineCode code) member.docs)
  match member.kind with
  | "function" => return some (← functionLine (.other (.str "")) member)
  | "assoc_type" => line ("type " ++ member.displayName)
  | "assoc_const" =>
    let type ← readTy (member.part "type")
    line ("const " ++ member.displayName ++ ": " ++ type.text [])
  | _ => return none

/-- The lines of the associated items of a trait. -/
def associatedLines (crate : Crate) (item : Item) : Except Fault (List String) := do
  let members := (← (item.part "items").partsIfAny).filterMap crate.get?
  return (← members.mapM associatedLine?).filterMap id

/-- The page of an item of any other kind. -/
def plainPage (crate : Crate) (item : Item) : Except Fault String := do
  let code ← declaration? item
  Docs.check item.docs
  let associated ← if item.kind == "trait" then associatedLines crate item else pure []
  let parameters ← parameterLines item
  let definition := match code with
    | none => []
    | some code => definitionLines code
  return pageOf (headLines crate item ++ definition ++ descriptionLines item ++
    sectionLines "Associated Items" associated ++ parameters ++ nextLines crate item)

/-- The shapes of pages. -/
inductive PageShape where
  | struct
  | enum
  | union
  | typeAlias
  | plain
  deriving DecidableEq, Repr

namespace PageShape

/-- The shape of the page of an item of a kind. -/
def ofKind : String → PageShape
  | "struct" => .struct
  | "enum" => .enum
  | "union" => .union
  | "type_alias" => .typeAlias
  | _ => .plain

/-- The kind of item that a page of this shape is for; a plain page takes every item. -/
def label : PageShape → String
  | .struct => "struct"
  | .enum => "enum"
  | .union => "union"
  | .typeAlias => "type alias"
  | .plain => "any"

/-- The page of an item, in this shape. -/
def page (shape : PageShape) (crate : Crate) (item : Item) : Except Fault String :=
  match shape with
  | .struct => structPage crate item
  | .enum => enumPage crate item
  | .union => unionPage crate item
  | .typeAlias => aliasPage crate item
  | .plain => plainPage crate item

end PageShape

/-- The page of an item. -/
def itemPage (crate : Crate) (item : Item) : Except Fault String :=
  (PageShape.ofKind item.kind).page crate item

/-- The page of an item in a shape that must be the one of its kind. The module around the item is
written first and its full name last. -/
def pageAs (shape : PageShape) (crate : Crate) (item : Item) : Except Failure String :=
  if shape = .plain || PageShape.ofKind item.kind = shape then
    Except.mapError .fault do
      crate.checkPath 1 item
      let page ← shape.page crate item
      crate.checkPath 0 item
      return page
  else throw (.problem (.wrongKind shape.label item.kind))

end CrateBook.Rustdoc
