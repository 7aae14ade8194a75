import CrateBook.Rustdoc.Function
import CrateBook.Rustdoc.Variant

/-!
# Declarations

Every item but those that only hold others is declared in the syntax of Rust. The declaration of
the target of an alias can be given in terms of the alias: with a substitution for its parameters
and with the parameters of the alias in the place of its own.
-/

namespace CrateBook.Rustdoc

/-- The declaration of an item's own parameters. -/
def ownParams (subst : Subst) (item : Item) : Except Fault String :=
  return paramsText subst (← readParams (← listed "params" item.generics))

/-- The predicates on the parameters of an item. -/
def ownPredicates (subst : Subst) (item : Item) : Except Fault String :=
  return whereText subst (← readPredicates item.generics)

/-- Lines between braces after a head, the braces alone when there are none. -/
def braced (head : String) (body : List String) : String :=
  "\n".intercalate ((head ++ " \x7b") :: body ++ ["\x7d"])

/-- The declaration of a struct. -/
def structDeclaration (crate : Crate) (subst : Subst) (params : Option String) (item : Item) :
    Except Fault String := do
  let params ← match params with
    | some params => pure params
    | none => ownParams [] item
  let predicates ← ownPredicates subst item
  let head := item.visibility.keyword ++ "struct " ++ item.displayName ++ params
  match ← readShape "unit" item with
  | ("tuple", data) =>
    return head ++ (← tupleDeclaration crate subst (← data.partsIfAny)) ++ predicates ++ ";"
  | ("plain", data) =>
    let ids ← data.memberOrNull "fields"
    let stripped ← data.memberOrNull "has_stripped_fields"
    let body ← fieldDeclarations crate subst stripped.truthy (← ids.partsIfAny)
    if body.isEmpty then return head ++ predicates ++ " \x7b\x7d"
    return braced (head ++ predicates) body
  | _ => return head ++ predicates ++ ";"

/-- The declaration of an enum. -/
def enumDeclaration (crate : Crate) (subst : Subst) (params : Option String) (item : Item) :
    Except Fault String := do
  let params ← match params with
    | some params => pure params
    | none => ownParams [] item
  let predicates ← ownPredicates subst item
  let head := item.visibility.keyword ++ "enum " ++ item.displayName ++ params ++ predicates
  let body ← variantDeclarations crate subst item
  if body.isEmpty then return head ++ " \x7b\x7d"
  return braced head body

/-- The declaration of a union. -/
def unionDeclaration (crate : Crate) (item : Item) : Except Fault String := do
  let params ← ownParams [] item
  let predicates ← ownPredicates [] item
  let ids ← (item.part "fields").partsIfAny
  let body ← fieldDeclarations crate [] (item.part "has_stripped_fields").truthy ids
  return braced
    (item.visibility.keyword ++ "union " ++ item.displayName ++ params ++ predicates) body

/-! ## Aliases -/

/-- The path that an alias stands for, if it stands for one. -/
def Item.targetPath? (item : Item) : Option Json := (item.part "type").get? "resolved_path"

/-- The declaration of an alias. Its target is named by the last name of its path. -/
def aliasDeclaration (item : Item) : Except Fault String := do
  let target ← match item.targetPath? with
    | some path =>
      match ← readPathName path with
      | .str name => pure (shortName name ++ (← readArgs (← path.memberOrNull "args")).text [])
      | v => throw (v.lacks "rsplit")
    | none => pure ((← readTy (item.part "type")).text [])
  let params ← ownParams [] item
  let predicates ← ownPredicates [] item
  return item.visibility.keyword ++ "type " ++ item.displayName ++ params ++ predicates ++
    " = " ++ target ++ ";"

/-- The item that an alias stands for, if the crate records it. -/
def Crate.target? (crate : Crate) (item : Item) : Except Fault (Option Item) :=
  match item.targetPath? with
  | none => return none
  | some path => return crate.get? (← path.memberOrNull "id")

/-- The arguments between angle brackets that generic arguments record. -/
def angleArguments (args : Json) : Except Fault (List Json) := do
  if !args.truthy then return []
  if ← args.mentions "angle_bracketed" then
    (← (← args.member "angle_bracketed").memberOrNull "args").partsIfAny
  else return []

/-- The arguments that an alias gives to its target. -/
def Item.targetArguments (item : Item) : Except Fault (List Json) :=
  match item.targetPath? with
  | none => throw (.missingKey "resolved_path")
  | some path => do angleArguments (← path.memberOrNull "args")

/-- The name under which an argument is kept. A list or an object can be none, and what is kept
under any other value that is no text is not looked up. -/
def keptName? : Json → Except Fault (Option String)
  | .str name => return some name
  | .arr _ => throw (.typeMismatch "unhashable type: 'list'")
  | .obj _ => throw (.typeMismatch "unhashable type: 'dict'")
  | _ => return none

/-- The arguments of an alias for the parameters of its target, by their names. -/
def aliasSubst (item target : Item) : Except Fault Subst := do
  let params ← target.generics.memberOrNull "params"
  let arguments ← item.targetArguments
  let names ← readParamNames (← params.partsIfAny)
  let pairs ← (names.zip arguments).mapM fun (name, a) => do
    let argument ← readArg a
    return (← keptName? name).map (·, argument.text [])
  return Json.lastOfEach (pairs.filterMap id)

/-- The names of the parameters of an alias between angle brackets. -/
def aliasParams (item : Item) : Except Fault String := do
  let names ← readParamNames (← listed "params" item.generics)
  joinable 0 (names.map fun | .str _ => none | v => some v)
  return angled (names.map Json.display)

/-- What an alias stands for, as code: the declaration of a struct or an enum that the crate
records, in terms of the alias, and the type itself otherwise. -/
def aliasedCode (crate : Crate) (item : Item) (target : Option Item) : Except Fault String := do
  match target.filter fun t => t.kind == "enum" || t.kind == "struct" with
  | some target =>
    let subst ← aliasSubst item target
    let params ← aliasParams item
    if target.kind == "enum" then enumDeclaration crate subst (some params) target
    else structDeclaration crate subst (some params) target
  | none =>
    let type ← readTy (item.part "type")
    match type.raw? with
    | some v => throw (v.lacks "rstrip")
    | none => return type.text []

/-! ## Other kinds -/

/-- What a macro is written as, if it is recorded. -/
def macroText? (v : Json) : Except Fault (Option String) :=
  match v with
  | .str s => return if s == "" then none else some s
  | v => if v.truthy then throw (v.lacks "rstrip") else return none

/-- The declaration of an item of a kind without a page of its own shape, if it has one. -/
def declaration? (item : Item) : Except Fault (Option String) := do
  let params ← ownParams [] item
  let start := item.visibility.keyword
  let name := item.displayName
  match item.kind with
  | "function" => return some (← signatureText [] item.visibility item)
  | "trait" =>
    let bounds := item.part "bounds"
    let supertraits ←
      if bounds.truthy then pure (": " ++ boundsText [] (← readBounds bounds)) else pure ""
    return some (start ++ (if (item.part "is_unsafe").truthy then "unsafe " else "") ++
      (if (item.part "is_auto").truthy then "auto " else "") ++ "trait " ++ name ++ params ++
      supertraits ++ " \x7b ... \x7d")
  | "constant" =>
    let type ← readTy (item.part "type")
    let expr ← (item.part "const").orObject.member? "expr"
    return some (start ++ "const " ++ name ++ ": " ++ type.text [] ++ " = " ++
      (expr.getD (.str "...")).display ++ ";")
  | "static" =>
    let type ← readTy (item.part "type")
    return some (start ++ "static " ++ (if (item.part "is_mutable").truthy then "mut " else "") ++
      name ++ ": " ++ type.text [] ++ ";")
  | "module" => return some (start ++ "mod " ++ name)
  | "macro" => macroText? (item.part "value")
  | _ => return none

end CrateBook.Rustdoc
