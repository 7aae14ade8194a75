import CrateBook.Rustdoc.Ty.Read
import CrateBook.Rustdoc.Ty.Text

/-!
# Generic parameters of items

An item declares parameters and predicates on them. Parameters that the compiler has made up are
never shown.
-/

namespace CrateBook.Rustdoc

/-- The parameter is one that the compiler has made up. -/
def isSynthetic (param : Json) : Except Fault Bool := do
  let kind := (← param.memberOrNull "kind").orObject
  let own := (← kind.memberOrNull "type").orObject
  return (← own.memberOrNull "is_synthetic").truthy

/-- The parameters that `keep` does not rule out. -/
def visibleParams : List Json → Except Fault (List Json)
  | [] => return []
  | p :: ps => do
    let synthetic ← isSynthetic p
    let rest ← visibleParams ps
    return if synthetic then rest else p :: rest

/-- The value of a member that lists something, none when it is falsy. -/
def listed (key : String) (v : Json) : Except Fault (List Json) := do
  (← v.memberOrNull key).partsIfAny

/-- The shown parameters among declared ones. -/
def readParams (params : List Json) : Except Fault (List GenericParam) := do
  let visible ← visibleParams params
  let read ← visible.mapM fun p => readParamWithin (p.depth + 1) p
  joinable 0 (List.zipWith rawName? visible read)
  return read

/-- The declaration of parameters between angle brackets, nothing when none is shown. -/
def paramsText (subst : Subst) (params : List GenericParam) : String :=
  angled (paramTexts subst params)

/-- The names by which the shown parameters are used. Bounds are not read. -/
def readParamNames : List Json → Except Fault (List Json)
  | [] => return []
  | p :: ps => do
    if ← isSynthetic p then readParamNames ps
    else
      let kind := (← p.memberOrNull "kind").orObject
      let isLifetime ← kind.mentions "lifetime"
      let name ← p.member "name"
      let name ← if isLifetime then (.str ∘ lifetime) <$> readLifetime name else pure name
      return name :: (← readParamNames ps)

/-- The predicate that a value records, if it is of a known kind. -/
def readPredicate (v : Json) : Except Fault (Option WherePredicate) := do
  if ← v.mentions "bound_predicate" then
    let p ← v.member "bound_predicate"
    let binder ← readBinder (← p.memberOrNull "generic_params")
    let type ← readTy (← p.member "type")
    let bounds ← p.memberOrNull "bounds"
    return some (.bounded binder type (← if bounds.truthy then readBounds bounds else pure []))
  if ← v.mentions "lifetime_predicate" then
    let p ← v.member "lifetime_predicate"
    let others ← (← listed "outlives" p).mapM readLifetime
    return some (.outlives (← readLifetime (← p.member "lifetime")) others)
  if ← v.mentions "eq_predicate" then
    let p ← v.member "eq_predicate"
    let type ← readTy (← p.member "lhs")
    return some (.equal type (← readTerm (← p.member "rhs")))
  return none

/-- The predicates of declared generics. -/
def readPredicates (generics : Json) : Except Fault (List WherePredicate) := do
  return (← (← listed "where_predicates" generics.orObject).mapM readPredicate).filterMap id

/-- What a parameter stands for. -/
inductive ParamKind where
  | lifetime
  | type
  | const
  deriving DecidableEq, Repr

/-- What a parameter stands for, as text. -/
def ParamKind.text : ParamKind → String
  | .lifetime => "lifetime"
  | .type => "type"
  | .const => "const"

/-- What a declared parameter stands for. -/
def readParamKind (param : Json) : Except Fault ParamKind := do
  let kind := (← param.memberOrNull "kind").orObject
  if ← kind.mentions "lifetime" then return .lifetime
  if ← kind.mentions "type" then return .type
  if ← kind.mentions "const" then return .const
  return .type

/-- The list line of a declared parameter, none when it is not shown. -/
def paramLine? (param : Json) : Except Fault (Option String) := do
  let kind ← readParamKind param
  if kind == .type then
    let own := (← (← param.member "kind").memberOrNull "type").orObject
    if (← own.memberOrNull "is_synthetic").truthy then return none
  let name ← param.member "name"
  let name ← if kind == .lifetime then lifetime <$> readLifetime name else pure name.display
  return some ("- `" ++ name ++ "`: " ++ kind.text)

/-- The list lines of declared generics. -/
def paramLines (generics : Json) : Except Fault (List String) := do
  return (← (← listed "params" generics.orObject).mapM paramLine?).filterMap id

end CrateBook.Rustdoc
