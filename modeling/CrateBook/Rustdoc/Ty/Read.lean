import CrateBook.Json.Access
import CrateBook.Rustdoc.Ty.Basic
import CrateBook.Text.Blank
import CrateBook.Text.Letters

/-!
# Reading types

Types are read from the values of a dump in the order in which they are written, so that of two
faults the first one is reported. Reading is bounded by the depth of the value: each step into a
part of a value uses one unit of the bound, and `readTy` starts with enough of them.

A value in the place of a text, say of the name of a primitive type, is kept where the type is one
part of a longer text, and is a fault where texts are joined.
-/

namespace CrateBook.Rustdoc

/-- The fault of a value that cannot be reached within the bound. -/
def tooDeep : Fault := .badValue "value is nested too deeply"

/-- Parts are joined only when each of them is a text. -/
def joinable (place : Nat) : List (Option Json) → Except Fault Unit
  | [] => .ok ()
  | none :: rest => joinable (place + 1) rest
  | some v :: _ => .error (.typeMismatch
      ("sequence item " ++ toString place ++ ": expected str instance, " ++ v.kindName ++ " found"))

/-- The text of a value to which a text is added. -/
def beforeText : Json → Except Fault String
  | .str s => .ok s
  | .arr _ => .error (.typeMismatch "can only concatenate list (not \"str\") to list")
  | v => .error (.typeMismatch
      ("unsupported operand type(s) for +: '" ++ v.kindName ++ "' and 'str'"))

/-- The name of a lifetime. -/
def readLifetime : Json → Except Fault String
  | .str s => .ok s
  | v => .error (v.lacks "startswith")

/-- A value that is a text is the text, any other value stands for itself. -/
def textOrRaw (ofText : String → Ty) : Json → Ty
  | .str s => ofText s
  | v => .raw v

/-- The name of a path: what is written, or the name alone, or a question mark. -/
def readPathName (path : Json) : Except Fault Json := do
  let written ← path.memberOrNull "path"
  if written.truthy then return written
  let name ← path.memberOrNull "name"
  return if name.truthy then name else .str "?"

/-- The value of a constant: its expression, or its value, or an underscore. -/
def readConst (v : Json) : Except Fault Arg := do
  let expr ← v.memberOrNull "expr"
  let value ← if expr.truthy then pure expr else v.memberOrNull "value"
  if !value.truthy then return .const "_"
  match value with
  | .str s => return .const s
  | v => return .type (.raw v)

/-- The names of calling conventions. -/
def abiNames : List (String × String) := [
  ("C", "C"), ("Cdecl", "cdecl"), ("Stdcall", "stdcall"), ("Fastcall", "fastcall"),
  ("Aapcs", "aapcs"), ("Win64", "win64"), ("SysV64", "sysv64"), ("System", "system")]

/-- The calling convention, none for the one of Rust. -/
def readAbi : Json → Except Fault (Option String)
  | .obj members => do
    let (kind, value) ← (Json.obj members).firstMember
    if kind == "Other" then return some (Text.trimOf (· == '"') value.display)
    let name := (abiNames.lookup kind).getD (Text.lowerCase kind)
    let unwinds := match value with
      | .obj _ => ((value.get? "unwind").getD .null).truthy
      | _ => false
    return some (if unwinds then name ++ "-unwind" else name)
  | v => return if v.truthy && !v.isText "Rust" then some v.display else none

/-- The qualifiers of a function, under their newer or older names. -/
def readHeader (v : Json) : Except Fault Header := do
  let v := v.orObject
  let isConst ← v.memberOr "is_const" "const_"
  let isAsync ← v.memberOr "is_async" "async_"
  let isUnsafe ← v.memberOr "is_unsafe" "unsafe_"
  let abi ← readAbi ((← v.member? "abi").getD (.str "Rust"))
  return ⟨isConst.truthy, isAsync.truthy, isUnsafe.truthy, abi⟩

/-- The modifier of a bound. -/
def readModifier (v : Json) : Modifier :=
  if v.isText "maybe" then .maybe
  else if v.isText "maybe_const" then .maybeConst
  else .plain

/-- The name that a precise capture names. -/
def readCapture : Json → Except Fault Json
  | .str s => .ok (.str s)
  | v => do
    if ← v.mentions "lifetime" then
      let name ← readLifetime (← v.member "lifetime")
      return .str (if Text.startsWith name "'" then name else "'" ++ name)
    match v with
    | .obj (m :: _) => return m.2
    | .obj [] => throw .emptyObject
    | v => throw (v.lacks "values")

/-- The value of an argument that is no text. -/
def Arg.raw? : Arg → Option Json
  | .type t => t.raw?
  | _ => none

/-- The name of a parameter without bounds, if it is no text. -/
def rawName? (v : Json) : GenericParam → Option Json
  | .type _ [] =>
    match v.get? "name" with
    | some (.str _) => none
    | name => name
  | _ => none

/-- The type is `Self` and no more is said about it. -/
def isSelf : Json → Bool
  | .obj [("generic", .str "Self")] => true
  | _ => false

/-- The type of functions that return nothing is not written. -/
def isNoOutput : Json → Bool
  | .null => true
  | .obj [("tuple", .arr [])] => true
  | _ => false

/-- The two parts of an input: its name and its type. -/
def readPair (v : Json) : Except Fault (Json × Json) := do
  let parts ← match v with
    | .arr _ | .obj _ | .str _ => v.parts
    | v => throw (.typeMismatch ("cannot unpack non-iterable " ++ v.kindName ++ " object"))
  match parts with
  | [name, type] => return (name, type)
  | _ :: _ :: _ :: _ => throw (.badValue "too many values to unpack (expected 2)")
  | l => throw (.badValue
      ("not enough values to unpack (expected 2, got " ++ toString l.length ++ ")"))

/-- An input whose name says that it is the receiver. -/
def readReceiver (type : Json) (read : Ty) : Except Fault Input := do
  if isSelf type then return .self
  match type with
  | .obj _ =>
    if ← type.mentions "borrowed_ref" then
      let ref ← type.member "borrowed_ref"
      if isSelf (← ref.memberOrNull "type") then
        let life ← ref.memberOrNull "lifetime"
        let life ← if life.truthy then some <$> readLifetime life else pure none
        return .selfRef life (← ref.memberOrNull "is_mutable").truthy
    return .selfAs read
  | _ => return .selfAs read

/-- How many bounds the value of a type names, where it is one of bounds. -/
def namedBounds (v : Json) : Except Fault Nat :=
  match v.get? "dyn_trait", v.get? "impl_trait" with
  | some object, _ => do
    let traits ← (← object.memberOrNull "traits").size
    let life ← object.memberOrNull "lifetime"
    return traits + if life.truthy then 1 else 0
  | none, some bounds => bounds.size
  | none, none => return 0

/-- The target of a pointer that is read from a value. It is grouped when the value has a member
with more than one bound, be it the first one or not. -/
def regroup (v : Json) (target : Ty) : Except Fault Ty := do
  let count ← namedBounds v
  return if decide (1 < count) == target.isGrouped then target else .regrouped target

/-- The value that stands for an input, if one does. -/
def Input.raw? : Input → Option Json
  | .unnamed t => t.raw?
  | _ => none

mutual

/-- The type that a value records. -/
def readTyWithin : Nat → Json → Except Fault Ty
  | 0, _ => throw tooDeep
  | _ + 1, .null => return .unit
  | _ + 1, .str s => return if s == "infer" then .infer else .written s
  | n + 1, v => do
    let (kind, value) ← v.firstMember
    match kind with
    | "resolved_path" =>
      let .mk name args ← readPathWithin n value
      return .path name args
    | "generic" =>
      match value with
      | .arr _ | .obj _ => throw (.typeMismatch ("unhashable type: '" ++ value.kindName ++ "'"))
      | value => return textOrRaw .generic value
    | "primitive" => return textOrRaw .primitive value
    | "tuple" =>
      let items ← (← value.parts).mapM (readTyWithin n)
      if items.length != 1 then joinable 0 (items.map Ty.raw?)
      return .tuple items
    | "slice" => return .slice (← readTyWithin n value)
    | "array" =>
      let item ← readTyWithin n (← value.member "type")
      return .array item (← value.member "len").display
    | "pat" => return .pattern (← readTyWithin n (← value.member "type"))
    | "raw_pointer" =>
      let isMut ← value.memberOrNull "is_mutable"
      let type ← value.member "type"
      return .pointer isMut.truthy (← regroup type (← readTyWithin n type))
    | "borrowed_ref" =>
      let life ← value.memberOrNull "lifetime"
      let life ← if life.truthy then some <$> readLifetime life else pure none
      let isMut ← value.memberOrNull "is_mutable"
      let type ← value.member "type"
      let target ← regroup type (← readTyWithin n type)
      match target.raw? with
      | some v => throw (.typeMismatch
          ("can only concatenate str (not \"" ++ v.kindName ++ "\") to str"))
      | none => return .reference life isMut.truthy target
    | "function_pointer" =>
      let sig := (← value.memberOr "sig" "decl").orObject
      let binder ← readBinderWithin n (← value.memberOrNull "generic_params")
      let header ← readHeader (← value.memberOrNull "header")
      let (inputs, variadic) ← readInputsWithin n false sig
      let output ← sig.memberOrNull "output"
      if isNoOutput output then return .function binder header inputs variadic none
      return .function binder header inputs variadic (some (← readTyWithin n output))
    | "dyn_trait" =>
      let traits ← (← (← value.memberOrNull "traits").partsIfAny).mapM fun poly => do
        let binder ← readBinderWithin n (← poly.memberOrNull "generic_params")
        let .mk name args ← readPathWithin n (← poly.member "trait")
        return Bound.trait binder .plain name args
      let life ← value.memberOrNull "lifetime"
      return .dyn traits (← if life.truthy then some <$> readLifetime life else pure none)
    | "impl_trait" => return .impl (← readBoundsWithin n value)
    | "qualified_path" =>
      let self ← readTyWithin n (← value.member "self_type")
      let name ← value.member "name"
      let args ← readArgsWithin n (← value.memberOrNull "args")
      let name ← beforeText name
      match ← value.memberOrNull "trait" with
      | .null => return .qualified self name args none
      | trait => return .qualified self name args (some (← readPathWithin n trait))
    | kind => return .other kind

/-- The path that a value records. -/
def readPathWithin : Nat → Json → Except Fault TraitPath
  | 0, _ => throw tooDeep
  | n + 1, v => do
    let name ← readPathName v
    let args ← readArgsWithin n (← v.memberOrNull "args")
    return .mk (← beforeText name) args

/-- The generic arguments that a value records. -/
def readArgsWithin : Nat → Json → Except Fault Args
  | 0, _ => throw tooDeep
  | n + 1, v => do
    if !v.truthy then return .none
    if v.isText "return_type_notation" then return .anything
    if ← v.mentions "angle_bracketed" then
      let body ← v.member "angle_bracketed"
      let args ← (← (← body.memberOrNull "args").partsIfAny).mapM (readArgWithin n)
      let constraints ← body.memberOr "constraints" "bindings"
      let constraints ← (← constraints.partsIfAny).mapM (readConstraintWithin n)
      joinable 0 (args.map Arg.raw?)
      return .angle args constraints
    if ← v.mentions "parenthesized" then
      let body ← v.member "parenthesized"
      let inputs ← (← (← body.memberOrNull "inputs").partsIfAny).mapM (readTyWithin n)
      joinable 0 (inputs.map Ty.raw?)
      match ← body.memberOrNull "output" with
      | .null => return .paren inputs none
      | output => return .paren inputs (some (← readTyWithin n output))
    return .none

/-- The generic argument that a value records. -/
def readArgWithin : Nat → Json → Except Fault Arg
  | 0, _ => throw tooDeep
  | n + 1, v => do
    if v.isText "infer" then return .infer
    if ← v.mentions "lifetime" then return .lifetime (← readLifetime (← v.member "lifetime"))
    if ← v.mentions "type" then return .type (← readTyWithin n (← v.member "type"))
    if ← v.mentions "const" then readConst (← v.member "const")
    else return .infer

/-- What an associated item equals. -/
def readTermWithin : Nat → Json → Except Fault Arg
  | 0, _ => throw tooDeep
  | n + 1, v => do
    if ← v.mentions "type" then return .type (← readTyWithin n (← v.member "type"))
    if ← v.mentions "constant" then readConst (← v.member "constant")
    else return .infer

/-- The constraint that a value records. -/
def readConstraintWithin : Nat → Json → Except Fault Constraint
  | 0, _ => throw tooDeep
  | n + 1, v => do
    let name ← v.member "name"
    let args ← readArgsWithin n (← v.memberOrNull "args")
    let name ← beforeText name
    let binding := (← v.memberOrNull "binding").orObject
    if ← binding.mentions "equality" then
      return .equal name args (← readTermWithin n (← binding.member "equality"))
    if ← binding.mentions "constraint" then
      return .bounded name args (← readBoundsWithin n (← binding.member "constraint"))
    return .mention name args

/-- The bounds that a value records. -/
def readBoundsWithin : Nat → Json → Except Fault (List Bound)
  | 0, _ => throw tooDeep
  | n + 1, v => do (← v.parts).mapM (readBoundWithin n)

/-- The bound that a value records. -/
def readBoundWithin : Nat → Json → Except Fault Bound
  | 0, _ => throw tooDeep
  | n + 1, v => do
    if ← v.mentions "trait_bound" then
      let b ← v.member "trait_bound"
      let binder ← readBinderWithin n (← b.memberOrNull "generic_params")
      let modifier ← b.memberOrNull "modifier"
      let .mk name args ← readPathWithin n (← b.member "trait")
      return .trait binder (readModifier modifier) name args
    if ← v.mentions "outlives" then return .outlives (← readLifetime (← v.member "outlives"))
    if ← v.mentions "use" then
      let names ← (← (← v.member "use").parts).mapM readCapture
      joinable 0 (names.map fun | .str _ => none | v => some v)
      return .captures (names.map Json.display)
    return .unknown

/-- The parameters that a `for` binds. -/
def readBinderWithin : Nat → Json → Except Fault (List GenericParam)
  | 0, _ => throw tooDeep
  | n + 1, v => do
    let vs ← v.partsIfAny
    let params ← vs.mapM (readParamWithin n)
    joinable 0 (List.zipWith rawName? vs params)
    return params

/-- The parameter that a value declares. -/
def readParamWithin : Nat → Json → Except Fault GenericParam
  | 0, _ => throw tooDeep
  | n + 1, v => do
    let name ← v.member "name"
    let kind := (← v.memberOrNull "kind").orObject
    if ← kind.mentions "lifetime" then
      let own := (← kind.member "lifetime").orObject
      let outlives ← own.memberOrNull "outlives"
      let name ← readLifetime name
      return .lifetime name (← (← outlives.partsIfAny).mapM readLifetime)
    if ← kind.mentions "const" then
      let type ← readTyWithin n (← (← kind.member "const").memberOrNull "type")
      return .const name.display type
    let own := (← kind.memberOrNull "type").orObject
    let bounds ← own.memberOrNull "bounds"
    if bounds.truthy then return .type name.display (← readBoundsWithin n bounds)
    return .type name.display []

/-- The inputs of a signature, and whether it takes further ones. Names are left out unless the
inputs are `named`. -/
def readInputsWithin : Nat → Bool → Json → Except Fault (List Input × Bool)
  | 0, _, _ => throw tooDeep
  | n + 1, named, sig => do
    let inputs ← (← (← sig.memberOrNull "inputs").partsIfAny).mapM fun input => do
      let (name, type) ← readPair input
      let read ← readTyWithin n type
      if name.isText "self" then readReceiver type read
      else if named && name.truthy && !name.isText "_" then return .named name.display read
      else return .unnamed read
    let variadic ← sig.memberOr "is_c_variadic" "c_variadic"
    joinable 0 (inputs.map Input.raw?)
    return (inputs, variadic.truthy)

end

/-- The type that a value records. -/
def readTy (v : Json) : Except Fault Ty := readTyWithin (v.depth + 1) v

/-- The path that a value records. -/
def readPath (v : Json) : Except Fault TraitPath := readPathWithin (v.depth + 1) v

/-- The generic arguments that a value records. -/
def readArgs (v : Json) : Except Fault Args := readArgsWithin (v.depth + 1) v

/-- The generic argument that a value records. -/
def readArg (v : Json) : Except Fault Arg := readArgWithin (v.depth + 1) v

/-- What an associated item equals. -/
def readTerm (v : Json) : Except Fault Arg := readTermWithin (v.depth + 1) v

/-- The bounds that a value records. -/
def readBounds (v : Json) : Except Fault (List Bound) := readBoundsWithin (v.depth + 1) v

/-- The parameters that a `for` binds. -/
def readBinder (v : Json) : Except Fault (List GenericParam) := readBinderWithin (v.depth + 1) v

/-- The inputs of a signature, with their names if they are to be `named`, and whether it takes
further ones. -/
def readInputs (named : Bool) (sig : Json) : Except Fault (List Input × Bool) :=
  readInputsWithin (sig.depth + 1) named sig

/-- The output of a signature, if it is written. -/
def readOutput (sig : Json) : Except Fault (Option Ty) := do
  let output ← sig.memberOrNull "output"
  if isNoOutput output then return none
  return some (← readTy output)

end CrateBook.Rustdoc
