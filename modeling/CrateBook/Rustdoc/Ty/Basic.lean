import CrateBook.Json.Basic

/-!
# Type expressions

The types of a crate as the dump records them. `Ty` is mutual with what stands inside types:
generic arguments, constraints on associated items, bounds, the parameters that a `for` binds, and
the inputs of functions.
-/

namespace CrateBook.Rustdoc

/-- The qualifiers of a function. -/
structure Header where
  isConst : Bool := false
  isAsync : Bool := false
  isUnsafe : Bool := false
  abi : Option String := none
  deriving DecidableEq, Repr

/-- What may stand before the trait of a bound. -/
inductive Modifier where
  | plain
  | maybe
  | maybeConst
  deriving DecidableEq, Repr

mutual

/-- A type expression. -/
inductive Ty where
  | unit
  | infer
  /-- A type that is written out. -/
  | written (s : String)
  /-- A value that is no type; it stands for itself. -/
  | raw (v : Json)
  | path (name : String) (args : Args)
  | generic (name : String)
  | primitive (name : String)
  | tuple (items : List Ty)
  | slice (item : Ty)
  | array (item : Ty) (len : String)
  /-- A type with a pattern, of which the type is shown. -/
  | pattern (t : Ty)
  /-- The target of a pointer whose grouping is not the one that the type itself calls for. -/
  | regrouped (t : Ty)
  | pointer (isMut : Bool) (target : Ty)
  | reference (life : Option String) (isMut : Bool) (target : Ty)
  | function (binder : List GenericParam) (header : Header) (inputs : List Input)
      (variadic : Bool) (output : Option Ty)
  | dyn (traits : List Bound) (life : Option String)
  | impl (bounds : List Bound)
  /-- An associated type of `self`, seen as a type of the trait if there is one. -/
  | qualified (self : Ty) (name : String) (args : Args) (trait : Option TraitPath)
  /-- A kind of type that has no written form but its name. -/
  | other (kind : String)

/-- The generic arguments of a path. -/
inductive Args where
  | none
  /-- The arguments of a method whose return type is meant. -/
  | anything
  | angle (args : List Arg) (constraints : List Constraint)
  | paren (inputs : List Ty) (output : Option Ty)

/-- A generic argument, or what an associated item equals. -/
inductive Arg where
  | infer
  | lifetime (name : String)
  | type (t : Ty)
  | const (value : String)

/-- A constraint on an associated item. -/
inductive Constraint where
  | mention (name : String) (args : Args)
  | equal (name : String) (args : Args) (term : Arg)
  | bounded (name : String) (args : Args) (bounds : List Bound)

/-- A path to a trait. -/
inductive TraitPath where
  | mk (name : String) (args : Args)

/-- A bound. -/
inductive Bound where
  | trait (binder : List GenericParam) (modifier : Modifier) (name : String) (args : Args)
  | outlives (life : String)
  | captures (names : List String)
  | unknown

/-- A declared generic parameter. -/
inductive GenericParam where
  | lifetime (name : String) (outlives : List String)
  | const (name : String) (type : Ty)
  | type (name : String) (bounds : List Bound)

/-- An input of a function. -/
inductive Input where
  /-- The function takes `self` by value. -/
  | self
  | selfRef (life : Option String) (isMut : Bool)
  | selfAs (type : Ty)
  | named (name : String) (type : Ty)
  | unnamed (type : Ty)

end

instance : Inhabited Ty := ⟨.unit⟩

/-- A predicate on the parameters of an item. -/
inductive WherePredicate where
  | bounded (binder : List GenericParam) (type : Ty) (bounds : List Bound)
  | outlives (life : String) (others : List String)
  | equal (type : Ty) (term : Arg)

/-- The value that stands in the place of a type, if one does. -/
def Ty.raw? : Ty → Option Json
  | .raw v => some v
  | .pattern t => t.raw?
  | _ => none

/-- The type is grouped by parentheses behind a pointer: it has more than one bound. -/
def Ty.isGrouped : Ty → Bool
  | .dyn traits life => traits.length + (if life.isSome then 1 else 0) > 1
  | .impl bounds => bounds.length > 1
  | .regrouped t => !t.isGrouped
  | _ => false

end CrateBook.Rustdoc
