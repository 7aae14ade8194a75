import CrateBook.Rustdoc.Ty.Read
import CrateBook.Rustdoc.Ty.Text

/-!
# Texts in the place of generic parameters

`Ty.putTexts` puts the texts of a substitution into a type: the name of a generic parameter for
which there is a text becomes the name of a primitive type. What a `for` binds is left as it is. A
type is written with a substitution as it is written without one when the texts have been put into
it (`Ty.text_putTexts`), and so are bounds and predicates.
-/

namespace CrateBook.Rustdoc

/-- The name of a generic parameter, or the text for it. -/
def Subst.ty (s : Subst) (name : String) : Ty :=
  match s.lookup name with
  | some text => .primitive text
  | none => .generic name

mutual

/-- The type with the texts in the place of generic parameters. -/
def Ty.putTexts (s : Subst) : Ty → Ty
  | .path name args => .path name (args.putTexts s)
  | .generic name => s.ty name
  | .tuple items => .tuple (putTys s items)
  | .slice item => .slice (item.putTexts s)
  | .array item len => .array (item.putTexts s) len
  | .pattern t => .pattern (t.putTexts s)
  | .regrouped t => .regrouped (t.putTexts s)
  | .pointer isMut target => .pointer isMut (target.putTexts s)
  | .reference life isMut target => .reference life isMut (target.putTexts s)
  | .function binder header inputs variadic output =>
    .function binder header (putInputs s inputs) variadic (putOutput s output)
  | .dyn traits life => .dyn (putBounds s traits) life
  | .impl bounds => .impl (putBounds s bounds)
  | .qualified self name args none => .qualified (self.putTexts s) name (args.putTexts s) none
  | .qualified self name args (some trait) =>
    .qualified (self.putTexts s) name (args.putTexts s) (some (trait.putTexts s))
  | .unit => .unit
  | .infer => .infer
  | .written text => .written text
  | .raw v => .raw v
  | .primitive name => .primitive name
  | .other kind => .other kind

/-- Types with the texts in the place of generic parameters. -/
def putTys (s : Subst) : List Ty → List Ty
  | [] => []
  | t :: ts => t.putTexts s :: putTys s ts

/-- The output of a function with the texts in the place of generic parameters. -/
def putOutput (s : Subst) : Option Ty → Option Ty
  | none => none
  | some t => some (t.putTexts s)

/-- Generic arguments with the texts in the place of generic parameters. -/
def Args.putTexts (s : Subst) : Args → Args
  | .none => .none
  | .anything => .anything
  | .angle args constraints => .angle (putArgs s args) (putConstraints s constraints)
  | .paren inputs output => .paren (putTys s inputs) (putOutput s output)

/-- A generic argument with the texts in the place of generic parameters. -/
def Arg.putTexts (s : Subst) : Arg → Arg
  | .infer => .infer
  | .lifetime name => .lifetime name
  | .type t => .type (t.putTexts s)
  | .const value => .const value

/-- Generic arguments with the texts in the place of generic parameters. -/
def putArgs (s : Subst) : List Arg → List Arg
  | [] => []
  | a :: as => a.putTexts s :: putArgs s as

/-- A constraint with the texts in the place of generic parameters. -/
def Constraint.putTexts (s : Subst) : Constraint → Constraint
  | .mention name args => .mention name (args.putTexts s)
  | .equal name args term => .equal name (args.putTexts s) (term.putTexts s)
  | .bounded name args bounds => .bounded name (args.putTexts s) (putBounds s bounds)

/-- Constraints with the texts in the place of generic parameters. -/
def putConstraints (s : Subst) : List Constraint → List Constraint
  | [] => []
  | c :: cs => c.putTexts s :: putConstraints s cs

/-- A path to a trait with the texts in the place of generic parameters. -/
def TraitPath.putTexts (s : Subst) : TraitPath → TraitPath
  | .mk name args => .mk name (args.putTexts s)

/-- A bound with the texts in the place of generic parameters. -/
def Bound.putTexts (s : Subst) : Bound → Bound
  | .trait binder modifier name args => .trait binder modifier name (args.putTexts s)
  | .outlives life => .outlives life
  | .captures names => .captures names
  | .unknown => .unknown

/-- Bounds with the texts in the place of generic parameters. -/
def putBounds (s : Subst) : List Bound → List Bound
  | [] => []
  | b :: bs => b.putTexts s :: putBounds s bs

/-- An input with the texts in the place of generic parameters. -/
def Input.putTexts (s : Subst) : Input → Input
  | .self => .self
  | .selfRef life isMut => .selfRef life isMut
  | .selfAs type => .selfAs (type.putTexts s)
  | .named name type => .named name (type.putTexts s)
  | .unnamed type => .unnamed (type.putTexts s)

/-- Inputs with the texts in the place of generic parameters. -/
def putInputs (s : Subst) : List Input → List Input
  | [] => []
  | i :: is => i.putTexts s :: putInputs s is

end

/-- A predicate with the texts in the place of generic parameters. -/
def WherePredicate.putTexts (s : Subst) : WherePredicate → WherePredicate
  | .bounded binder type bounds => .bounded binder (type.putTexts s) (putBounds s bounds)
  | .outlives life others => .outlives life others
  | .equal type term => .equal (type.putTexts s) (term.putTexts s)

/-! ## Lists -/

theorem putTys_eq_map (s : Subst) (ts : List Ty) : putTys s ts = ts.map (Ty.putTexts s) := by
  induction ts with
  | nil => rfl
  | cons t ts ih => exact congrArg (t.putTexts s :: ·) ih

theorem length_putTys (s : Subst) (ts : List Ty) : (putTys s ts).length = ts.length := by
  rw [putTys_eq_map, List.length_map]

theorem putArgs_eq_map (s : Subst) (as : List Arg) : putArgs s as = as.map (Arg.putTexts s) := by
  induction as with
  | nil => rfl
  | cons a as ih => exact congrArg (a.putTexts s :: ·) ih

theorem putConstraints_eq_map (s : Subst) (cs : List Constraint) :
    putConstraints s cs = cs.map (Constraint.putTexts s) := by
  induction cs with
  | nil => rfl
  | cons c cs ih => exact congrArg (c.putTexts s :: ·) ih

theorem putBounds_eq_map (s : Subst) (bs : List Bound) :
    putBounds s bs = bs.map (Bound.putTexts s) := by
  induction bs with
  | nil => rfl
  | cons b bs ih => exact congrArg (b.putTexts s :: ·) ih

theorem length_putBounds (s : Subst) (bs : List Bound) : (putBounds s bs).length = bs.length := by
  rw [putBounds_eq_map, List.length_map]

theorem putInputs_eq_map (s : Subst) (is : List Input) :
    putInputs s is = is.map (Input.putTexts s) := by
  induction is with
  | nil => rfl
  | cons i is ih => exact congrArg (i.putTexts s :: ·) ih

/-! ## What stays -/

/-- The target of a pointer calls for parentheses as before. -/
@[simp] theorem Ty.isGrouped_putTexts (s : Subst) : ∀ t : Ty,
    (t.putTexts s).isGrouped = t.isGrouped
  | .generic name => by
    rw [Ty.putTexts, Subst.ty]
    split <;> rfl
  | .dyn traits life => by rw [Ty.putTexts, Ty.isGrouped, Ty.isGrouped, length_putBounds]
  | .impl bounds => by rw [Ty.putTexts, Ty.isGrouped, Ty.isGrouped, length_putBounds]
  | .regrouped t => by rw [Ty.putTexts, Ty.isGrouped, Ty.isGrouped, Ty.isGrouped_putTexts s t]
  | .qualified self name args trait => by cases trait <;> rfl
  | .unit | .infer | .written _ | .raw _ | .path _ _ | .primitive _ | .tuple _ | .slice _
  | .array _ _ | .pattern _ | .pointer _ _ | .reference _ _ _ | .function _ _ _ _ _
  | .other _ => rfl

theorem Subst.text_ty (s : Subst) (name : String) :
    (s.ty name).text [] = (Ty.generic name).text s := by
  rw [Subst.ty, Ty.text]
  cases s.lookup name <;> rfl

theorem Ty.raw?_putTexts (s : Subst) : ∀ t : Ty, (t.putTexts s).raw? = t.raw?
  | .pattern t => by rw [Ty.putTexts, Ty.raw?, Ty.raw?, Ty.raw?_putTexts s t]
  | .generic name => by
    rw [Ty.putTexts, Subst.ty]
    split <;> rfl
  | .qualified self name args trait => by cases trait <;> rfl
  | .unit | .infer | .written _ | .raw _ | .path _ _ | .primitive _ | .tuple _ | .slice _
  | .array _ _ | .regrouped _ | .pointer _ _ | .reference _ _ _ | .function _ _ _ _ _ | .dyn _ _
  | .impl _ | .other _ => rfl

theorem Arg.raw?_putTexts (s : Subst) (a : Arg) : (a.putTexts s).raw? = a.raw? := by
  cases a with
  | type t => exact t.raw?_putTexts s
  | _ => rfl

theorem Input.raw?_putTexts (s : Subst) (i : Input) : (i.putTexts s).raw? = i.raw? := by
  cases i with
  | unnamed t => exact t.raw?_putTexts s
  | _ => rfl

/-! ## Texts -/

-- The induction is on the type. Each clause hands the substitution on to the parts of a node, and
-- no clause but the one for a generic parameter looks at it.
mutual

/-- A type is written with a substitution as it is without one when the texts have been put into
it. -/
theorem Ty.text_putTexts (s : Subst) : ∀ t : Ty, (t.putTexts s).text [] = t.text s
  | .path name args => by rw [Ty.putTexts, Ty.text, Ty.text, Args.text_putTexts s args]
  | .generic name => Subst.text_ty s name
  | .tuple items => by rw [Ty.putTexts, Ty.text, Ty.text, tyTexts_putTys s items]
  | .slice item => by rw [Ty.putTexts, Ty.text, Ty.text, Ty.text_putTexts s item]
  | .array item len => by rw [Ty.putTexts, Ty.text, Ty.text, Ty.text_putTexts s item]
  | .pattern t => by rw [Ty.putTexts, Ty.text, Ty.text, Ty.text_putTexts s t]
  | .regrouped t => by rw [Ty.putTexts, Ty.text, Ty.text, Ty.text_putTexts s t]
  | .pointer isMut target => by
    rw [Ty.putTexts, Ty.text, Ty.text, Ty.text_putTexts s target, target.isGrouped_putTexts]
  | .reference life isMut target => by
    rw [Ty.putTexts, Ty.text, Ty.text, Ty.text_putTexts s target, target.isGrouped_putTexts]
  | .function binder header inputs variadic output => by
    rw [Ty.putTexts, Ty.text, Ty.text, inputTexts_putInputs s inputs,
      outputText_putOutput s output]
  | .dyn traits life => by rw [Ty.putTexts, Ty.text, Ty.text, boundTexts_putBounds s traits]
  | .impl bounds => by rw [Ty.putTexts, Ty.text, Ty.text, boundTexts_putBounds s bounds]
  | .qualified self name args none => by
    rw [Ty.putTexts, Ty.text, Ty.text, Ty.text_putTexts s self, Args.text_putTexts s args]
  | .qualified self name args (some trait) => by
    rw [Ty.putTexts, Ty.text, Ty.text, Ty.text_putTexts s self, Args.text_putTexts s args,
      TraitPath.text_putTexts s trait]
  | .unit => rfl
  | .infer => rfl
  | .written _ => rfl
  | .raw _ => rfl
  | .primitive _ => rfl
  | .other _ => rfl

theorem tyTexts_putTys (s : Subst) : ∀ ts : List Ty, tyTexts [] (putTys s ts) = tyTexts s ts
  | [] => rfl
  | t :: ts => by rw [putTys, tyTexts, tyTexts, Ty.text_putTexts s t, tyTexts_putTys s ts]

theorem outputText_putOutput (s : Subst) : ∀ t : Option Ty,
    outputText [] (putOutput s t) = outputText s t
  | none => rfl
  | some t => by rw [putOutput, outputText, outputText, Ty.text_putTexts s t]

theorem Args.text_putTexts (s : Subst) : ∀ args : Args, (args.putTexts s).text [] = args.text s
  | .none => rfl
  | .anything => rfl
  | .angle args constraints => by
    rw [Args.putTexts, Args.text, Args.text, argTexts_putArgs s args,
      constraintTexts_putConstraints s constraints]
  | .paren inputs output => by
    rw [Args.putTexts, Args.text, Args.text, tyTexts_putTys s inputs,
      outputText_putOutput s output]

theorem Arg.text_putTexts (s : Subst) : ∀ a : Arg, (a.putTexts s).text [] = a.text s
  | .infer => rfl
  | .lifetime _ => rfl
  | .type t => by rw [Arg.putTexts, Arg.text, Arg.text, Ty.text_putTexts s t]
  | .const _ => rfl

theorem argTexts_putArgs (s : Subst) : ∀ as : List Arg, argTexts [] (putArgs s as) = argTexts s as
  | [] => rfl
  | a :: as => by rw [putArgs, argTexts, argTexts, Arg.text_putTexts s a, argTexts_putArgs s as]

theorem Constraint.text_putTexts (s : Subst) : ∀ c : Constraint,
    (c.putTexts s).text [] = c.text s
  | .mention name args => by
    rw [Constraint.putTexts, Constraint.text, Constraint.text, Args.text_putTexts s args]
  | .equal name args term => by
    rw [Constraint.putTexts, Constraint.text, Constraint.text, Args.text_putTexts s args,
      Arg.text_putTexts s term]
  | .bounded name args bounds => by
    rw [Constraint.putTexts, Constraint.text, Constraint.text, Args.text_putTexts s args,
      boundTexts_putBounds s bounds]

theorem constraintTexts_putConstraints (s : Subst) : ∀ cs : List Constraint,
    constraintTexts [] (putConstraints s cs) = constraintTexts s cs
  | [] => rfl
  | c :: cs => by
    rw [putConstraints, constraintTexts, constraintTexts, Constraint.text_putTexts s c,
      constraintTexts_putConstraints s cs]

theorem TraitPath.text_putTexts (s : Subst) : ∀ path : TraitPath,
    (path.putTexts s).text [] = path.text s
  | .mk name args => by
    rw [TraitPath.putTexts, TraitPath.text, TraitPath.text, Args.text_putTexts s args]

theorem Bound.text_putTexts (s : Subst) : ∀ b : Bound, (b.putTexts s).text [] = b.text s
  | .trait binder modifier name args => by
    rw [Bound.putTexts, Bound.text, Bound.text, Args.text_putTexts s args]
  | .outlives _ => rfl
  | .captures _ => rfl
  | .unknown => rfl

theorem boundTexts_putBounds (s : Subst) : ∀ bs : List Bound,
    boundTexts [] (putBounds s bs) = boundTexts s bs
  | [] => rfl
  | b :: bs => by
    rw [putBounds, boundTexts, boundTexts, Bound.text_putTexts s b, boundTexts_putBounds s bs]

theorem Input.text_putTexts (s : Subst) : ∀ i : Input, (i.putTexts s).text [] = i.text s
  | .self => rfl
  | .selfRef _ _ => rfl
  | .selfAs type => by rw [Input.putTexts, Input.text, Input.text, Ty.text_putTexts s type]
  | .named name type => by rw [Input.putTexts, Input.text, Input.text, Ty.text_putTexts s type]
  | .unnamed type => by rw [Input.putTexts, Input.text, Input.text, Ty.text_putTexts s type]

theorem inputTexts_putInputs (s : Subst) : ∀ is : List Input,
    inputTexts [] (putInputs s is) = inputTexts s is
  | [] => rfl
  | i :: is => by
    rw [putInputs, inputTexts, inputTexts, Input.text_putTexts s i, inputTexts_putInputs s is]

end

theorem boundsText_putBounds (s : Subst) (bs : List Bound) :
    boundsText [] (putBounds s bs) = boundsText s bs := by
  rw [boundsText, boundsText, boundTexts_putBounds]

theorem WherePredicate.text_putTexts (s : Subst) (p : WherePredicate) :
    (p.putTexts s).text [] = p.text s := by
  cases p with
  | bounded binder type bounds =>
    rw [putTexts, text, text, Ty.text_putTexts, boundsText_putBounds]
  | outlives life others => rfl
  | equal type term => rw [putTexts, text, text, Ty.text_putTexts, Arg.text_putTexts]

theorem whereText_putTexts (s : Subst) (ps : List WherePredicate) :
    whereText [] (ps.map (·.putTexts s)) = whereText s ps := by
  have htexts : (ps.map (·.putTexts s)).map (·.text []) = ps.map (·.text s) := by
    rw [List.map_map]
    exact List.map_congr_left fun p _ => p.text_putTexts s
  rw [whereText, whereText, List.isEmpty_map, htexts]

end CrateBook.Rustdoc
