import CrateBook.Proofs.Json.Order
import CrateBook.Rustdoc.Ty.Text

/-!
# Arguments in the place of parameters

`Ty.fill` puts arguments in the place of parameters wherever these are used: a type for the name of
a type, a lifetime for a lifetime, a value for a constant and for the length of an array. What a
`for` binds is no parameter. The texts of the filled types are not always the texts that are written
with a substitution: this one does not reach lifetimes and constants, and a filled target of a
pointer may call for parentheses that the text does not have. Where a type `fits` none of this
happens, and the two agree (`Ty.text_fill`).
-/

namespace CrateBook.Rustdoc

/-- Arguments for parameters, by the names under which these are used. -/
abbrev Filling := List (String × Arg)

/-- The name under which a parameter is used. -/
def GenericParam.useName : GenericParam → String
  | .lifetime name _ => Rustdoc.lifetime name
  | .const name _ => name
  | .type name _ => name

/-- An argument as a type. -/
def Arg.asTy : Arg → Ty
  | .type t => t
  | .infer => .infer
  | .lifetime name => .written (Rustdoc.lifetime name)
  | .const value => .written value

namespace Filling

variable (σ : Filling) (hidden : List String)

/-- The texts of the arguments. -/
def texts : Subst := σ.map fun m => (m.1, m.2.text [])

/-- The argument for a name, unless a `for` binds the name. -/
def arg? (name : String) : Option Arg := if hidden.contains name then none else σ.lookup name

/-- The type for the name of a type. -/
def ty (name : String) : Ty := ((σ.arg? hidden name).map Arg.asTy).getD (.generic name)

/-- The lifetime for a lifetime. -/
def life (name : String) : String :=
  ((σ.arg? hidden (lifetime name)).map (Arg.text [])).getD name

/-- The argument for a constant. -/
def const (value : String) : Arg := (σ.arg? hidden value).getD (.const value)

/-- The names that are hidden where these parameters are bound. -/
def under (binder : List GenericParam) : List String := hidden ++ binder.map GenericParam.useName

end Filling

mutual

/-- The type with the arguments in the place of the parameters that are not `hidden`. -/
def Ty.fill (σ : Filling) (hidden : List String) : Ty → Ty
  | .unit => .unit
  | .infer => .infer
  | .written s => .written s
  | .raw v => .raw v
  | .path name args => .path name (args.fill σ hidden)
  | .generic name => σ.ty hidden name
  | .primitive name => .primitive name
  | .tuple items => .tuple (fillTys σ hidden items)
  | .slice item => .slice (item.fill σ hidden)
  | .array item len => .array (item.fill σ hidden) ((σ.const hidden len).text [])
  | .pattern t => .pattern (t.fill σ hidden)
  | .regrouped t => .regrouped (t.fill σ hidden)
  | .pointer isMut target => .pointer isMut (target.fill σ hidden)
  | .reference life isMut target =>
    .reference (life.map (σ.life hidden)) isMut (target.fill σ hidden)
  | .function binder header inputs variadic output =>
    .function (fillParams σ (Filling.under hidden binder) binder) header
      (fillInputs σ (Filling.under hidden binder) inputs) variadic
      (fillOutput σ (Filling.under hidden binder) output)
  | .dyn traits life => .dyn (fillBounds σ hidden traits) (life.map (σ.life hidden))
  | .impl bounds => .impl (fillBounds σ hidden bounds)
  | .qualified self name args none =>
    .qualified (self.fill σ hidden) name (args.fill σ hidden) none
  | .qualified self name args (some trait) =>
    .qualified (self.fill σ hidden) name (args.fill σ hidden) (some (trait.fill σ hidden))
  | .other kind => .other kind

/-- Types with the arguments in the place of the parameters. -/
def fillTys (σ : Filling) (hidden : List String) : List Ty → List Ty
  | [] => []
  | t :: ts => t.fill σ hidden :: fillTys σ hidden ts

/-- The output of a function with the arguments in the place of the parameters. -/
def fillOutput (σ : Filling) (hidden : List String) : Option Ty → Option Ty
  | none => none
  | some t => some (t.fill σ hidden)

/-- Generic arguments with the arguments in the place of the parameters. -/
def Args.fill (σ : Filling) (hidden : List String) : Args → Args
  | .none => .none
  | .anything => .anything
  | .angle args constraints =>
    .angle (fillArgs σ hidden args) (fillConstraints σ hidden constraints)
  | .paren inputs output => .paren (fillTys σ hidden inputs) (fillOutput σ hidden output)

/-- A generic argument with the arguments in the place of the parameters. -/
def Arg.fill (σ : Filling) (hidden : List String) : Arg → Arg
  | .infer => .infer
  | .lifetime name => .lifetime (σ.life hidden name)
  | .type t => .type (t.fill σ hidden)
  | .const value => σ.const hidden value

/-- Generic arguments with the arguments in the place of the parameters. -/
def fillArgs (σ : Filling) (hidden : List String) : List Arg → List Arg
  | [] => []
  | a :: as => a.fill σ hidden :: fillArgs σ hidden as

/-- A constraint with the arguments in the place of the parameters. -/
def Constraint.fill (σ : Filling) (hidden : List String) : Constraint → Constraint
  | .mention name args => .mention name (args.fill σ hidden)
  | .equal name args term => .equal name (args.fill σ hidden) (term.fill σ hidden)
  | .bounded name args bounds => .bounded name (args.fill σ hidden) (fillBounds σ hidden bounds)

/-- Constraints with the arguments in the place of the parameters. -/
def fillConstraints (σ : Filling) (hidden : List String) : List Constraint → List Constraint
  | [] => []
  | c :: cs => c.fill σ hidden :: fillConstraints σ hidden cs

/-- A path to a trait with the arguments in the place of the parameters. -/
def TraitPath.fill (σ : Filling) (hidden : List String) : TraitPath → TraitPath
  | .mk name args => .mk name (args.fill σ hidden)

/-- A bound with the arguments in the place of the parameters. -/
def Bound.fill (σ : Filling) (hidden : List String) : Bound → Bound
  | .trait binder modifier name args =>
    .trait (fillParams σ (Filling.under hidden binder) binder) modifier name
      (args.fill σ (Filling.under hidden binder))
  | .outlives life => .outlives (σ.life hidden life)
  | .captures names => .captures (names.map fun name => (σ.const hidden name).text [])
  | .unknown => .unknown

/-- Bounds with the arguments in the place of the parameters. -/
def fillBounds (σ : Filling) (hidden : List String) : List Bound → List Bound
  | [] => []
  | b :: bs => b.fill σ hidden :: fillBounds σ hidden bs

/-- A declared parameter with the arguments in the place of other parameters. -/
def GenericParam.fill (σ : Filling) (hidden : List String) : GenericParam → GenericParam
  | .lifetime name outlives => .lifetime name (outlives.map (σ.life hidden))
  | .const name type => .const name (type.fill σ hidden)
  | .type name bounds => .type name (fillBounds σ hidden bounds)

/-- Declared parameters with the arguments in the place of other parameters. -/
def fillParams (σ : Filling) (hidden : List String) : List GenericParam → List GenericParam
  | [] => []
  | p :: ps => p.fill σ hidden :: fillParams σ hidden ps

/-- An input with the arguments in the place of the parameters. -/
def Input.fill (σ : Filling) (hidden : List String) : Input → Input
  | .self => .self
  | .selfRef life isMut => .selfRef (life.map (σ.life hidden)) isMut
  | .selfAs type => .selfAs (type.fill σ hidden)
  | .named name type => .named name (type.fill σ hidden)
  | .unnamed type => .unnamed (type.fill σ hidden)

/-- Inputs with the arguments in the place of the parameters. -/
def fillInputs (σ : Filling) (hidden : List String) : List Input → List Input
  | [] => []
  | i :: is => i.fill σ hidden :: fillInputs σ hidden is

end

namespace Filling

variable (σ : Filling) (hidden : List String)

/-- A lifetime is written as before. -/
def keepsLife (name : String) : Bool := lifetime (σ.life hidden name) == lifetime name

/-- A constant is written as before. -/
def keepsConst (value : String) : Bool := (σ.const hidden value).text [] == value

/-- A name that a `for` binds is no parameter. -/
def keepsBound (name : String) : Bool := !hidden.contains name || (σ.lookup name).isNone

/-- The parameters that a `for` binds are written as before. -/
def keepsBinder (binder : List GenericParam) : Bool :=
  paramTexts [] (fillParams σ (under hidden binder) binder) == paramTexts [] binder

/-- The target of a pointer calls for parentheses as before. -/
def keepsGroup (target : Ty) : Bool := (target.fill σ hidden).isGrouped == target.isGrouped

end Filling

mutual

/-- In the type only names of types are filled, with nothing that calls for parentheses behind a
pointer. -/
def Ty.fits (σ : Filling) (hidden : List String) : Ty → Bool
  | .unit => true
  | .infer => true
  | .written _ => true
  | .raw _ => true
  | .path _ args => args.fits σ hidden
  | .generic name => σ.keepsBound hidden name
  | .primitive _ => true
  | .tuple items => fitTys σ hidden items
  | .slice item => item.fits σ hidden
  | .array item len => item.fits σ hidden && σ.keepsConst hidden len
  | .pattern t => t.fits σ hidden
  | .regrouped t => t.fits σ hidden
  | .pointer _ target => target.fits σ hidden && σ.keepsGroup hidden target
  | .reference life _ target =>
    life.all (σ.keepsLife hidden) && (target.fits σ hidden && σ.keepsGroup hidden target)
  | .function binder _ inputs _ output =>
    σ.keepsBinder hidden binder && (fitInputs σ (Filling.under hidden binder) inputs &&
      fitsOutput σ (Filling.under hidden binder) output)
  | .dyn traits life => fitBounds σ hidden traits && life.all (σ.keepsLife hidden)
  | .impl bounds => fitBounds σ hidden bounds
  | .qualified self _ args none => self.fits σ hidden && args.fits σ hidden
  | .qualified self _ args (some trait) =>
    self.fits σ hidden && (args.fits σ hidden && trait.fits σ hidden)
  | .other _ => true

/-- All the types fit. -/
def fitTys (σ : Filling) (hidden : List String) : List Ty → Bool
  | [] => true
  | t :: ts => t.fits σ hidden && fitTys σ hidden ts

/-- The output of a function fits. -/
def fitsOutput (σ : Filling) (hidden : List String) : Option Ty → Bool
  | none => true
  | some t => t.fits σ hidden

/-- The generic arguments fit. -/
def Args.fits (σ : Filling) (hidden : List String) : Args → Bool
  | .none => true
  | .anything => true
  | .angle args constraints => fitArgs σ hidden args && fitConstraints σ hidden constraints
  | .paren inputs output => fitTys σ hidden inputs && fitsOutput σ hidden output

/-- The generic argument fits. -/
def Arg.fits (σ : Filling) (hidden : List String) : Arg → Bool
  | .infer => true
  | .lifetime name => σ.keepsLife hidden name
  | .type t => t.fits σ hidden
  | .const value => σ.keepsConst hidden value

/-- All the generic arguments fit. -/
def fitArgs (σ : Filling) (hidden : List String) : List Arg → Bool
  | [] => true
  | a :: as => a.fits σ hidden && fitArgs σ hidden as

/-- The constraint fits. -/
def Constraint.fits (σ : Filling) (hidden : List String) : Constraint → Bool
  | .mention _ args => args.fits σ hidden
  | .equal _ args term => args.fits σ hidden && term.fits σ hidden
  | .bounded _ args bounds => args.fits σ hidden && fitBounds σ hidden bounds

/-- All the constraints fit. -/
def fitConstraints (σ : Filling) (hidden : List String) : List Constraint → Bool
  | [] => true
  | c :: cs => c.fits σ hidden && fitConstraints σ hidden cs

/-- The path to a trait fits. -/
def TraitPath.fits (σ : Filling) (hidden : List String) : TraitPath → Bool
  | .mk _ args => args.fits σ hidden

/-- The bound fits. -/
def Bound.fits (σ : Filling) (hidden : List String) : Bound → Bool
  | .trait binder _ _ args =>
    σ.keepsBinder hidden binder && args.fits σ (Filling.under hidden binder)
  | .outlives life => σ.keepsLife hidden life
  | .captures names => names.all (σ.keepsConst hidden)
  | .unknown => true

/-- All the bounds fit. -/
def fitBounds (σ : Filling) (hidden : List String) : List Bound → Bool
  | [] => true
  | b :: bs => b.fits σ hidden && fitBounds σ hidden bs

/-- The input fits. -/
def Input.fits (σ : Filling) (hidden : List String) : Input → Bool
  | .self => true
  | .selfRef life _ => life.all (σ.keepsLife hidden)
  | .selfAs type => type.fits σ hidden
  | .named _ type => type.fits σ hidden
  | .unnamed type => type.fits σ hidden

/-- All the inputs fit. -/
def fitInputs (σ : Filling) (hidden : List String) : List Input → Bool
  | [] => true
  | i :: is => i.fits σ hidden && fitInputs σ hidden is

end

/-! ## Texts -/

variable {σ : Filling} {hidden : List String} {name value : String} {life : Option String}
  {binder : List GenericParam} {target : Ty} {names : List String}

/-- Parts that are each written as before are written as before. -/
theorem map_map_fill {α β : Type} {ok : α → Bool} {fill : α → α} {written written' : α → β}
    (hfill : ∀ a, ok a = true → written (fill a) = written' a) {l : List α}
    (h : l.all ok = true) : (l.map fill).map written = l.map written' := by
  rw [List.map_map]
  exact List.map_congr_left fun a ha => hfill a (List.all_eq_true.1 h a ha)

theorem Arg.text_asTy (a : Arg) : a.asTy.text [] = a.text [] := by
  cases a <;> rfl

namespace Filling

theorem lookup_texts (σ : Filling) (name : String) :
    σ.texts.lookup name = (σ.lookup name).map (Arg.text []) :=
  Json.lookup_map_snd (fun _ => Arg.text []) σ name

/-- The argument for the name of a type is written in the place of the name. -/
theorem text_ty (h : σ.keepsBound hidden name = true) :
    (σ.ty hidden name).text [] = (σ.texts.lookup name).getD name := by
  rw [lookup_texts, ty, arg?]
  cases hhidden : hidden.contains name with
  | false =>
    rw [if_neg Bool.false_ne_true]
    cases σ.lookup name with
    | none => rfl
    | some a => exact a.text_asTy
  | true =>
    rw [keepsBound, hhidden, Bool.not_true, Bool.false_or, Option.isNone_iff_eq_none] at h
    rw [if_pos rfl, h]
    rfl

theorem text_const (h : σ.keepsConst hidden value = true) :
    (σ.const hidden value).text [] = value := eq_of_beq h

theorem lifetime_life (h : σ.keepsLife hidden name = true) :
    lifetime (σ.life hidden name) = lifetime name := eq_of_beq h

theorem lifetimeBefore_life (h : life.all (σ.keepsLife hidden) = true) :
    lifetimeBefore (life.map (σ.life hidden)) = lifetimeBefore life := by
  cases life with
  | none => rfl
  | some l => rw [Option.map_some, lifetimeBefore, lifetimeBefore, lifetime_life h]

theorem lifetimes_life (h : life.all (σ.keepsLife hidden) = true) :
    (life.map (σ.life hidden)).toList.map lifetime = life.toList.map lifetime := by
  cases life with
  | none => rfl
  | some l => exact congrArg (fun s => [s]) (lifetime_life h)

theorem texts_captures (h : names.all (σ.keepsConst hidden) = true) :
    (names.map fun name => (σ.const hidden name).text []) = names := by
  refine (List.map_congr_left fun name hname => ?_).trans (List.map_id names)
  exact text_const (List.all_eq_true.1 h name hname)

theorem paramTexts_binder (h : σ.keepsBinder hidden binder = true) :
    paramTexts [] (fillParams σ (under hidden binder) binder) = paramTexts [] binder := eq_of_beq h

theorem isGrouped_fill (h : σ.keepsGroup hidden target = true) :
    (target.fill σ hidden).isGrouped = target.isGrouped := eq_of_beq h

end Filling

-- The induction is on the type. What `fits` says of a node beside its parts is what the node itself
-- writes: a name, a lifetime, a constant, the parameters of a `for`, or the parentheses of a
-- target.
mutual

/-- A type that fits is written with the texts of the arguments as it is when it is filled. -/
theorem Ty.text_fill (σ : Filling) (hidden : List String) : ∀ t : Ty, t.fits σ hidden = true →
    (t.fill σ hidden).text [] = t.text σ.texts
  | .unit, _ => rfl
  | .infer, _ => rfl
  | .written _, _ => rfl
  | .raw _, _ => rfl
  | .path name args, h => by
    rw [Ty.fill, Ty.text, Ty.text, Args.text_fill σ hidden args h]
  | .generic name, h => Filling.text_ty h
  | .primitive _, _ => rfl
  | .tuple items, h => by
    rw [Ty.fill, Ty.text, Ty.text, tyTexts_fill σ hidden items h]
  | .slice item, h => by
    rw [Ty.fill, Ty.text, Ty.text, Ty.text_fill σ hidden item h]
  | .array item len, h => by
    rw [Ty.fits, Bool.and_eq_true] at h
    rw [Ty.fill, Ty.text, Ty.text, Ty.text_fill σ hidden item h.1, Filling.text_const h.2]
  | .pattern t, h => by
    rw [Ty.fill, Ty.text, Ty.text, Ty.text_fill σ hidden t h]
  | .regrouped t, h => by
    rw [Ty.fill, Ty.text, Ty.text, Ty.text_fill σ hidden t h]
  | .pointer isMut target, h => by
    rw [Ty.fits, Bool.and_eq_true] at h
    rw [Ty.fill, Ty.text, Ty.text, Ty.text_fill σ hidden target h.1, Filling.isGrouped_fill h.2]
  | .reference life isMut target, h => by
    rw [Ty.fits, Bool.and_eq_true, Bool.and_eq_true] at h
    rw [Ty.fill, Ty.text, Ty.text, Filling.lifetimeBefore_life h.1,
      Ty.text_fill σ hidden target h.2.1, Filling.isGrouped_fill h.2.2]
  | .function binder header inputs variadic output, h => by
    rw [Ty.fits, Bool.and_eq_true, Bool.and_eq_true] at h
    rw [Ty.fill, Ty.text, Ty.text, Filling.paramTexts_binder h.1, inputTexts_fill σ _ inputs h.2.1,
      outputText_fill σ _ output h.2.2]
  | .dyn traits life, h => by
    rw [Ty.fits, Bool.and_eq_true] at h
    rw [Ty.fill, Ty.text, Ty.text, boundTexts_fill σ hidden traits h.1,
      Filling.lifetimes_life h.2]
  | .impl bounds, h => by
    rw [Ty.fill, Ty.text, Ty.text, boundTexts_fill σ hidden bounds h]
  | .qualified self name args none, h => by
    rw [Ty.fits, Bool.and_eq_true] at h
    rw [Ty.fill, Ty.text, Ty.text, Ty.text_fill σ hidden self h.1, Args.text_fill σ hidden args h.2]
  | .qualified self name args (some trait), h => by
    rw [Ty.fits, Bool.and_eq_true, Bool.and_eq_true] at h
    rw [Ty.fill, Ty.text, Ty.text, Ty.text_fill σ hidden self h.1,
      Args.text_fill σ hidden args h.2.1, TraitPath.text_fill σ hidden trait h.2.2]
  | .other _, _ => rfl

theorem tyTexts_fill (σ : Filling) (hidden : List String) : ∀ ts : List Ty,
    fitTys σ hidden ts = true → tyTexts [] (fillTys σ hidden ts) = tyTexts σ.texts ts
  | [], _ => rfl
  | t :: ts, h => by
    rw [fitTys, Bool.and_eq_true] at h
    rw [fillTys, tyTexts, tyTexts, Ty.text_fill σ hidden t h.1, tyTexts_fill σ hidden ts h.2]

theorem outputText_fill (σ : Filling) (hidden : List String) : ∀ t : Option Ty,
    fitsOutput σ hidden t = true → outputText [] (fillOutput σ hidden t) = outputText σ.texts t
  | none, _ => rfl
  | some t, h => by
    rw [fillOutput, outputText, outputText, Ty.text_fill σ hidden t h]

theorem Args.text_fill (σ : Filling) (hidden : List String) : ∀ args : Args,
    args.fits σ hidden = true → (args.fill σ hidden).text [] = args.text σ.texts
  | .none, _ => rfl
  | .anything, _ => rfl
  | .angle args constraints, h => by
    rw [Args.fits, Bool.and_eq_true] at h
    rw [Args.fill, Args.text, Args.text, argTexts_fill σ hidden args h.1,
      constraintTexts_fill σ hidden constraints h.2]
  | .paren inputs output, h => by
    rw [Args.fits, Bool.and_eq_true] at h
    rw [Args.fill, Args.text, Args.text, tyTexts_fill σ hidden inputs h.1,
      outputText_fill σ hidden output h.2]

theorem Arg.text_fill (σ : Filling) (hidden : List String) : ∀ a : Arg,
    a.fits σ hidden = true → (a.fill σ hidden).text [] = a.text σ.texts
  | .infer, _ => rfl
  | .lifetime _, h => Filling.lifetime_life h
  | .type t, h => by
    rw [Arg.fill, Arg.text, Arg.text, Ty.text_fill σ hidden t h]
  | .const _, h => Filling.text_const h

theorem argTexts_fill (σ : Filling) (hidden : List String) : ∀ as : List Arg,
    fitArgs σ hidden as = true → argTexts [] (fillArgs σ hidden as) = argTexts σ.texts as
  | [], _ => rfl
  | a :: as, h => by
    rw [fitArgs, Bool.and_eq_true] at h
    rw [fillArgs, argTexts, argTexts, Arg.text_fill σ hidden a h.1, argTexts_fill σ hidden as h.2]

theorem Constraint.text_fill (σ : Filling) (hidden : List String) : ∀ c : Constraint,
    c.fits σ hidden = true → (c.fill σ hidden).text [] = c.text σ.texts
  | .mention name args, h => by
    rw [Constraint.fill, Constraint.text, Constraint.text, Args.text_fill σ hidden args h]
  | .equal name args term, h => by
    rw [Constraint.fits, Bool.and_eq_true] at h
    rw [Constraint.fill, Constraint.text, Constraint.text, Args.text_fill σ hidden args h.1,
      Arg.text_fill σ hidden term h.2]
  | .bounded name args bounds, h => by
    rw [Constraint.fits, Bool.and_eq_true] at h
    rw [Constraint.fill, Constraint.text, Constraint.text, Args.text_fill σ hidden args h.1,
      boundTexts_fill σ hidden bounds h.2]

theorem constraintTexts_fill (σ : Filling) (hidden : List String) : ∀ cs : List Constraint,
    fitConstraints σ hidden cs = true →
      constraintTexts [] (fillConstraints σ hidden cs) = constraintTexts σ.texts cs
  | [], _ => rfl
  | c :: cs, h => by
    rw [fitConstraints, Bool.and_eq_true] at h
    rw [fillConstraints, constraintTexts, constraintTexts, Constraint.text_fill σ hidden c h.1,
      constraintTexts_fill σ hidden cs h.2]

theorem TraitPath.text_fill (σ : Filling) (hidden : List String) : ∀ path : TraitPath,
    path.fits σ hidden = true → (path.fill σ hidden).text [] = path.text σ.texts
  | .mk name args, h => by
    rw [TraitPath.fill, TraitPath.text, TraitPath.text, Args.text_fill σ hidden args h]

theorem Bound.text_fill (σ : Filling) (hidden : List String) : ∀ b : Bound,
    b.fits σ hidden = true → (b.fill σ hidden).text [] = b.text σ.texts
  | .trait binder modifier name args, h => by
    rw [Bound.fits, Bool.and_eq_true] at h
    rw [Bound.fill, Bound.text, Bound.text, Filling.paramTexts_binder h.1,
      Args.text_fill σ _ args h.2]
  | .outlives _, h => Filling.lifetime_life h
  | .captures names, h => by
    rw [Bound.fill, Bound.text, Bound.text, Filling.texts_captures h]
  | .unknown, _ => rfl

theorem boundTexts_fill (σ : Filling) (hidden : List String) : ∀ bs : List Bound,
    fitBounds σ hidden bs = true → boundTexts [] (fillBounds σ hidden bs) = boundTexts σ.texts bs
  | [], _ => rfl
  | b :: bs, h => by
    rw [fitBounds, Bool.and_eq_true] at h
    rw [fillBounds, boundTexts, boundTexts, Bound.text_fill σ hidden b h.1,
      boundTexts_fill σ hidden bs h.2]

theorem Input.text_fill (σ : Filling) (hidden : List String) : ∀ i : Input,
    i.fits σ hidden = true → (i.fill σ hidden).text [] = i.text σ.texts
  | .self, _ => rfl
  | .selfRef life isMut, h => by
    rw [Input.fill, Input.text, Input.text, Filling.lifetimeBefore_life h]
  | .selfAs type, h => by
    rw [Input.fill, Input.text, Input.text, Ty.text_fill σ hidden type h]
  | .named name type, h => by
    rw [Input.fill, Input.text, Input.text, Ty.text_fill σ hidden type h]
  | .unnamed type, h => by
    rw [Input.fill, Input.text, Input.text, Ty.text_fill σ hidden type h]

theorem inputTexts_fill (σ : Filling) (hidden : List String) : ∀ is : List Input,
    fitInputs σ hidden is = true → inputTexts [] (fillInputs σ hidden is) = inputTexts σ.texts is
  | [], _ => rfl
  | i :: is, h => by
    rw [fitInputs, Bool.and_eq_true] at h
    rw [fillInputs, inputTexts, inputTexts, Input.text_fill σ hidden i h.1,
      inputTexts_fill σ hidden is h.2]

end

/-! ## Predicates -/

namespace WherePredicate

/-- The predicate with the arguments in the place of the parameters. -/
def fill (σ : Filling) : WherePredicate → WherePredicate
  | .bounded binder type bounds =>
    .bounded (fillParams σ (Filling.under [] binder) binder)
      (type.fill σ (Filling.under [] binder)) (fillBounds σ (Filling.under [] binder) bounds)
  | .outlives life others => .outlives (σ.life [] life) (others.map (σ.life []))
  | .equal type term => .equal (type.fill σ []) (term.fill σ [])

/-- In the predicate only names of types are filled, with nothing that calls for parentheses behind
a pointer. -/
def fits (σ : Filling) : WherePredicate → Bool
  | .bounded binder type bounds =>
    σ.keepsBinder [] binder && (type.fits σ (Filling.under [] binder) &&
      fitBounds σ (Filling.under [] binder) bounds)
  | .outlives life others => σ.keepsLife [] life && others.all (σ.keepsLife [])
  | .equal type term => type.fits σ [] && term.fits σ []

theorem text_fill (σ : Filling) (p : WherePredicate) (h : p.fits σ = true) :
    (p.fill σ).text [] = p.text σ.texts := by
  cases p with
  | bounded binder type bounds =>
    rw [fits, Bool.and_eq_true, Bool.and_eq_true] at h
    rw [fill, text, text, boundsText, boundsText, Filling.paramTexts_binder h.1,
      Ty.text_fill σ _ type h.2.1, boundTexts_fill σ _ bounds h.2.2]
  | outlives life others =>
    rw [fits, Bool.and_eq_true] at h
    have hothers : (others.map (σ.life [])).map lifetime = others.map lifetime :=
      map_map_fill (fun _ => Filling.lifetime_life) h.2
    rw [fill, text, text, Filling.lifetime_life h.1, hothers]
  | equal type term =>
    rw [fits, Bool.and_eq_true] at h
    rw [fill, text, text, Ty.text_fill σ [] type h.1, Arg.text_fill σ [] term h.2]

end WherePredicate

end CrateBook.Rustdoc
