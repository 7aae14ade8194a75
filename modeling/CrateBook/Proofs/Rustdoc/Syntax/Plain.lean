import CrateBook.Proofs.Rustdoc.Syntax.Reader
import CrateBook.Proofs.Text.Lines

/-!
# Plain types

The types that are told apart by their texts are names, tuples, slices, arrays, pointers,
references, paths with arguments, functions and trait objects, without anything that the text does
not show (`Ty.isPlain`). For each kind there is what its text is made of, and a part of it is
shorter than the whole.
-/

namespace CrateBook.Rustdoc

mutual

/-- The type is a name, a tuple, a slice, an array, a pointer, a reference, a path with arguments, a
function without qualifiers, or a trait object of traits that nothing qualifies, and so are the
types inside it. The output of a function is not the empty tuple, which is not written. -/
def Ty.isPlain : Ty → Bool
  | .primitive name => isTypeName name
  | .tuple items => arePlainTys items
  | .slice item => item.isPlain
  | .array item len => item.isPlain && isTypeName len
  | .pointer _ target => target.isPlain
  | .reference life _ target => life.all isLifetime && target.isPlain
  | .path _ .none => false
  | .path name args => isTypeName name && args.isPlain
  | .function [] header inputs false output =>
    decide (header = {}) && (arePlainInputs inputs && isPlainOutput output)
  | .dyn traits life => !traits.isEmpty && (arePlainTraits traits && life.all isLifetime)
  | _ => false

/-- All the types are plain. -/
def arePlainTys : List Ty → Bool
  | [] => true
  | t :: ts => t.isPlain && arePlainTys ts

/-- There are no arguments, or some without constraints. -/
def Args.isPlain : Args → Bool
  | .none => true
  | .angle args [] => !args.isEmpty && arePlainArgs args
  | _ => false

/-- The argument is a lifetime or a plain type. -/
def Arg.isPlain : Arg → Bool
  | .lifetime name => isLifetime name
  | .type t => t.isPlain
  | _ => false

/-- All the arguments are plain. -/
def arePlainArgs : List Arg → Bool
  | [] => true
  | a :: as => a.isPlain && arePlainArgs as

/-- The bound is a trait and nothing more. -/
def Bound.isPlain : Bound → Bool
  | .trait [] .plain name args => isTypeName name && args.isPlain
  | _ => false

/-- All the bounds are plain. -/
def arePlainTraits : List Bound → Bool
  | [] => true
  | b :: bs => b.isPlain && arePlainTraits bs

/-- No input is a receiver, and none has a name. -/
def arePlainInputs : List Input → Bool
  | [] => true
  | .unnamed t :: is => t.isPlain && arePlainInputs is
  | _ :: _ => false

/-- The output is left out or is written. -/
def isPlainOutput : Option Ty → Bool
  | none => true
  | some (.tuple []) => false
  | some t => t.isPlain

end

/-- The input is a plain type without a name. -/
def Input.isPlain : Input → Bool
  | .unnamed t => t.isPlain
  | _ => false

variable {name life part : String}

/-! ## Lists of parts -/

theorem tyTexts_eq_map (s : Subst) (ts : List Ty) : tyTexts s ts = ts.map (Ty.text s) := by
  induction ts with
  | nil => rfl
  | cons t ts ih => rw [tyTexts, ih, List.map_cons]

theorem argTexts_eq_map (s : Subst) (as : List Arg) : argTexts s as = as.map (Arg.text s) := by
  induction as with
  | nil => rfl
  | cons a as ih => rw [argTexts, ih, List.map_cons]

theorem boundTexts_eq_map (s : Subst) (bs : List Bound) :
    boundTexts s bs = bs.map (Bound.text s) := by
  induction bs with
  | nil => rfl
  | cons b bs ih => rw [boundTexts, ih, List.map_cons]

theorem inputTexts_eq_map (s : Subst) (is : List Input) :
    inputTexts s is = is.map (Input.text s) := by
  induction is with
  | nil => rfl
  | cons i is ih => rw [inputTexts, ih, List.map_cons]

theorem arePlainTys_eq_all (ts : List Ty) : arePlainTys ts = ts.all Ty.isPlain := by
  induction ts with
  | nil => rfl
  | cons t ts ih => rw [arePlainTys, ih, List.all_cons]

theorem arePlainArgs_eq_all (as : List Arg) : arePlainArgs as = as.all Arg.isPlain := by
  induction as with
  | nil => rfl
  | cons a as ih => rw [arePlainArgs, ih, List.all_cons]

theorem arePlainTraits_eq_all (bs : List Bound) : arePlainTraits bs = bs.all Bound.isPlain := by
  induction bs with
  | nil => rfl
  | cons b bs ih => rw [arePlainTraits, ih, List.all_cons]

theorem arePlainInputs_eq_all (is : List Input) : arePlainInputs is = is.all Input.isPlain := by
  induction is with
  | nil => rfl
  | cons i is ih =>
    cases i with
    | unnamed t => rw [arePlainInputs, ih, List.all_cons, Input.isPlain]
    | _ => rfl

/-- Plain inputs are types without names. -/
theorem exists_of_arePlainInputs {is : List Input} (h : arePlainInputs is = true) :
    ∃ ts, is = ts.map .unnamed ∧ inputTexts [] is = tyTexts [] ts ∧ arePlainTys ts = true := by
  induction is with
  | nil => exact ⟨[], rfl, rfl, rfl⟩
  | cons i is ih =>
    cases i with
    | unnamed t =>
      rw [arePlainInputs, Bool.and_eq_true] at h
      obtain ⟨ts, his, htext, hts⟩ := ih h.2
      refine ⟨t :: ts, by rw [his, List.map_cons], ?_, ?_⟩
      · rw [inputTexts, htext, Input.text, tyTexts]
      · rw [arePlainTys, h.1, hts]
        rfl
    | _ => cases h

theorem length_le_intercalate (sep : String) {parts : List String} (h : part ∈ parts) :
    part.length ≤ (sep.intercalate parts).length := by
  induction parts with
  | nil => cases h
  | cons first parts ih =>
    cases parts with
    | nil =>
      obtain rfl := List.mem_singleton.1 h
      rw [String.intercalate_singleton]
    | cons second parts =>
      rw [String.intercalate_cons_cons, String.length_append, String.length_append]
      rcases List.mem_cons.1 h with rfl | h
      · omega
      · have := ih h
        omega

/-! ## Kinds of types -/

theorem length_lt_tupled {parts : List String} (h : part ∈ parts) :
    part.length < (tupled parts).length := by
  have hle := length_le_intercalate ", " h
  have h1 : "(".length = 1 := rfl
  unfold tupled
  split
  · obtain rfl := List.mem_singleton.1 h
    rw [String.length_append, String.length_append]
    omega
  · rw [String.length_append, String.length_append, commas]
    omega

theorem text_angle {l : List Arg} (hl : l ≠ []) :
    (Args.angle l []).text [] = "<" ++ commas (l.map (Arg.text [])) ++ ">" := by
  rw [Args.text, constraintTexts, List.append_nil, argTexts_eq_map, angled,
    if_neg (by simpa using hl)]

/-- The arguments of a plain path are none, or some types and lifetimes. -/
theorem Args.cases_of_isPlain {a : Args} (h : a.isPlain = true) :
    a = .none ∨ ∃ l, a = .angle l [] ∧ l ≠ [] ∧ ∀ b ∈ l, b.isPlain = true := by
  cases a with
  | none => exact .inl rfl
  | angle l constraints =>
    cases constraints with
    | nil =>
      rw [Args.isPlain, Bool.and_eq_true, arePlainArgs_eq_all] at h
      exact .inr ⟨l, rfl, by simpa using h.1, List.all_eq_true.1 h.2⟩
    | cons c cs => cases h
  | _ => cases h

theorem length_lt_angle {a : Arg} {l : List Arg} (ha : a ∈ l) :
    (a.text []).length < ((Args.angle l []).text []).length := by
  have hle := length_le_intercalate ", " (List.mem_map_of_mem (f := Arg.text []) ha)
  rw [text_angle (List.ne_nil_of_mem ha), commas, String.length_append, String.length_append]
  have h1 : "<".length = 1 := rfl
  omega

theorem isPlain_path {a : Args} (h : (Ty.path name a).isPlain = true) :
    isTypeName name = true ∧ a.isPlain = true ∧ a ≠ .none := by
  cases a with
  | none => cases h
  | _ =>
    obtain ⟨hname, ha⟩ := Bool.and_eq_true_iff.1 h
    exact ⟨hname, ha, nofun⟩

theorem isPlain_output {output : Option Ty} (h : isPlainOutput output = true) :
    ∀ t ∈ output, t.isPlain = true := by
  rintro t ⟨⟩
  by_cases hempty : t = .tuple []
  · subst hempty
    cases h
  · rwa [isPlainOutput] at h
    exact hempty

theorem isPlain_function {binder : List GenericParam} {header : Header} {inputs : List Input}
    {variadic : Bool} {output : Option Ty}
    (h : (Ty.function binder header inputs variadic output).isPlain = true) :
    binder = [] ∧ header = {} ∧ variadic = false ∧ arePlainInputs inputs = true ∧
      ∀ t ∈ output, t.isPlain = true := by
  cases binder with
  | cons => cases h
  | nil =>
    cases variadic with
    | true => cases h
    | false =>
      rw [Ty.isPlain, Bool.and_eq_true, Bool.and_eq_true, decide_eq_true_iff] at h
      exact ⟨rfl, h.1, rfl, h.2.1, isPlain_output h.2.2⟩

theorem text_function (ts : List Ty) (output : Option Ty) {inputs : List Input}
    (h : inputTexts [] inputs = tyTexts [] ts) :
    (Ty.function [] {} inputs false output).text [] =
      "fn(" ++ commas (ts.map (Ty.text [])) ++ ")" ++ arrow (outputText [] output) := by
  simp [Ty.text, h, tyTexts_eq_map, paramTexts, Rustdoc.bound, Header.text]

/-- The lifetime of a trait object, behind its traits. -/
def lifeText (life : Option String) : String :=
  String.join (life.toList.map fun l => " + " ++ Rustdoc.lifetime l)

theorem lifeText_append (h : isLifetime life = true) (rest : List Char) :
    (lifeText (some life)).toList ++ rest = " + ".toList ++ (life.toList ++ rest) := by
  have htext : lifeText (some life) = " + " ++ life := by
    simp [lifeText, lifetime_of_isLifetime h]
  rw [htext, String.toList_append, List.append_assoc]

theorem text_dyn (first : Bound) (traits : List Bound) (life : Option String) :
    (Ty.dyn (first :: traits) life).text [] = "dyn " ++ (first.text [] ++
      (String.join (traits.map fun b => " + " ++ b.text []) ++ lifeText life)) := by
  rw [Ty.text, boundTexts_eq_map, List.map_cons, List.cons_append, Text.intercalate_cons,
    List.map_append, List.map_map, List.map_map, String.join_append]
  rfl

theorem length_lt_dyn {b : Bound} {traits : List Bound} (life : Option String) (hb : b ∈ traits) :
    (b.text []).length < ((Ty.dyn traits life).text []).length := by
  have hle := length_le_intercalate " + "
    (List.mem_append_left (life.toList.map Rustdoc.lifetime)
      (List.mem_map_of_mem (f := Bound.text []) hb))
  have h4 : "dyn ".length = 4 := rfl
  rw [Ty.text, boundTexts_eq_map, String.length_append]
  omega

/-- A trait object that is not grouped has one bound. -/
theorem eq_nil_of_isGrouped {first : Bound} {traits : List Bound} {life : Option String}
    (h : (Ty.dyn (first :: traits) life).isGrouped = false) : traits = [] ∧ life = none := by
  rw [Ty.isGrouped, List.length_cons, decide_eq_false_iff_not] at h
  have hlength : traits.length = 0 := by omega
  refine ⟨List.eq_nil_of_length_eq_zero hlength, ?_⟩
  cases life with
  | none => rfl
  | some l => simp at h

/-- Behind the first trait of a trait object that is grouped there is a further bound. -/
theorem further_ne_nil_of_isGrouped {first : Bound} {traits : List Bound} {life : Option String}
    (h : (Ty.dyn (first :: traits) life).isGrouped = true) :
    (String.join (traits.map fun b => " + " ++ b.text [])).toList ++ (lifeText life).toList ≠
      [] := by
  cases traits with
  | nil =>
    cases life with
    | none => cases h
    | some l => simp [lifeText]
  | cons b traits => simp

end CrateBook.Rustdoc
