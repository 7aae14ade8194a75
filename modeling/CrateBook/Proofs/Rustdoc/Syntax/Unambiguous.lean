import CrateBook.Proofs.Rustdoc.Syntax.Plain
import CrateBook.Proofs.Text.Ordinary

/-!
# Types are told apart by their texts

The reader takes every plain type back from its text (`ofText?_text`), so no two plain types have
one text. A part of a type has a shorter text than the type, and what stands behind it is a sign
that ends it; one lemma for each kind of type takes the reader for shorter texts (`Knows`) to the
whole type.
-/

namespace CrateBook.Rustdoc

/-- The type as it stands where `many` bounds are allowed, or one only. -/
def Ty.spelled (many : Bool) (t : Ty) : String := grouped (!many && t.isGrouped) (t.text [])

namespace Reader

variable {rest cs : List Char} {c : Char} {n : Nat} {many : Bool} {word : String}
  {inside : Bool → Reader Ty}

/-! ## What ends a type -/

/-- What may stand behind a type. -/
def typeEnds : String := ",)];>"

/-- What may stand behind a trait. -/
def traitEnds : String := " ,)];>"

theorem follows_mono {ends ends' : String} (hsub : ends.toList ⊆ ends'.toList)
    (h : Follows ends rest) : Follows ends' rest :=
  fun c hc => hsub (h c hc)

theorem follows_traitEnds (h : Follows typeEnds rest) : Follows traitEnds rest :=
  follows_mono (by decide) h

/-- No type begins with the character. -/
def beginsNoType (c : Char) : Bool := !isNameChar c && !"([*&".toList.contains c

/-- What is known of a reader for the types inside a type: it takes the plain types with shorter
texts than a bound, and where no type begins it takes nothing. -/
structure Knows (inside : Bool → Reader Ty) (n : Nat) : Prop where
  reads : ∀ t many, t.isPlain = true → (t.spelled many).length < n →
    Reads typeEnds (inside many) (t.spelled many) t
  none_of_sign : ∀ many c cs, beginsNoType c = true → inside many (c :: cs) = none
  none_of_mut : ∀ many cs, inside many ("mut ".toList ++ cs) = none

theorem Knows.reads_many (hk : Knows inside n) {t : Ty} (ht : t.isPlain = true)
    (hn : (t.text []).length < n) : Reads typeEnds (inside true) (t.text []) t :=
  hk.reads t true ht hn

variable (hk : Knows inside n)

/-! ## Arguments and traits -/

include hk in
theorem reads_arg {a : Arg} (ha : a.isPlain = true) (hn : (a.text []).length < n) :
    Reads typeEnds (arg (inside true)) (a.text []) a := by
  intro rest hrest
  cases a with
  | type t =>
    have hread : inside true ((t.text []).toList ++ rest) = some (t, rest) :=
      hk.reads_many ha hn rest hrest
    rw [Arg.text, arg, hread]
  | lifetime l =>
    have hread := reads_lifetime rfl ha rest hrest
    obtain ⟨word, -, hl⟩ := exists_of_isLifetime ha
    have hnone : inside true (l.toList ++ rest) = none := by
      rw [hl, String.toList_append, List.append_assoc]
      exact hk.none_of_sign _ _ _ rfl
    rw [Arg.text, lifetime_of_isLifetime ha, arg, hnone, hread]
    rfl
  | _ => cases ha

include hk in
theorem reads_args {a : Args} (ha : a.isPlain = true) (hn : (a.text []).length ≤ n) :
    Reads traitEnds (args (inside true)) (a.text []) a := by
  intro rest hrest
  obtain rfl | ⟨l, rfl, hne, hl⟩ := Args.cases_of_isPlain ha
  · have hsign : sign "<" rest = none := sign_eq_none rfl hrest
    rw [Args.text, args]
    simp [hsign]
  · have hread : ∀ b ∈ l, Reads typeEnds (arg (inside true)) (b.text []) b := fun b hb =>
      reads_arg hk (hl b hb) (by have := length_lt_angle hb; omega)
    have hnone : ∀ rest, arg (inside true) (">".toList ++ rest) = none := fun rest => by
      have hinside : inside true ('>' :: rest) = none :=
        hk.none_of_sign _ _ _ rfl
      have hlife : lifetime ('>' :: rest) = none := lifetime_cons (by decide) rest
      simp [arg, hinside, hlife]
    have hstop : ∀ rest, sign ", " (">".toList ++ rest) = none := fun rest =>
      sign_append_eq_none rfl rest
    have hlisted := listed_append rfl rfl hread hnone hstop rest
    rw [text_angle hne, String.append_assoc, String.toList_append, List.append_assoc, args,
      sign_append]
    simp only [hlisted, Option.map_some]

/-- The arguments of a path end where they began, or begin with a bracket. -/
theorem follows_args {a : Args} (ha : a.isPlain = true) (hrest : Follows traitEnds rest) :
    Follows "< ,)];>" ((a.text []).toList ++ rest) := by
  obtain rfl | ⟨l, rfl, hne, hl⟩ := Args.cases_of_isPlain ha
  · rw [Args.text]
    exact follows_mono (by decide) hrest
  · rw [text_angle hne, String.append_assoc, String.toList_append, List.append_assoc]
    exact follows_append rfl _

include hk in
theorem reads_trait {b : Bound} (hb : b.isPlain = true) (hn : (b.text []).length ≤ n) :
    Reads traitEnds (trait (inside true)) (b.text []) b := by
  intro rest hrest
  cases b with
  | trait binder modifier name a =>
    cases binder with
    | cons => cases modifier <;> cases hb
    | nil =>
      cases modifier with
      | plain =>
        rw [Bound.isPlain, Bool.and_eq_true] at hb
        have htext : (Bound.trait [] .plain name a).text [] = name ++ a.text [] := by
          simp [Bound.text, paramTexts, Rustdoc.bound, Modifier.text]
        have hname := reads_name rfl hb.1 _ (follows_args hb.2 hrest)
        rw [htext, String.length_append] at hn
        have hargs := reads_args hk hb.2 (by omega) rest hrest
        rw [htext, String.toList_append, List.append_assoc, trait, hname]
        simp [hargs]
      | _ => cases hb
  | _ => cases hb

/-! ## Kinds of types -/

theorem type_cons (hc : c ∉ "([*&".toList) (cs : List Char) :
    type inside many (c :: cs) = named (inside true) many (c :: cs) := by
  rw [type]
  all_goals
    rintro cs' ⟨⟩
    exact hc (by decide)

theorem not_mem_of_isNameChar (h : isNameChar c = true) : c ∉ "([*&".toList := by
  have hsigns : areSigns "([*&" = true := by decide
  intro hc
  simpa [h] using List.all_eq_true.1 hsigns c hc

/-- A type that begins with a name is read by that name. -/
theorem type_name (hname : isTypeName word = true) (cs : List Char) :
    type inside many (word.toList ++ cs) = named (inside true) many (word.toList ++ cs) := by
  cases hcs : word.toList with
  | nil => exact absurd hcs (ne_nil_of_isTypeName hname)
  | cons d ds =>
    have hd : isNameChar d = true := isNameChar_of_mem hname (by rw [hcs]; exact List.mem_cons_self)
    exact type_cons (not_mem_of_isNameChar hd) _

theorem reads_primitive (hname : isTypeName word = true) :
    Reads typeEnds (type inside many) word (.primitive word) := by
  intro rest hrest
  have hread := reads_name rfl hname rest hrest
  have hspace : sign " " rest = none := sign_eq_none rfl hrest
  have hparen : sign "(" rest = none := sign_eq_none rfl hrest
  have hangle : sign "<" rest = none := sign_eq_none rfl hrest
  rw [type_name hname, named, hread]
  simp [hspace, hparen, path, args, hangle]

include hk in
theorem reads_path {a : Args} (hname : isTypeName word = true) (ha : a.isPlain = true)
    (hne : a ≠ .none) (hn : (a.text []).length ≤ n) :
    Reads typeEnds (type inside many) (word ++ a.text []) (.path word a) := by
  intro rest hrest
  have hrest' : Follows traitEnds rest := follows_traitEnds hrest
  have hargs := reads_args hk ha hn rest hrest'
  have hread := reads_name rfl hname _ (follows_args ha hrest')
  obtain rfl | ⟨l, rfl, hl, -⟩ := Args.cases_of_isPlain ha
  · exact absurd rfl hne
  · rw [String.toList_append, List.append_assoc, type_name hname, named, hread]
    have hfollows : Follows "<" (((Args.angle l []).text []).toList ++ rest) := by
      rw [text_angle hl, String.append_assoc, String.toList_append, List.append_assoc]
      exact follows_append rfl _
    have hspace : sign " " (((Args.angle l []).text []).toList ++ rest) = none :=
      sign_eq_none rfl hfollows
    have hparen : sign "(" (((Args.angle l []).text []).toList ++ rest) = none :=
      sign_eq_none rfl hfollows
    simp [hspace, hparen, path, hargs]

theorem type_open (cs : List Char) :
    type inside many ("(".toList ++ cs) = parens (inside true) cs := by
  simp [type]

include hk in
theorem none_of_close (rest : List Char) : inside many (")".toList ++ rest) = none :=
  hk.none_of_sign _ _ _ rfl

/-- Two or more parts are read up to the parenthesis behind them. -/
theorem parens_many {t u : Ty} {ts : List Ty}
    (hread : ∀ v ∈ t :: u :: ts, Reads typeEnds (inside true) (v.text []) v) (rest : List Char) :
    parens (inside true)
      ((commas ((t :: u :: ts).map (Ty.text [])) ++ ")").toList ++ rest) =
        some (.tuple (t :: u :: ts), rest) := by
  have hstop : (sign ", " (")".toList ++ rest)).bind (inside true) = none := by
    rw [sign_append_eq_none rfl rest]
    rfl
  have hclose : Follows typeEnds (")".toList ++ rest) := follows_append rfl rest
  obtain ⟨ht, hts⟩ := List.forall_mem_cons.1 hread
  have hmore := more_append rfl hts hclose hstop
  rw [commas, intercalate_map_cons, parens, String.toList_append, String.toList_append,
    List.append_assoc, List.append_assoc, ht _ (follows_join rfl hclose)]
  -- Behind the first part there is a comma and a space, so that the tuple does not end there.
  obtain ⟨cs, hcs⟩ : ∃ cs, (String.join ((u :: ts).map fun t => ", " ++ t.text [])).toList ++
      (")".toList ++ rest) = ", ".toList ++ cs := by
    rw [List.map_cons, String.join_cons, String.append_assoc, String.toList_append,
      List.append_assoc]
    exact ⟨_, rfl⟩
  have hclosed : sign ")" (", ".toList ++ cs) = none := sign_append_eq_none rfl cs
  have hone : sign ",)" (", ".toList ++ cs) = none := by simp [sign, Text.after?]
  simp only [hmore, sign_append]
  simp only [hcs, hclosed, hone]
  rfl

include hk in
theorem reads_tuple {items : List Ty} (hitems : ∀ t ∈ items, t.isPlain = true)
    (hn : (tupled (items.map (Ty.text []))).length ≤ n) :
    Reads typeEnds (type inside many) (tupled (items.map (Ty.text []))) (.tuple items) := by
  intro rest hrest
  have hread : ∀ t ∈ items, Reads typeEnds (inside true) (t.text []) t := fun t ht =>
    hk.reads_many (hitems t ht) ((length_lt_tupled (List.mem_map_of_mem ht)).trans_le hn)
  match items with
  | [] =>
    have htext : tupled ([].map (Ty.text [])) = "(" ++ ")" := rfl
    rw [htext, String.toList_append, List.append_assoc, type_open, parens, none_of_close hk,
      sign_append]
    rfl
  | [t] =>
    have ht := hread t List.mem_cons_self (",)".toList ++ rest) (follows_append rfl rest)
    have hnot : sign ")" (",)".toList ++ rest) = none := sign_append_eq_none rfl rest
    rw [List.map_singleton, tupled, String.append_assoc, String.toList_append, List.append_assoc,
      type_open, parens, String.toList_append, List.append_assoc, ht]
    simp only [hnot, sign_append]
  | t :: u :: ts =>
    have htext : tupled ((t :: u :: ts).map (Ty.text [])) =
        "(" ++ (commas ((t :: u :: ts).map (Ty.text [])) ++ ")") := String.append_assoc
    rw [htext, String.toList_append, List.append_assoc, type_open, parens_many hread]

theorem type_bracket (cs : List Char) :
    type inside many ("[".toList ++ cs) = brackets (inside true) cs := by
  simp [type]

include hk in
theorem reads_slice {t : Ty} (ht : t.isPlain = true) (hn : (t.text []).length < n) :
    Reads typeEnds (type inside many) ("[" ++ t.text [] ++ "]") (.slice t) := by
  intro rest hrest
  have hread : inside true ((t.text []).toList ++ ("]".toList ++ rest)) =
      some (t, "]".toList ++ rest) :=
    hk.reads_many ht hn _ (follows_append rfl rest)
  rw [String.toList_append, String.toList_append, List.append_assoc, List.append_assoc,
    type_bracket, brackets, hread]
  simp only [Option.bind_eq_bind, Option.bind_some, sign_append]
  rfl

include hk in
theorem reads_array {t : Ty} {len : String} (ht : t.isPlain = true) (hlen : isTypeName len = true)
    (hn : (t.text []).length < n) :
    Reads typeEnds (type inside many) ("[" ++ t.text [] ++ "; " ++ len ++ "]") (.array t len) := by
  intro rest hrest
  have hread := hk.reads_many ht hn ("; ".toList ++ (len.toList ++ ("]".toList ++ rest)))
    (follows_append rfl _)
  have hname : name (len.toList ++ ("]".toList ++ rest)) = some (len, "]".toList ++ rest) :=
    name_append hlen rfl rest
  have hnot : sign "]" ("; ".toList ++ (len.toList ++ ("]".toList ++ rest))) = none :=
    sign_append_eq_none rfl _
  simp only [String.toList_append, List.append_assoc]
  rw [type_bracket, brackets, hread]
  simp only [Option.bind_eq_bind, Option.bind_some, hnot, sign_append, hname]
  rfl

theorem type_star (cs : List Char) :
    type inside many ("*".toList ++ cs) = pointer (inside false) cs := by
  simp [type]

include hk in
theorem reads_pointer {t : Ty} {isMut : Bool} (ht : t.isPlain = true)
    (hn : (t.spelled false).length < n) :
    Reads typeEnds (type inside many)
      ("*" ++ (if isMut then "mut" else "const") ++ " " ++ t.spelled false) (.pointer isMut t) := by
  intro rest hrest
  have hread := hk.reads t false ht hn rest hrest
  cases isMut with
  | true =>
    have htext : "*" ++ (if true then "mut" else "const") ++ " " = "*" ++ "mut " := rfl
    rw [htext, String.append_assoc, String.toList_append, String.toList_append, List.append_assoc,
      List.append_assoc, type_star]
    simp only [pointer, sign_append, hread]
    rfl
  | false =>
    have htext : "*" ++ (if false then "mut" else "const") ++ " " = "*" ++ "const " := rfl
    have hmut : sign "mut " ("const ".toList ++ ((t.spelled false).toList ++ rest)) = none :=
      sign_append_eq_none rfl _
    rw [htext, String.append_assoc, String.toList_append, String.toList_append, List.append_assoc,
      List.append_assoc, type_star]
    simp only [pointer, hmut, sign_append, Option.bind_some, hread]
    rfl

theorem type_ampersand (cs : List Char) :
    type inside many ("&".toList ++ cs) = reference (inside false) cs := by
  simp [type]

include hk in
/-- A type that is read does not begin with a lifetime. -/
theorem lifetime_of_reads {m : Ty × List Char} (h : inside many cs = some m) :
    lifetime cs = none := by
  cases cs with
  | nil => rfl
  | cons c cs =>
    refine lifetime_cons ?_ cs
    rintro rfl
    rw [hk.none_of_sign _ _ _ rfl] at h
    cases h

include hk in
/-- A type that is read does not begin with the keyword of mutable targets. -/
theorem mut_of_reads {m : Ty × List Char} (h : inside many cs = some m) :
    sign "mut " cs = none := by
  cases hsign : sign "mut " cs with
  | none => rfl
  | some cs' =>
    rw [Text.eq_append_of_after? hsign, hk.none_of_mut] at h
    cases h

include hk in
theorem reads_reference {t : Ty} {isMut : Bool} {life : Option String}
    (hlife : life.all isLifetime = true) (ht : t.isPlain = true)
    (hn : (t.spelled false).length < n) :
    Reads typeEnds (type inside many)
      ("&" ++ lifetimeBefore life ++ (if isMut then "mut " else "") ++ t.spelled false)
      (.reference life isMut t) := by
  intro rest hrest
  have hread := hk.reads t false ht hn rest hrest
  generalize htarget : (if isMut then "mut " else "").toList ++
    ((t.spelled false).toList ++ rest) = target
  have hto : ∀ life, referenceTo life (inside false) target =
      some (.reference life isMut t, rest) := by
    intro life
    subst htarget
    cases isMut with
    | true =>
      simp only [if_pos, referenceTo, sign_append, hread]
      rfl
    | false =>
      simp only [if_neg Bool.false_ne_true, String.toList_empty, List.nil_append, referenceTo,
        mut_of_reads hk hread, hread]
      rfl
  have hnone : lifetime target = none := by
    subst htarget
    cases isMut with
    | true => exact lifetime_eq_none (sign_append_eq_none rfl _)
    | false => exact lifetime_of_reads hk hread
  simp only [String.toList_append, List.append_assoc, htarget]
  rw [type_ampersand, reference]
  cases life with
  | none =>
    rw [lifetimeBefore, String.toList_empty, List.nil_append, hnone]
    exact hto none
  | some l =>
    have hl : lifetime (l.toList ++ (" ".toList ++ target)) = some (l, " ".toList ++ target) :=
      lifetime_append hlife rfl target
    rw [lifetimeBefore, lifetime_of_isLifetime hlife, String.toList_append, List.append_assoc, hl]
    simp only [sign_append, Option.bind_some]
    exact hto (some l)

/-- A function is read after its keyword and a parenthesis. -/
theorem type_fn (cs : List Char) :
    type inside many ("fn(".toList ++ cs) = function (inside true) cs := by
  have hfn : "fn(".toList = "fn".toList ++ "(".toList := rfl
  have hname : name ("fn".toList ++ ("(".toList ++ cs)) = some ("fn", "(".toList ++ cs) :=
    name_append rfl rfl cs
  have hspace : sign " " ("(".toList ++ cs) = none := sign_append_eq_none rfl cs
  rw [hfn, List.append_assoc, type_name rfl, named, hname]
  simp only [Option.bind_eq_bind, Option.bind_some, hspace, sign_append, if_pos]

include hk in
theorem function_append {ts : List Ty} {output : Option Ty}
    (hts : ∀ t ∈ ts, t.isPlain = true) (houtput : ∀ t ∈ output, t.isPlain = true)
    (hn : (commas (ts.map (Ty.text []))).length < n)
    (hn' : (arrow (outputText [] output)).length < n) (hrest : Follows typeEnds rest) :
    function (inside true) ((commas (ts.map (Ty.text [])) ++ ")").toList ++
      ((arrow (outputText [] output)).toList ++ rest)) =
        some (.function [] {} (ts.map .unnamed) false output, rest) := by
  have hread : ∀ t ∈ ts, Reads typeEnds (inside true) (t.text []) t := fun t ht =>
    hk.reads_many (hts t ht) ((length_le_intercalate ", " (List.mem_map_of_mem ht)).trans_lt hn)
  have hstop : ∀ rest, sign ", " (")".toList ++ rest) = none := fun rest =>
    sign_append_eq_none rfl rest
  rw [function, listed_append rfl rfl hread (none_of_close hk) hstop]
  simp only [Option.bind_eq_bind, Option.bind_some]
  cases output with
  | none =>
    have harrow : sign " -> " rest = none := sign_eq_none rfl hrest
    rw [outputText, arrow, String.toList_empty, List.nil_append, harrow]
    rfl
  | some t =>
    rw [outputText, arrow] at hn' ⊢
    have ht : inside true ((t.text []).toList ++ rest) = some (t, rest) :=
      hk.reads_many (houtput t rfl) (by rw [String.length_append] at hn'; omega) rest hrest
    rw [String.toList_append, List.append_assoc, sign_append]
    simp only [ht]
    rfl

include hk in
theorem reads_function {ts : List Ty} {output : Option Ty}
    (hts : ∀ t ∈ ts, t.isPlain = true) (houtput : ∀ t ∈ output, t.isPlain = true)
    (hn : (commas (ts.map (Ty.text []))).length < n)
    (hn' : (arrow (outputText [] output)).length < n) :
    Reads typeEnds (type inside many)
      ("fn(" ++ commas (ts.map (Ty.text [])) ++ ")" ++ arrow (outputText [] output))
      (.function [] {} (ts.map .unnamed) false output) := by
  intro rest hrest
  have htext : ("fn(" ++ commas (ts.map (Ty.text [])) ++ ")" ++
      arrow (outputText [] output)).toList ++ rest =
        "fn(".toList ++ ((commas (ts.map (Ty.text [])) ++ ")").toList ++
          ((arrow (outputText [] output)).toList ++ rest)) := by
    simp only [String.toList_append, List.append_assoc]
  rw [htext, type_fn]
  exact function_append hk hts houtput hn hn' hrest

theorem traitObject_append {life : Option String} (traits : List Bound)
    (hlife : life.all isLifetime = true) :
    Reads typeEnds (traitObject traits) (lifeText life) (.dyn traits life) := by
  intro rest hrest
  cases life with
  | none =>
    have hplus : sign " + " rest = none := sign_eq_none rfl hrest
    simp [lifeText, traitObject, hplus]
  | some l =>
    have hl := reads_lifetime rfl hlife rest hrest
    rw [lifeText_append hlife, traitObject, sign_append, Option.bind_some, hl]

/-- Behind the traits no further trait is read. -/
theorem no_trait {life : Option String} {inside : Reader Ty} (hlife : life.all isLifetime = true)
    (hrest : Follows typeEnds rest) :
    (sign " + " ((lifeText life).toList ++ rest)).bind (trait inside) = none := by
  cases life with
  | none =>
    have hplus : sign " + " rest = none := sign_eq_none rfl hrest
    simp [lifeText, hplus]
  | some l =>
    obtain ⟨word, -, rfl⟩ := exists_of_isLifetime hlife
    have hnone : name ("'".toList ++ (word.toList ++ rest)) = none := name_cons rfl _
    rw [lifeText_append hlife, sign_append, String.toList_append, List.append_assoc,
      Option.bind_some, trait, hnone]
    rfl

/-- A trait object is read after its keyword. -/
theorem type_dyn (cs : List Char) :
    type inside many ("dyn ".toList ++ cs) = dyn (inside true) many cs := by
  have hdyn : "dyn ".toList = "dyn".toList ++ " ".toList := rfl
  have hname : name ("dyn".toList ++ (" ".toList ++ cs)) = some ("dyn", " ".toList ++ cs) :=
    name_append rfl rfl cs
  rw [hdyn, List.append_assoc, type_name rfl, named, hname]
  simp only [Option.bind_eq_bind, Option.bind_some, sign_append, if_pos]

include hk in
/-- Where one bound only is allowed, a trait object ends behind its first trait. -/
theorem type_dyn_one {b : Bound} (hb : b.isPlain = true) (hn : (b.text []).length ≤ n)
    (hrest : Follows traitEnds rest) :
    type inside false ("dyn ".toList ++ ((b.text []).toList ++ rest)) =
      some (.dyn [b] none, rest) := by
  rw [type_dyn, dyn, reads_trait hk hb hn rest hrest]
  rfl

include hk in
theorem reads_dyn {first : Bound} {traits : List Bound} {life : Option String}
    (htraits : ∀ b ∈ first :: traits, b.isPlain = true) (hlife : life.all isLifetime = true)
    (hn : ((Ty.dyn (first :: traits) life).text []).length ≤ n)
    (hmany : many = false → traits = [] ∧ life = none) :
    Reads typeEnds (type inside many) ((Ty.dyn (first :: traits) life).text [])
      (.dyn (first :: traits) life) := by
  intro rest hrest
  have hshort : ∀ b ∈ first :: traits, (b.text []).length ≤ n := fun b hb =>
    (length_lt_dyn life hb).le.trans hn
  obtain ⟨hfirst, hfurther⟩ := List.forall_mem_cons.1 fun b hb =>
    reads_trait hk (htraits b hb) (hshort b hb)
  have hends : Follows traitEnds ((lifeText life).toList ++ rest) :=
    follows_join rfl (follows_traitEnds hrest)
  rw [text_dyn]
  simp only [String.toList_append, List.append_assoc]
  cases many with
  | true =>
    have hthen : Follows traitEnds ((String.join (traits.map fun b => " + " ++ b.text [])).toList ++
        ((lifeText life).toList ++ rest)) := follows_join rfl hends
    have hone := hfirst _ hthen
    have hmore := more_append rfl hfurther hends (no_trait hlife hrest)
    rw [type_dyn, dyn, hone]
    simp only [Option.bind_eq_bind, Option.bind_some, if_pos, hmore,
      traitObject_append _ hlife rest hrest]
  | false =>
    obtain ⟨rfl, rfl⟩ := hmany rfl
    exact type_dyn_one hk (htraits first List.mem_cons_self) (hshort first List.mem_cons_self)
      (follows_traitEnds hrest)

/-! ## All types -/

theorem type_mut (cs : List Char) : type inside many ("mut ".toList ++ cs) = none := by
  have hmut : "mut ".toList = "mut".toList ++ " ".toList := rfl
  have hname : name ("mut".toList ++ (" ".toList ++ cs)) = some ("mut", " ".toList ++ cs) :=
    name_append rfl rfl cs
  rw [hmut, List.append_assoc, type_name rfl, named, hname]
  simp only [Option.bind_eq_bind, Option.bind_some, sign_append]
  rfl

theorem type_sign (h : beginsNoType c = true) (cs : List Char) :
    type inside many (c :: cs) = none := by
  rw [beginsNoType, Bool.and_eq_true, Bool.not_eq_true', Bool.not_eq_true'] at h
  have hc : c ∉ "([*&".toList := by simpa using h.2
  rw [type_cons hc, named, name_cons h.1]
  rfl

include hk in
/-- A plain type is read when the types with shorter texts are. -/
theorem reads_type {t : Ty} (ht : t.isPlain = true) (hn : (t.text []).length ≤ n)
    (hmany : (!many && t.isGrouped) = false) :
    Reads typeEnds (type inside many) (t.text []) t := by
  cases t with
  | primitive name => exact reads_primitive ht
  | tuple items =>
    rw [Ty.isPlain, arePlainTys_eq_all] at ht
    rw [Ty.text, tyTexts_eq_map] at hn ⊢
    exact reads_tuple hk (List.all_eq_true.1 ht) hn
  | slice item =>
    rw [Ty.text, String.length_append, String.length_append] at hn
    exact reads_slice hk ht (by have : "[".length = 1 := rfl; omega)
  | array item len =>
    rw [Ty.isPlain, Bool.and_eq_true] at ht
    simp only [Ty.text, String.length_append] at hn
    exact reads_array hk ht.1 ht.2 (by have : "[".length = 1 := rfl; omega)
  | pointer isMut target =>
    have htext : (Ty.pointer isMut target).text [] =
      "*" ++ (if isMut then "mut" else "const") ++ " " ++ target.spelled false := rfl
    rw [htext] at hn ⊢
    simp only [String.length_append] at hn
    exact reads_pointer hk ht (by have : "*".length = 1 := rfl; omega)
  | reference life isMut target =>
    have htext : (Ty.reference life isMut target).text [] =
      "&" ++ lifetimeBefore life ++ (if isMut then "mut " else "") ++ target.spelled false := rfl
    rw [Ty.isPlain, Bool.and_eq_true] at ht
    rw [htext] at hn ⊢
    simp only [String.length_append] at hn
    exact reads_reference hk ht.1 ht.2 (by have : "&".length = 1 := rfl; omega)
  | path name args =>
    obtain ⟨hname, hargs, hne⟩ := isPlain_path ht
    rw [Ty.text, String.length_append] at hn
    exact reads_path hk hname hargs hne (by omega)
  | function binder header inputs variadic output =>
    obtain ⟨rfl, rfl, rfl, hinputs, houtput⟩ := isPlain_function ht
    obtain ⟨ts, rfl, htexts, hts⟩ := exists_of_arePlainInputs hinputs
    rw [arePlainTys_eq_all] at hts
    rw [text_function ts output htexts] at hn ⊢
    simp only [String.length_append] at hn
    have h3 : "fn(".length = 3 := rfl
    exact reads_function hk (List.all_eq_true.1 hts) houtput (by omega) (by omega)
  | dyn traits life =>
    rw [Ty.isPlain, Bool.and_eq_true, Bool.and_eq_true, arePlainTraits_eq_all] at ht
    cases traits with
    | nil => cases ht.1
    | cons first traits =>
      refine reads_dyn hk (List.all_eq_true.1 ht.2.1) ht.2.2 hn fun hone => ?_
      subst hone
      exact eq_nil_of_isGrouped hmany
  | _ => cases ht

include hk in
/-- A type with more than one bound is read between parentheses where one bound only is allowed. -/
theorem reads_grouped {t : Ty} (ht : t.isPlain = true) (hn : (t.text []).length < n) :
    Reads typeEnds (type inside many) ("(" ++ t.text [] ++ ")") t := by
  intro rest hrest
  have hread := hk.reads_many ht hn (")".toList ++ rest) (follows_append rfl rest)
  rw [String.append_assoc, String.toList_append, String.toList_append, List.append_assoc,
    List.append_assoc, type_open]
  simp only [parens, hread, sign_append]

theorem knows_typeWithin (n : Nat) : Knows (typeWithin n) n := by
  induction n with
  | zero => exact ⟨nofun, fun _ _ _ _ => rfl, fun _ _ => rfl⟩
  | succ n ih =>
    refine ⟨fun t many ht hn => ?_, fun many c cs h => type_sign h cs, fun many cs => type_mut cs⟩
    cases hgroup : !many && t.isGrouped with
    | false =>
      rw [Ty.spelled, hgroup, grouped, if_neg Bool.false_ne_true] at hn ⊢
      exact reads_type ih ht (Nat.le_of_lt_succ hn) hgroup
    | true =>
      rw [Ty.spelled, hgroup, grouped, if_pos rfl] at hn ⊢
      simp only [String.length_append] at hn
      have h1 : "(".length = 1 := rfl
      exact reads_grouped ih ht (by omega)

end Reader

/-- Every plain type is read back from its text. -/
theorem Ty.ofText?_text {t : Ty} (h : t.isPlain = true) : Ty.ofText? (t.text []) = some t := by
  have hread := (Reader.knows_typeWithin ((t.text []).length + 1)).reads_many h
    (Nat.lt_succ_self _) [] (Reader.follows_nil _)
  rw [List.append_nil] at hread
  rw [Ty.ofText?, hread]

/-- Without parentheses the text of a reference to more than one bound is the text of no type. -/
theorem Ty.ofText?_ungrouped {traits : List Bound} {life : Option String}
    (h : (Ty.dyn traits life).isPlain = true) (hgrouped : (Ty.dyn traits life).isGrouped = true) :
    Ty.ofText? ("&" ++ (Ty.dyn traits life).text []) = none := by
  rw [Ty.isPlain, Bool.and_eq_true, Bool.and_eq_true, arePlainTraits_eq_all] at h
  cases traits with
  | nil => cases h.1
  | cons first traits =>
    have hshort := length_lt_dyn life (List.mem_cons_self (a := first) (l := traits))
    generalize hm : ((Ty.dyn (first :: traits) life).text []).length = m at hshort
    obtain ⟨c, cs, hrest⟩ := List.exists_cons_of_ne_nil (further_ne_nil_of_isGrouped hgrouped)
    have hends : Reader.Follows Reader.traitEnds (c :: cs) := by
      rw [← hrest, ← List.append_nil (lifeText life).toList]
      exact Reader.follows_join rfl (Reader.follows_join rfl
        (Reader.follows_nil _))
    have hread : Reader.typeWithin (m + 1) false
        ("dyn ".toList ++ ((first.text []).toList ++ c :: cs)) =
          some (.dyn [first] none, c :: cs) :=
      Reader.type_dyn_one (Reader.knows_typeWithin m)
        (List.all_eq_true.1 h.2.1 first List.mem_cons_self) hshort.le hends
    have htext : ("&" ++ (Ty.dyn (first :: traits) life).text []).toList =
        "&".toList ++ ("dyn ".toList ++ ((first.text []).toList ++ c :: cs)) := by
      rw [text_dyn, ← hrest]
      simp only [String.toList_append]
    have hfuel : ("&" ++ (Ty.dyn (first :: traits) life).text []).length = m + 1 := by
      rw [String.length_append, hm, Nat.add_comm]
      rfl
    rw [Ty.ofText?, hfuel, htext, Reader.typeWithin, Reader.type_ampersand, Reader.reference,
      Reader.lifetime_of_reads (Reader.knows_typeWithin _) hread]
    simp only [Reader.referenceTo, Reader.mut_of_reads (Reader.knows_typeWithin _) hread, hread,
      Option.map_some]

/-- Two plain types have one text only if they are the same. -/
theorem Ty.text_inj_of_isPlain {t u : Ty} (ht : t.isPlain = true) (hu : u.isPlain = true) :
    t.text [] = u.text [] ↔ t = u := by
  refine ⟨fun h => ?_, congrArg _⟩
  have hread := ofText?_text ht
  rw [h, ofText?_text hu] at hread
  exact (Option.some.inj hread).symm

end CrateBook.Rustdoc
