import Mathlib.Data.List.TakeWhile
import Mathlib.Logic.ExistsUnique
import CrateBook.Markdown.Reference

/-!
# How a text with brackets is read

A text is read up to its first bracket: what opens there is a reference link, a group that no
reference follows, or nothing that ever closes (`Reading`). A group is read to the bracket that
balances the one before it (`closeGroup_eq_some_iff`), so every text has exactly one right reading,
and what is written for a reading settles the whole of `stripReferences`: `stripReferences_reading`.
-/

namespace CrateBook.Markdown

/-- The square brackets of a text match. -/
inductive Balanced : List Char → Prop
  | nil : Balanced []
  | cons {c : Char} {cs : List Char} : c ≠ '[' → c ≠ ']' → Balanced cs → Balanced (c :: cs)
  | group {l cs : List Char} : Balanced l → Balanced cs → Balanced ('[' :: (l ++ ']' :: cs))

variable {depth : Nat} {c : Char} {cs ds l r t u w x : List Char}

/-! ## Groups -/

theorem closeGroup_open (depth : Nat) (cs : List Char) : closeGroup depth ('[' :: cs) =
    (closeGroup (depth + 1) cs).map fun g => ('[' :: g.1, g.2) := by
  rw [closeGroup.eq_def]
  rfl

theorem closeGroup_close (depth : Nat) (cs : List Char) : closeGroup (depth + 1) (']' :: cs) =
    (closeGroup depth cs).map fun g => (']' :: g.1, g.2) := by
  rw [closeGroup.eq_def]
  rfl

theorem closeGroup_other (hopen : c ≠ '[') (hclose : c ≠ ']') (depth : Nat) (cs : List Char) :
    closeGroup depth (c :: cs) = (closeGroup depth cs).map fun g => (c :: g.1, g.2) := by
  rw [closeGroup.eq_def]
  dsimp only
  rw [if_neg hopen, if_neg hclose]

/-- What is balanced is read over. -/
theorem closeGroup_append (h : Balanced l) (depth : Nat) (cs : List Char) :
    closeGroup depth (l ++ cs) = (closeGroup depth cs).map fun g => (l ++ g.1, g.2) := by
  induction h generalizing depth cs with
  | nil => simp
  | cons hopen hclose _ ih =>
    rw [List.cons_append, closeGroup_other hopen hclose, ih, Option.map_map]
    rfl
  | group _ _ ihl ihds =>
    rw [List.cons_append, closeGroup_open, List.append_assoc, List.cons_append, ihl,
      closeGroup_close, ihds, Option.map_map, Option.map_map, Option.map_map]
    simp [Function.comp_def]

/-- The text up to the bracket that closes a group of which `depth` inner groups are open. -/
inductive Closes : Nat → List Char → Prop
  | last {l : List Char} : Balanced l → Closes 0 l
  | inner {depth : Nat} {l cs : List Char} :
    Balanced l → Closes depth cs → Closes (depth + 1) (l ++ ']' :: cs)

theorem Closes.cons (h : Closes depth cs) (hopen : c ≠ '[') (hclose : c ≠ ']') :
    Closes depth (c :: cs) := by
  cases h with
  | last hl => exact .last (.cons hopen hclose hl)
  | inner hl hcs => exact .inner (.cons hopen hclose hl) hcs

/-- An opening bracket stands before one more inner group. -/
theorem Closes.group (h : Closes (depth + 1) cs) : Closes depth ('[' :: cs) := by
  cases h with
  | @inner _ l _ hl hcs =>
    cases hcs with
    | last hl' => exact .last (.group hl hl')
    | @inner _ l' cs' hl' hcs' =>
      have hsplit : '[' :: (l ++ ']' :: (l' ++ ']' :: cs')) =
          '[' :: (l ++ ']' :: l') ++ ']' :: cs' := by simp
      rw [hsplit]
      exact .inner (.group hl hl') hcs'

theorem eq_append_of_closeGroup (h : closeGroup depth cs = some (l, t)) :
    Closes depth l ∧ cs = l ++ ']' :: t := by
  induction cs generalizing depth l with
  | nil => cases h
  | cons c cs ih =>
    by_cases hopen : c = '['
    · subst hopen
      rw [closeGroup_open, Option.map_eq_some_iff] at h
      obtain ⟨⟨l', t'⟩, hg, hlt⟩ := h
      obtain ⟨rfl, rfl⟩ := Prod.mk.inj hlt
      obtain ⟨hl, rfl⟩ := ih hg
      exact ⟨hl.group, rfl⟩
    · by_cases hclose : c = ']'
      · subst hclose
        cases depth with
        | zero =>
          rw [closeGroup.eq_def] at h
          obtain ⟨rfl, rfl⟩ := Prod.mk.inj (Option.some.inj h)
          exact ⟨.last .nil, rfl⟩
        | succ depth =>
          rw [closeGroup_close, Option.map_eq_some_iff] at h
          obtain ⟨⟨l', t'⟩, hg, hlt⟩ := h
          obtain ⟨rfl, rfl⟩ := Prod.mk.inj hlt
          obtain ⟨hl, rfl⟩ := ih hg
          exact ⟨.inner .nil hl, rfl⟩
      · rw [closeGroup_other hopen hclose, Option.map_eq_some_iff] at h
        obtain ⟨⟨l', t'⟩, hg, hlt⟩ := h
        obtain ⟨rfl, rfl⟩ := Prod.mk.inj hlt
        obtain ⟨hl, rfl⟩ := ih hg
        exact ⟨hl.cons hopen hclose, rfl⟩

/-- A group closes at the bracket before which all brackets match. -/
theorem closeGroup_eq_some_iff :
    closeGroup 0 cs = some (l, t) ↔ Balanced l ∧ cs = l ++ ']' :: t := by
  constructor
  · intro h
    obtain ⟨hl, hcs⟩ := eq_append_of_closeGroup h
    cases hl with
    | last hl => exact ⟨hl, hcs⟩
  · rintro ⟨hl, rfl⟩
    rw [closeGroup_append hl, closeGroup.eq_def]
    simp

theorem Balanced.closeGroup (h : Balanced l) (t : List Char) :
    closeGroup 0 (l ++ ']' :: t) = some (l, t) := closeGroup_eq_some_iff.2 ⟨h, rfl⟩

instance (l : List Char) : Decidable (Balanced l) :=
  decidable_of_iff (Markdown.closeGroup 0 (l ++ [']']) = some (l, [])) <|
    closeGroup_eq_some_iff.trans (and_iff_left rfl)

/-- Nothing closes the group that has been opened before the text. -/
def NeverCloses (x : List Char) : Prop := ∀ l t, Balanced l → x ≠ l ++ ']' :: t

theorem closeGroup_eq_none_iff : closeGroup 0 x = none ↔ NeverCloses x := by
  rw [Option.eq_none_iff_forall_ne_some, Prod.forall]
  refine forall_congr' fun l => forall_congr' fun t => ?_
  rw [Ne, closeGroup_eq_some_iff, not_and]

/-! ## References -/

/-- Blanks, a group between brackets and a rest: what follows the label of a link. -/
def withReference (w r t : List Char) : List Char := w ++ '[' :: (r ++ ']' :: t)

/-- The text starts with a group between brackets, behind blanks if there are any. -/
def StartsWithReference (t : List Char) : Prop :=
  ∃ w r rest, (∀ c ∈ w, Text.isBlank c = true) ∧ Balanced r ∧ t = withReference w r rest

/-- The blanks, the group and the rest of a text that starts with a reference. -/
def readReference (t : List Char) : Option (List Char × List Char × List Char) :=
  match t.dropWhile Text.isBlank with
  | [] => none
  | c :: cs =>
    if c = '[' then (closeGroup 0 cs).map fun g => (t.takeWhile Text.isBlank, g) else none

theorem afterReference?_eq (t : List Char) :
    afterReference? t = (readReference t).map fun parts => parts.2.2 := by
  rw [afterReference?, readReference]
  cases t.dropWhile Text.isBlank with
  | nil => rfl
  | cons c cs =>
    dsimp only
    split
    · rw [Option.map_map]
      rfl
    · rfl

theorem readReference_withReference (hw : ∀ c ∈ w, Text.isBlank c = true) (hr : Balanced r)
    (x : List Char) : readReference (withReference w r x) = some (w, r, x) := by
  rw [readReference, withReference, List.dropWhile_append_of_pos hw,
    List.dropWhile_cons_of_neg (by decide), List.takeWhile_append_of_pos hw,
    List.takeWhile_cons_of_neg (by decide), List.append_nil]
  dsimp only
  rw [if_pos rfl, hr.closeGroup]
  rfl

theorem readReference_eq_some_iff : readReference t = some (w, r, x) ↔
    (∀ c ∈ w, Text.isBlank c = true) ∧ Balanced r ∧ t = withReference w r x := by
  constructor
  · intro h
    rw [readReference] at h
    split at h
    · cases h
    · rename_i c cs hdrop
      split at h
      · rename_i hc
        obtain ⟨⟨r', x'⟩, hgroup, hparts⟩ := Option.map_eq_some_iff.1 h
        obtain ⟨rfl, hg⟩ := Prod.mk.inj hparts
        obtain ⟨rfl, rfl⟩ := Prod.mk.inj hg
        obtain ⟨hr, rfl⟩ := closeGroup_eq_some_iff.1 hgroup
        refine ⟨fun c hc => List.mem_takeWhile_imp hc, hr, ?_⟩
        rw [withReference, ← hc, ← hdrop, List.takeWhile_append_dropWhile]
      · cases h
  · rintro ⟨hw, hr, rfl⟩
    exact readReference_withReference hw hr x

theorem readReference_eq_none_iff : readReference t = none ↔ ¬ StartsWithReference t := by
  rw [Option.eq_none_iff_forall_ne_some, StartsWithReference]
  simp only [not_exists, ← readReference_eq_some_iff, Prod.forall]

/-! ## Readings -/

/-- A way to read a text: up to its first bracket, if it has one, and what opens there. -/
inductive Reading where
  /-- A label between brackets, blanks, and a reference between brackets. -/
  | link (start label blanks reference rest : String)
  /-- A label between brackets without a reference behind it. -/
  | group (start label rest : String)
  /-- A bracket that nothing closes. -/
  | unclosed (start rest : String)
  /-- A text without an opening bracket. -/
  | plain (text : String)

namespace Reading

/-- The text that is read. -/
def text : Reading → String
  | link start label blanks reference rest =>
    start ++ "[" ++ label ++ "]" ++ blanks ++ "[" ++ reference ++ "]" ++ rest
  | group start label rest => start ++ "[" ++ label ++ "]" ++ rest
  | unclosed start rest => start ++ "[" ++ rest
  | plain text => text

/-- The reading says what stands in the text. -/
def IsRight : Reading → Prop
  | link start label blanks reference _ =>
    '[' ∉ start.toList ∧ Balanced label.toList ∧ Text.allBlank blanks = true ∧
      Balanced reference.toList
  | group start label rest =>
    '[' ∉ start.toList ∧ Balanced label.toList ∧ ¬ StartsWithReference rest.toList
  | unclosed start rest => '[' ∉ start.toList ∧ NeverCloses rest.toList
  | plain text => '[' ∉ text.toList

/-- What is written for the text, when `strip` writes what is not read yet. -/
def written (strip : String → String) : Reading → String
  | link start label _ _ rest => start ++ label ++ strip rest
  | group start label rest => start ++ "[" ++ label ++ "]" ++ strip rest
  | unclosed start rest => start ++ "[" ++ rest
  | plain text => text

end Reading

namespace Reading

/-- The reading of a text. -/
def of (s : String) : Reading :=
  let start := String.ofList (s.toList.takeWhile (· != '['))
  match s.toList.dropWhile (· != '[') with
  | [] => plain s
  | _ :: cs =>
    match closeGroup 0 cs with
    | none => unclosed start (String.ofList cs)
    | some (label, cs) =>
      match readReference cs with
      | none => group start (String.ofList label) (String.ofList cs)
      | some (blanks, reference, rest) =>
        link start (String.ofList label) (String.ofList blanks) (String.ofList reference)
          (String.ofList rest)

/-- The characters of the text that is read. -/
theorem toList_text : ∀ r : Reading, r.text.toList = match r with
    | link start label blanks reference rest => start.toList ++ '[' :: (label.toList ++ ']' ::
        withReference blanks.toList reference.toList rest.toList)
    | group start label rest => start.toList ++ '[' :: (label.toList ++ ']' :: rest.toList)
    | unclosed start rest => start.toList ++ '[' :: rest.toList
    | plain text => text.toList
  | link .. => by simp [text, withReference]
  | group .. => by simp [text]
  | unclosed .. => by simp [text]
  | plain _ => rfl

theorem isRight_of (s : String) : (of s).IsRight ∧ (of s).text = s := by
  have hstart : '[' ∉ s.toList.takeWhile (· != '[') := fun h => by
    simpa using List.mem_takeWhile_imp h
  have hsplit := List.takeWhile_append_dropWhile (p := (· != '[')) (l := s.toList)
  rw [← String.toList_inj, toList_text, of]
  split
  · rename_i hdrop
    rw [hdrop, List.append_nil] at hsplit
    rw [hsplit] at hstart
    exact ⟨hstart, rfl⟩
  · rename_i c cs hdrop
    have hc : c = '[' := by
      simpa [hdrop] using List.head?_dropWhile_not (· != '[') s.toList
    rw [hdrop, hc] at hsplit
    split
    · rename_i hnone
      have hnever := closeGroup_eq_none_iff.1 hnone
      simp only [IsRight, String.toList_ofList]
      exact ⟨⟨hstart, hnever⟩, hsplit⟩
    · rename_i label t hgroup
      obtain ⟨hlabel, rfl⟩ := closeGroup_eq_some_iff.1 hgroup
      split
      · rename_i hnone
        have hrest := readReference_eq_none_iff.1 hnone
        simp only [IsRight, String.toList_ofList]
        exact ⟨⟨hstart, hlabel, hrest⟩, hsplit⟩
      · rename_i w r x hsome
        obtain ⟨hw, hr, rfl⟩ := readReference_eq_some_iff.1 hsome
        simp only [IsRight, String.toList_ofList, Text.allBlank, List.all_eq_true]
        exact ⟨⟨hstart, hlabel, hw, hr⟩, hsplit⟩

theorem takeWhile_start (hu : '[' ∉ u) (x : List Char) :
    (u ++ '[' :: x).takeWhile (· != '[') = u ∧ (u ++ '[' :: x).dropWhile (· != '[') = '[' :: x := by
  have hkeep : ∀ c ∈ u, (c != '[') = true := fun c hc => by
    rw [bne_iff_ne]
    exact fun he => hu (he ▸ hc)
  rw [List.takeWhile_append_of_pos hkeep, List.dropWhile_append_of_pos hkeep]
  simp

/-- A text has no other reading that is right. -/
theorem IsRight.eq_of {r : Reading} (h : r.IsRight) : r = of r.text := by
  have htext := toList_text r
  rw [of, htext]
  cases r with
  | link start label blanks reference rest =>
    obtain ⟨hstart, hlabel, hblanks, hreference⟩ := h
    have hrest := readReference_withReference (List.all_eq_true.1 hblanks) hreference rest.toList
    obtain ⟨htake, hdrop⟩ := takeWhile_start hstart
      (label.toList ++ ']' :: withReference blanks.toList reference.toList rest.toList)
    simp [htake, hdrop, hlabel.closeGroup, hrest]
  | group start label rest =>
    obtain ⟨hstart, hlabel, hrest⟩ := h
    have hnone := readReference_eq_none_iff.2 hrest
    obtain ⟨htake, hdrop⟩ := takeWhile_start hstart (label.toList ++ ']' :: rest.toList)
    simp [htake, hdrop, hlabel.closeGroup, hnone]
  | unclosed start rest =>
    obtain ⟨hstart, hrest⟩ := h
    have hnone := closeGroup_eq_none_iff.2 hrest
    obtain ⟨htake, hdrop⟩ := takeWhile_start hstart rest.toList
    simp [htake, hdrop, hnone]
  | plain text =>
    have hkeep : ∀ c ∈ text.toList, (c != '[') = true := fun c hc => by
      rw [bne_iff_ne]
      exact fun he => h (he ▸ hc)
    have hdrop : text.toList.dropWhile (· != '[') = [] := List.dropWhile_eq_nil_iff.2 hkeep
    dsimp only
    rw [hdrop]
    rfl

end Reading

/-! ## Stripping -/

theorem stripRuns_append (hu : '[' ∉ u) (cs : List Char) :
    stripRuns (u ++ cs) = u ++ stripRuns cs := by
  induction u with
  | nil => rfl
  | cons c u ih =>
    rw [List.mem_cons, not_or] at hu
    rw [List.cons_append, stripRuns, if_neg (Ne.symm hu.1), ih hu.2, List.cons_append]

/-- What is written from an opening bracket on. -/
theorem stripRuns_open (cs : List Char) : stripRuns ('[' :: cs) =
    match closeGroup 0 cs with
    | none => '[' :: cs
    | some g =>
      match afterReference? g.2 with
      | none => '[' :: g.1 ++ ']' :: stripRuns g.2
      | some rest => g.1 ++ stripRuns rest := by
  rw [stripRuns, if_pos rfl]
  split
  · rename_i h
    rw [h]
  · rename_i g h
    rw [h]
    dsimp only
    split
    · rename_i h'
      rw [h']
    · rename_i rest h'
      rw [h']

/-- What is written for a text is what is written for its reading. -/
theorem stripReferences_text {r : Reading} (h : r.IsRight) :
    stripReferences r.text = r.written stripReferences := by
  rw [← String.toList_inj, stripReferences, String.toList_ofList, Reading.toList_text]
  cases r with
  | link start label blanks reference rest =>
    obtain ⟨hstart, hlabel, hblanks, hreference⟩ := h
    have hrest := readReference_withReference (List.all_eq_true.1 hblanks) hreference rest.toList
    rw [stripRuns_append hstart, stripRuns_open, hlabel.closeGroup]
    dsimp only
    rw [afterReference?_eq, hrest]
    simp [Reading.written, stripReferences]
  | group start label rest =>
    obtain ⟨hstart, hlabel, hrest⟩ := h
    have hnone := readReference_eq_none_iff.2 hrest
    rw [stripRuns_append hstart, stripRuns_open, hlabel.closeGroup]
    dsimp only
    rw [afterReference?_eq, hnone]
    simp [Reading.written, stripReferences]
  | unclosed start rest =>
    obtain ⟨hstart, hrest⟩ := h
    have hnone := closeGroup_eq_none_iff.2 hrest
    rw [stripRuns_append hstart, stripRuns_open, hnone]
    simp [Reading.written]
  | plain text =>
    have happend := stripRuns_append h []
    rw [List.append_nil] at happend
    rw [happend, stripRuns, List.append_nil]
    rfl

/-- What a reading leaves to be read is shorter than the text. -/
theorem Reading.written_congr {strip strip' : String → String} {r : Reading}
    (h : ∀ t, t.toList.length < r.text.toList.length → strip t = strip' t) :
    r.written strip = r.written strip' := by
  rw [toList_text] at h
  cases r with
  | link start label blanks reference rest =>
    rw [written, written, h rest (by simp [withReference]; omega)]
  | group start label rest => rw [written, written, h rest (by simp; omega)]
  | unclosed start rest => rfl
  | plain text => rfl

/-- Every text has one right reading, stripping writes for it what the reading says, and nothing
else does so for every text. -/
theorem stripReferences_reading :
    (∀ s, ∃! r : Reading, r.IsRight ∧ r.text = s) ∧
      (∀ r : Reading, r.IsRight → stripReferences r.text = r.written stripReferences) ∧
      ∀ strip : String → String,
        (∀ r : Reading, r.IsRight → strip r.text = r.written strip) → strip = stripReferences := by
  refine ⟨fun s => ⟨Reading.of s, Reading.isRight_of s, ?_⟩, fun r => stripReferences_text, ?_⟩
  · rintro r ⟨hr, rfl⟩
    exact hr.eq_of
  · intro strip hstrip
    funext s
    induction hn : s.toList.length using Nat.strong_induction_on generalizing s with
    | _ n ih =>
      obtain ⟨hright, htext⟩ := Reading.isRight_of s
      rw [← htext, hstrip _ hright, stripReferences_text hright]
      refine Reading.written_congr fun t ht => ih _ ?_ t rfl
      rw [← hn]
      rwa [htext] at ht

/-- A label keeps the brackets inside it, and the reference may stand on the next line. -/
theorem stripReferences_reading_nested :
    (Reading.link "see " "the [big] guide" "\n" "ref" " now").IsRight ∧
      (Reading.plain " now").IsRight ∧
      stripReferences "see [the [big] guide]\n[ref] now" = "see the [big] guide now" := by
  have hlink : (Reading.link "see " "the [big] guide" "\n" "ref" " now").IsRight := by
    have hlabel : Balanced "the [big] guide".toList ∧ Balanced "ref".toList := by decide
    exact ⟨by decide, hlabel.1, by decide, hlabel.2⟩
  have hplain : (Reading.plain " now").IsRight := by
    change '[' ∉ " now".toList
    decide
  refine ⟨hlink, hplain, ?_⟩
  have hrest := stripReferences_reading.2.1 _ hplain
  have hwritten := stripReferences_reading.2.1 _ hlink
  simp only [Reading.text, Reading.written] at hrest hwritten
  rw [hrest] at hwritten
  exact hwritten

end CrateBook.Markdown
