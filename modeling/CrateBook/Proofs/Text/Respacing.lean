import Mathlib
import CrateBook.Proofs.Text.Lines
import CrateBook.Proofs.Text.Ordinary
import CrateBook.Proofs.Text.Words

/-!
# Texts with other blanks

Two texts are `Respaced` when one comes from the other by putting blanks in the place of blanks,
with at least one on either side. Then they have the same words, so they are squeezed to the same
line (`Respaced.squeeze_eq`), and pieces without blanks stand at the same places in them
(`Respaced.replaceRuns`). When no line ends among the blanks, they have the same number of lines
and these are respaced one by one (`Respaced.lines`).
-/

namespace CrateBook.Text

/-- Runs of characters of the class `p` stand in the place of runs of such characters. -/
inductive Respaced (p : Char → Bool) : List Char → List Char → Prop
  | nil : Respaced p [] []
  | keep (c : Char) {cs ds : List Char} : Respaced p cs ds → Respaced p (c :: cs) (c :: ds)
  | blanks {w w' cs ds : List Char} : w ≠ [] → w' ≠ [] → (∀ c ∈ w, p c = true) →
    (∀ c ∈ w', p c = true) → Respaced p cs ds → Respaced p (w ++ cs) (w' ++ ds)

variable {p q : Char → Bool} {cs ds es fs w w' : List Char} {s t : String} {a : Char}

namespace Respaced

theorem refl (p : Char → Bool) : ∀ cs : List Char, Respaced p cs cs
  | [] => .nil
  | c :: cs => .keep c (refl p cs)

theorem mono (h : Respaced p cs ds) (hpq : ∀ c, p c = true → q c = true) : Respaced q cs ds := by
  induction h with
  | nil => exact .nil
  | keep c _ ih => exact .keep c ih
  | blanks hne hne' hw hw' _ ih =>
    exact .blanks hne hne' (fun c hc => hpq c (hw c hc)) (fun c hc => hpq c (hw' c hc)) ih

theorem append (h : Respaced p cs ds) (h' : Respaced p es fs) :
    Respaced p (cs ++ es) (ds ++ fs) := by
  induction h with
  | nil => exact h'
  | keep c _ ih => exact .keep c ih
  | blanks hne hne' hw hw' _ ih =>
    rw [List.append_assoc, List.append_assoc]
    exact .blanks hne hne' hw hw' ih

/-- One run of blanks is respaced. -/
theorem between (hne : w ≠ []) (hne' : w' ≠ []) (hw : ∀ c ∈ w, p c = true)
    (hw' : ∀ c ∈ w', p c = true) (cs ds : List Char) :
    Respaced p (cs ++ (w ++ ds)) (cs ++ (w' ++ ds)) :=
  (refl p cs).append (.blanks hne hne' hw hw' (refl p ds))

theorem reverse (h : Respaced p cs ds) : Respaced p cs.reverse ds.reverse := by
  induction h with
  | nil => exact .nil
  | keep c _ ih =>
    rw [List.reverse_cons, List.reverse_cons]
    exact ih.append (refl p [c])
  | @blanks w w' _ _ hne hne' hw hw' _ ih =>
    have hruns : Respaced p (w.reverse ++ []) (w'.reverse ++ []) :=
      .blanks (by simpa using hne) (by simpa using hne') (by simpa using hw) (by simpa using hw')
        .nil
    rw [List.append_nil, List.append_nil] at hruns
    rw [List.reverse_append, List.reverse_append]
    exact ih.append hruns

theorem map {f : Char → Char} (h : Respaced p cs ds) (hf : ∀ c, p c = true → p (f c) = true) :
    Respaced p (cs.map f) (ds.map f) := by
  induction h with
  | nil => exact .nil
  | keep c _ ih => exact .keep (f c) ih
  | blanks hne hne' hw hw' _ ih =>
    rw [List.map_append, List.map_append]
    refine .blanks (by simpa using hne) (by simpa using hne') ?_ ?_ ih
    · exact List.forall_mem_map.2 fun c hc => hf c (hw c hc)
    · exact List.forall_mem_map.2 fun c hc => hf c (hw' c hc)

theorem eq_nil_iff (h : Respaced p cs ds) : cs = [] ↔ ds = [] := by
  cases h with
  | nil => exact Iff.rfl
  | keep c _ => exact iff_of_false (by simp) (by simp)
  | blanks hne hne' _ _ _ => exact iff_of_false (by simp [hne]) (by simp [hne'])

theorem not_mem (ha : p a = false) (hw : ∀ c ∈ w, p c = true) : a ∉ w := fun hmem => by
  rw [hw a hmem] at ha
  cases ha

/-- What is not of the class stays. -/
theorem mem_iff (h : Respaced p cs ds) (ha : p a = false) : a ∈ cs ↔ a ∈ ds := by
  induction h with
  | nil => exact Iff.rfl
  | keep c _ ih =>
    rw [List.mem_cons, List.mem_cons]
    exact or_congr Iff.rfl ih
  | blanks _ _ hw hw' _ ih =>
    rw [List.mem_append, List.mem_append, or_iff_right (not_mem ha hw),
      or_iff_right (not_mem ha hw')]
    exact ih

/-- What is not of the class stays in its place at the start. -/
theorem head?_eq_some_iff (h : Respaced p cs ds) (ha : p a = false) :
    cs.head? = some a ↔ ds.head? = some a := by
  have hnot {w : List Char} (hne : w ≠ []) (hw : ∀ c ∈ w, p c = true) (cs : List Char) :
      (w ++ cs).head? ≠ some a := by
    obtain ⟨c, w, rfl⟩ := List.exists_cons_of_ne_nil hne
    rintro hhead
    obtain rfl := Option.some.inj hhead
    rw [hw c List.mem_cons_self] at ha
    cases ha
  cases h with
  | nil => exact Iff.rfl
  | keep c _ => exact Iff.rfl
  | blanks hne hne' hw hw' _ => exact iff_of_false (hnot hne hw _) (hnot hne' hw' _)

theorem all_eq (h : Respaced p cs ds) (hp : ∀ c, p c = true → q c = true) :
    cs.all q = ds.all q := by
  have hall {w : List Char} (hw : ∀ c ∈ w, p c = true) : w.all q = true :=
    List.all_eq_true.2 fun c hc => hp c (hw c hc)
  induction h with
  | nil => rfl
  | keep c _ ih => rw [List.all_cons, List.all_cons, ih]
  | blanks _ _ hw hw' _ ih => rw [List.all_append, List.all_append, hall hw, hall hw', ih]

/-- What is left behind the first characters of a class that holds the blanks. -/
theorem dropWhile (h : Respaced p cs ds) (hp : ∀ c, p c = true → q c = true) :
    Respaced p (cs.dropWhile q) (ds.dropWhile q) := by
  induction h with
  | nil => exact .nil
  | keep c h ih =>
    cases hc : q c with
    | true =>
      rw [List.dropWhile_cons_of_pos hc, List.dropWhile_cons_of_pos hc]
      exact ih
    | false =>
      rw [List.dropWhile_cons_of_neg (by simp [hc]), List.dropWhile_cons_of_neg (by simp [hc])]
      exact .keep c h
  | blanks _ _ hw hw' _ ih =>
    rw [List.dropWhile_append_of_pos fun c hc => hp c (hw c hc),
      List.dropWhile_append_of_pos fun c hc => hp c (hw' c hc)]
    exact ih

end Respaced

/-! ## Words -/

/-- A blank ends a word. -/
theorem wordRuns_append_cons (ha : isBlank a = true) (cs ds : List Char) :
    wordRuns (cs ++ a :: ds) = wordRuns cs ++ wordRuns ds := by
  rw [wordRuns, List.splitOnP_append_cons cs ds ha, List.filter_append]
  rfl

/-- A text begins with a word exactly when it does not begin with a blank. -/
theorem wordRuns_eq (cs : List Char) : wordRuns cs =
    [cs.takeWhile (!isBlank ·)].filter (!·.isEmpty) ++
      wordRuns (cs.dropWhile (!isBlank ·)) := by
  have hword : wordRuns (cs.takeWhile (!isBlank ·)) =
      [cs.takeWhile (!isBlank ·)].filter (!·.isEmpty) := by
    rw [wordRuns, List.splitOnP_eq_singleton fun c hc => by simpa using List.mem_takeWhile_imp hc]
  rw [← hword]
  conv_lhs => rw [← List.takeWhile_append_dropWhile (p := (!isBlank ·)) (l := cs)]
  cases hrest : cs.dropWhile (!isBlank ·) with
  | nil => rw [List.append_nil]; exact (List.append_nil _).symm
  | cons c rest =>
    have hc : isBlank c = true := by
      simpa [hrest] using List.head?_dropWhile_not (!isBlank ·) cs
    rw [wordRuns_append_cons hc, wordRuns_cons_of_isBlank hc]

/-- Behind blanks no word has begun. -/
theorem takeWhile_blank_append (hne : w ≠ []) (hw : ∀ c ∈ w, isBlank c = true) (cs : List Char) :
    (w ++ cs).takeWhile (!isBlank ·) = [] ∧
      wordRuns ((w ++ cs).dropWhile (!isBlank ·)) = wordRuns cs := by
  obtain ⟨c, w, rfl⟩ := List.exists_cons_of_ne_nil hne
  have hc := hw c List.mem_cons_self
  rw [List.cons_append, List.takeWhile_cons_of_neg (by simp [hc]),
    List.dropWhile_cons_of_neg (by simp [hc]), ← List.cons_append, wordRuns_blank_append hw]
  exact ⟨rfl, rfl⟩

namespace Respaced

variable (hp : ∀ c, p c = true → isBlank c = true)
include hp

/-- Respaced texts begin with the same word, and have the same words behind it. -/
theorem wordRuns_split (h : Respaced p cs ds) :
    cs.takeWhile (!isBlank ·) = ds.takeWhile (!isBlank ·) ∧
      wordRuns (cs.dropWhile (!isBlank ·)) = wordRuns (ds.dropWhile (!isBlank ·)) := by
  have hruns {w w' cs ds : List Char} (hne : w ≠ []) (hne' : w' ≠ [])
      (hw : ∀ c ∈ w, isBlank c = true) (hw' : ∀ c ∈ w', isBlank c = true)
      (ih : cs.takeWhile (!isBlank ·) = ds.takeWhile (!isBlank ·) ∧
        wordRuns (cs.dropWhile (!isBlank ·)) = wordRuns (ds.dropWhile (!isBlank ·))) :
      (w ++ cs).takeWhile (!isBlank ·) = (w' ++ ds).takeWhile (!isBlank ·) ∧
        wordRuns ((w ++ cs).dropWhile (!isBlank ·)) =
          wordRuns ((w' ++ ds).dropWhile (!isBlank ·)) := by
    obtain ⟨htake, hdrop⟩ := takeWhile_blank_append hne hw cs
    obtain ⟨htake', hdrop'⟩ := takeWhile_blank_append hne' hw' ds
    rw [htake, htake', hdrop, hdrop', wordRuns_eq cs, wordRuns_eq ds, ih.1, ih.2]
    exact ⟨rfl, rfl⟩
  induction h with
  | nil => exact ⟨rfl, rfl⟩
  | keep c _ ih =>
    cases hc : isBlank c with
    | true =>
      have hne : [c] ≠ [] := List.cons_ne_nil c []
      exact hruns hne hne (by simpa) (by simpa) ih
    | false =>
      rw [List.takeWhile_cons_of_pos (by simp [hc]), List.takeWhile_cons_of_pos (by simp [hc]),
        List.dropWhile_cons_of_pos (by simp [hc]), List.dropWhile_cons_of_pos (by simp [hc]), ih.1]
      exact ⟨rfl, ih.2⟩
  | blanks hne hne' hw hw' _ ih =>
    exact hruns hne hne' (fun c hc => hp c (hw c hc)) (fun c hc => hp c (hw' c hc)) ih

/-- Respaced texts have the same words. -/
theorem squeeze_eq (h : Respaced p s.toList t.toList) : squeeze s = squeeze t := by
  obtain ⟨htake, hdrop⟩ := h.wordRuns_split hp
  rw [squeeze, squeeze, words, words, wordRuns_eq s.toList, wordRuns_eq t.toList, htake, hdrop]

theorem allBlank_eq (h : Respaced p s.toList t.toList) : allBlank s = allBlank t :=
  h.all_eq hp

theorem trim (h : Respaced p s.toList t.toList) :
    Respaced p (trim s).toList (trim t).toList := by
  have hstart := h.dropWhile hp
  have hend := (hstart.reverse.dropWhile hp).reverse
  simpa only [Text.trim, trimOf, trimEndOf, trimStartOf, dropEndWhile, String.toList_ofList]
    using hend

end Respaced

/-! ## Pieces -/

namespace Respaced

variable {pat : List Char}

/-- A piece that has no character of the class stands at the start of both or of none. -/
theorem after? (hpat : ∀ a ∈ pat, p a = false) (h : Respaced p cs ds) :
    Option.Rel (Respaced p) (after? pat cs) (after? pat ds) := by
  induction pat generalizing cs ds with
  | nil => exact .some h
  | cons a pat ih =>
    obtain ⟨ha, hpat⟩ := List.forall_mem_cons.1 hpat
    have hnone {w : List Char} (hne : w ≠ []) (hw : ∀ c ∈ w, p c = true) (cs : List Char) :
        Text.after? (a :: pat) (w ++ cs) = none := by
      obtain ⟨c, w, rfl⟩ := List.exists_cons_of_ne_nil hne
      rw [List.cons_append, Text.after?, if_neg (List.ne_of_not_mem_cons (not_mem ha hw))]
    cases h with
    | nil => exact .none
    | keep c h =>
      rw [Text.after?, Text.after?]
      split
      · exact ih hpat h
      · exact .none
    | blanks hne hne' hw hw' _ =>
      rw [hnone hne hw, hnone hne' hw']
      exact .none

/-- A piece that has no character of the class is replaced at the same places. -/
theorem replaceRuns (hpat : ∀ c ∈ a :: pat, p c = false) (q : List Char)
    (h : Respaced p cs ds) :
    Respaced p (replaceRuns (a :: pat) q 0 cs) (replaceRuns (a :: pat) q 0 ds) := by
  induction hn : cs.length using Nat.strong_induction_on generalizing cs ds with
  | _ n ih =>
    subst hn
    have ha : p a = false := hpat a List.mem_cons_self
    cases h with
    | nil => exact .nil
    | @keep c cs ds h =>
      have hafter := (h.keep c).after? hpat
      rw [Text.replaceRuns, Text.replaceRuns]
      cases hc : Text.after? (a :: pat) (c :: cs) with
      | none =>
        rw [hc] at hafter
        generalize Text.after? (a :: pat) (c :: ds) = o at hafter ⊢
        cases hafter
        exact .keep c (ih cs.length (by simp) h rfl)
      | some r =>
        rw [hc] at hafter
        cases hd : Text.after? (a :: pat) (c :: ds) with
        | none => rw [hd] at hafter; cases hafter
        | some r' =>
          rw [hd] at hafter
          cases hafter with
          | some hr =>
          obtain ⟨-, hcs⟩ : c = a ∧ cs = pat ++ r := List.cons.inj (eq_append_of_after? hc)
          obtain ⟨-, hds⟩ : c = a ∧ ds = pat ++ r' := List.cons.inj (eq_append_of_after? hd)
          rw [Option.isSome_some, if_pos rfl, Option.isSome_some, if_pos rfl, replaceRuns_drop,
            replaceRuns_drop _ _ _ ds, hcs, hds, List.length_cons, Nat.add_sub_cancel,
            List.drop_left, List.drop_left]
          refine (refl p q).append (ih r.length ?_ hr rfl)
          rw [hcs, List.length_cons, List.length_append]
          omega
    | @blanks w w' cs ds hne hne' hw hw' h =>
      rw [replaceRuns_append (not_mem ha hw), replaceRuns_append (not_mem ha hw')]
      refine .blanks hne hne' hw hw' (ih cs.length ?_ h rfl)
      have := List.length_pos_of_ne_nil hne
      rw [List.length_append]
      omega

end Respaced

/-! ## Lines -/

/-- A run without line ends stands on the line that goes on behind it. -/
theorem lineRuns_append (hne : w ≠ []) (hw : ∀ c ∈ w, isLineEnd c = false) (cs : List Char) :
    lineRuns (w ++ cs) = match lineRuns cs with
      | [] => [w]
      | l :: ls => (w ++ l) :: ls := by
  induction w with
  | nil => exact absurd rfl hne
  | cons c w ih =>
    obtain ⟨hc, hw⟩ := List.forall_mem_cons.1 hw
    rw [List.cons_append, lineRuns_cons_of_not_isLineEnd hc]
    cases w with
    | nil => rw [List.nil_append]; cases lineRuns cs <;> rfl
    | cons d w => rw [ih (by simp) hw]; cases lineRuns cs <;> rfl

/-- A line end begins a line, unless it is a carriage return before a line feed. -/
theorem lineRuns_cons_of_isLineEnd (ha : isLineEnd a = true) (cs : List Char) :
    lineRuns (a :: cs) =
      if a = '\r' ∧ cs.head? = some '\n' then lineRuns cs else [] :: lineRuns cs := by
  split
  · rename_i h
    obtain ⟨rfl, hhead⟩ := h
    obtain ⟨cs, rfl⟩ := List.head?_eq_some_iff.1 hhead
    rw [lineRuns_feed]
    rfl
  · rename_i h
    rw [lineRuns.eq_3 _ _ (by rintro cs rfl rfl; exact h ⟨rfl, rfl⟩), if_pos ha]

/-- Texts that are respaced within their lines have lines that are respaced. -/
theorem Respaced.lineRuns (hp : ∀ c, p c = true → isLineEnd c = false) (h : Respaced p cs ds) :
    List.Forall₂ (Respaced p) (lineRuns cs) (lineRuns ds) := by
  have hruns {w w' cs ds : List Char} (hne : w ≠ []) (hne' : w' ≠ [])
      (hw : ∀ c ∈ w, isLineEnd c = false) (hw' : ∀ c ∈ w', isLineEnd c = false)
      (hrun : ∀ {l m}, Respaced p l m → Respaced p (w ++ l) (w' ++ m))
      (ih : List.Forall₂ (Respaced p) (Text.lineRuns cs) (Text.lineRuns ds)) :
      List.Forall₂ (Respaced p) (Text.lineRuns (w ++ cs)) (Text.lineRuns (w' ++ ds)) := by
    rw [lineRuns_append hne hw, lineRuns_append hne' hw']
    generalize Text.lineRuns cs = ls at ih ⊢
    generalize Text.lineRuns ds = ms at ih ⊢
    cases ih with
    | nil =>
      have hlast := hrun .nil
      rw [List.append_nil, List.append_nil] at hlast
      exact .cons hlast .nil
    | cons hl hls => exact .cons (hrun hl) hls
  induction h with
  | nil => exact .nil
  | @keep c cs ds h ih =>
    cases hc : isLineEnd c with
    | false =>
      have hne : [c] ≠ [] := List.cons_ne_nil c []
      exact hruns hne hne (by simpa) (by simpa) (.keep c) ih
    | true =>
      have hfeed : p '\n' = false := Bool.eq_false_iff.2 fun hn => absurd (hp _ hn) (by decide)
      rw [lineRuns_cons_of_isLineEnd hc, lineRuns_cons_of_isLineEnd hc]
      by_cases hhead : c = '\r' ∧ cs.head? = some '\n'
      · rw [if_pos hhead, if_pos ⟨hhead.1, (h.head?_eq_some_iff hfeed).1 hhead.2⟩]
        exact ih
      · rw [if_neg hhead, if_neg fun h' => hhead ⟨h'.1, (h.head?_eq_some_iff hfeed).2 h'.2⟩]
        exact .cons .nil ih
  | blanks hne hne' hw hw' _ ih =>
    exact hruns hne hne' (fun c hc => hp c (hw c hc)) (fun c hc => hp c (hw' c hc))
      (.blanks hne hne' hw hw') ih

end CrateBook.Text
