import Mathlib
import CrateBook.Text.Blank
import CrateBook.Text.Pieces

/-!
# Words and pieces

Blanks at the ends of a text do not change its words, and a text without blanks is one word. So it
is all that squeezing leaves when it stands between blanks (`squeeze_between_blanks`). A text has
the characters of a piece that is found in it (`mem_of_contains`), and a piece of one character is
found where that character is (`contains_singleton`). Where a piece is replaced, a text that does
not hold its first character is kept (`replaceRuns_append`).
-/

namespace CrateBook.Text

variable {s t u : String} {p q cs ds : List Char} {c : Char}

/-! ## Words -/

theorem wordRuns_cons_of_isBlank (h : isBlank c = true) (cs : List Char) :
    wordRuns (c :: cs) = wordRuns cs := by
  rw [wordRuns, List.splitOnP_cons_eq_if_modifyHead, if_pos h, List.filter_cons_of_neg (by simp)]
  rfl

theorem wordRuns_blank_append (h : ∀ c ∈ ds, isBlank c = true) (cs : List Char) :
    wordRuns (ds ++ cs) = wordRuns cs := by
  induction ds with
  | nil => rfl
  | cons d ds ih =>
    obtain ⟨hd, hds⟩ := List.forall_mem_cons.1 h
    rw [List.cons_append, wordRuns_cons_of_isBlank hd, ih hds]

theorem wordRuns_append_blank (h : ∀ c ∈ ds, isBlank c = true) (cs : List Char) :
    wordRuns (cs ++ ds) = wordRuns cs := by
  cases ds with
  | nil => rw [List.append_nil]
  | cons d ds =>
    obtain ⟨hd, hds⟩ := List.forall_mem_cons.1 h
    have hnone : wordRuns ds = [] := by
      have hblank := wordRuns_blank_append hds []
      rw [List.append_nil] at hblank
      exact hblank.trans rfl
    rw [wordRuns] at hnone
    rw [wordRuns, List.splitOnP_append_cons cs ds hd, List.filter_append, hnone, List.append_nil]
    rfl

theorem wordRuns_of_word (hne : cs ≠ []) (h : ∀ c ∈ cs, isBlank c = false) :
    wordRuns cs = [cs] := by
  rw [wordRuns, List.splitOnP_eq_singleton h, List.filter_cons_of_pos (by simp [hne])]
  rfl

theorem squeeze_of_allBlank (h : allBlank s = true) : squeeze s = "" := by
  have hwords := wordRuns_blank_append (List.all_eq_true.1 h) []
  rw [List.append_nil] at hwords
  rw [squeeze, words, hwords]
  rfl

/-- A word between blanks is all that squeezing leaves. -/
theorem squeeze_between_blanks (hs : allBlank s = true) (hne : t ≠ "")
    (ht : ∀ c ∈ t.toList, isBlank c = false) (hu : allBlank u = true) :
    squeeze (s ++ t ++ u) = t := by
  have hne' : t.toList ≠ [] := fun h => hne (String.toList_eq_nil_iff.1 h)
  rw [squeeze, words, String.toList_append, String.toList_append,
    wordRuns_append_blank (List.all_eq_true.1 hu), wordRuns_blank_append (List.all_eq_true.1 hs),
    wordRuns_of_word hne' ht]
  simp

theorem allBlank_append : allBlank (s ++ t) = (allBlank s && allBlank t) := by
  rw [allBlank, String.toList_append, List.all_append]
  rfl

/-! ## Pieces -/

theorem subset_of_after? {rest : List Char} (h : after? p cs = some rest) : p ⊆ cs := by
  induction p generalizing cs with
  | nil => exact List.nil_subset _
  | cons a p ih =>
    cases cs with
    | nil => cases h
    | cons c cs =>
      rw [after?] at h
      split at h
      · rename_i hc
        exact List.cons_subset.2 ⟨by simp [hc], List.subset_cons_of_subset _ (ih h)⟩
      · cases h

theorem subset_of_cutAt (h : (cutAt p cs).2.isSome = true) : p ⊆ cs := by
  induction cs with
  | nil =>
    obtain ⟨rest, hrest⟩ := Option.isSome_iff_exists.1 h
    exact subset_of_after? hrest
  | cons c cs ih =>
    rw [cutAt] at h
    split at h
    · exact subset_of_after? ‹_›
    · exact List.subset_cons_of_subset _ (ih h)

/-- All characters of a piece stand in a text in which the piece is found. -/
theorem mem_of_contains (h : contains s t = true) (hc : c ∈ t.toList) : c ∈ s.toList := by
  rw [contains, Bool.or_eq_true] at h
  rcases h with h | h
  · rw [List.isEmpty_iff.1 h] at hc
    cases hc
  · exact subset_of_cutAt h hc

/-- A text that does not hold the first character of a piece is kept where the piece is replaced. -/
theorem replaceRuns_append (h : c ∉ cs) (p q ds : List Char) :
    replaceRuns (c :: p) q 0 (cs ++ ds) = cs ++ replaceRuns (c :: p) q 0 ds := by
  induction cs with
  | nil => rfl
  | cons d cs ih =>
    obtain ⟨hd, hcs⟩ := not_or.1 (mt List.mem_cons.2 h)
    rw [List.cons_append, replaceRuns, after?, if_neg hd, Option.isSome_none,
      if_neg Bool.false_ne_true, ih hcs, List.cons_append]

theorem replaceRuns_of_not_mem (h : c ∉ cs) (p q : List Char) :
    replaceRuns (c :: p) q 0 cs = cs := by
  simpa [replaceRuns] using replaceRuns_append h p q []

/-- Replacing adds only characters of the new piece. -/
theorem mem_replaceRuns {skip : Nat} {d : Char}
    (h : d ∈ replaceRuns p q skip cs) : d ∈ q ∨ d ∈ cs := by
  fun_induction replaceRuns p q skip cs with
  | case1 => cases h
  | case2 c cs n ih => exact (ih h).imp_right (List.mem_cons_of_mem _)
  | case3 c cs _ ih =>
    rcases List.mem_append.1 h with h | h
    · exact .inl h
    · exact (ih h).imp_right (List.mem_cons_of_mem _)
  | case4 c cs _ ih =>
    rcases List.mem_cons.1 h with rfl | h
    · exact .inr List.mem_cons_self
    · exact (ih h).imp_right (List.mem_cons_of_mem _)

theorem cutAt_singleton (h : c ∈ cs) : (cutAt [c] cs).2.isSome = true := by
  induction cs with
  | nil => cases h
  | cons d cs ih =>
    by_cases hd : c = d
    · rw [cutAt, after?, if_pos hd]
      rfl
    · rw [cutAt, after?, if_neg hd]
      exact ih ((List.mem_cons.1 h).resolve_left hd)

theorem contains_singleton (h : c ∈ s.toList) : contains s (String.ofList [c]) = true := by
  rw [contains, String.toList_ofList, cutAt_singleton h, Bool.or_true]

end CrateBook.Text
