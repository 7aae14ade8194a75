import CrateBook.Listing.Count
import CrateBook.Proofs.Json.Members

/-!
# Counts add up

Every label is counted as often as it occurs (`lookup_countOf`), so the counts add up to the number
of labels (`sum_countOf`), and the section on the counts of a listing says how many pages it has
(`fragmentCountLines_eq`).
-/

namespace CrateBook.Listing

variable {counts : Counts} {labels fragments : List String} {label : String}

theorem countOf_append (labels : List String) (label : String) :
    countOf (labels ++ [label]) = (countOf labels).add label := by
  rw [countOf, List.foldl_append]
  rfl

theorem nodup_countOf (labels : List String) : ((countOf labels).map (·.1)).Nodup := by
  induction labels using List.reverseRecOn with
  | nil => exact List.nodup_nil
  | append_singleton labels label ih =>
    rw [countOf_append]
    exact Json.nodup_keys_setMember ih

/-- A label is counted as often as it occurs. -/
theorem lookup_countOf (labels : List String) (label : String) :
    (countOf labels).lookup label =
      if label ∈ labels then some (labels.count label : Int) else none := by
  induction labels using List.reverseRecOn with
  | nil => rfl
  | append_singleton labels last ih =>
    rw [countOf_append, Counts.add]
    by_cases h : label = last
    · subst h
      rw [Json.lookup_setMember_self, ih]
      by_cases hmem : label ∈ labels
      · simp [hmem]
      · simp [hmem, List.count_eq_zero_of_not_mem hmem]
    · rw [Json.lookup_setMember_of_ne h, ih]
      simp [h, Ne.symm h]

theorem sum_add (counts : Counts) (label : String) :
    ((counts.add label).map (·.2)).sum = (counts.map (·.2)).sum + 1 := by
  rw [Counts.add]
  induction counts with
  | nil => rfl
  | cons c counts ih =>
    obtain ⟨key, n⟩ := c
    rw [Json.setMember]
    split
    · rename_i h
      subst h
      simp
      omega
    · rename_i h
      rw [List.lookup_cons, beq_eq_false_iff_ne.2 (Ne.symm h)]
      rw [List.map_cons, List.sum_cons, ih]
      simp
      omega

/-- The counts add up to the number of what is counted. -/
theorem sum_countOf (labels : List String) :
    ((countOf labels).map (·.2)).sum = (labels.length : Int) := by
  induction labels using List.reverseRecOn with
  | nil => rfl
  | append_singleton labels label ih => simp [countOf_append, sum_add, ih]

theorem total_eq (counts : Counts) : counts.total = (counts.map (·.2)).sum := by
  rw [Counts.total, ← List.foldl_map (g := fun n m => n + m), List.sum_eq_foldl]

theorem total_countOf (labels : List String) : (countOf labels).total = (labels.length : Int) := by
  rw [total_eq, sum_countOf]

/-- The labels of listed pages with the numbers of pages, in the order of the labels. -/
def labelCounts (fragments : List String) : Counts :=
  (countOf (fragments.map fragmentLabel)).mergeSort fun a b => Text.le a.1 b.1

theorem perm_labelCounts (fragments : List String) :
    (labelCounts fragments).Perm (countOf (fragments.map fragmentLabel)) := List.mergeSort_perm _ _

theorem sum_labelCounts (fragments : List String) :
    ((labelCounts fragments).map (·.2)).sum = (fragments.length : Int) := by
  rw [((perm_labelCounts fragments).map _).sum_eq, sum_countOf, List.length_map]

theorem mem_labelCounts {n : Int} (h : (label, n) ∈ labelCounts fragments) :
    n = ((fragments.map fragmentLabel).count label : Int) := by
  have hmem := (perm_labelCounts fragments).mem_iff.1 h
  have hlookup := (Json.lookup_eq_some_iff_mem (nodup_countOf _)).2 hmem
  rw [lookup_countOf] at hlookup
  split at hlookup
  · exact (Option.some.inj hlookup).symm
  · cases hlookup

/-- The section on the counts of listed pages, of which there are some. -/
theorem fragmentCountLines_eq (h : fragments ≠ []) :
    fragmentCountLines fragments =
      ["## Item Counts", "", "**Total**: " ++ toString fragments.length ++ " public items", ""] ++
        (labelCounts fragments).map (fun c => "- **" ++ c.1 ++ "**: " ++ toString c.2) ++ [""] := by
  have htotal : (countOf (fragments.map fragmentLabel)).total = (fragments.length : Int) := by
    rw [total_countOf, List.length_map]
  have hpos : (fragments.length : Int) ≠ 0 := by simpa using h
  rw [fragmentCountLines, countLines, htotal]
  dsimp only
  rw [if_neg hpos]
  rfl

end CrateBook.Listing
