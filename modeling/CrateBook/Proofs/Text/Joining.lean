import Mathlib
import CrateBook.Text.Lines
import CrateBook.Text.Pieces

/-!
# Joined and split texts

What stands in a joined text stands in its separator or in one of its parts
(`mem_of_mem_intercalate`). A text without carriage returns has the line ends that reading gives it
(`withLineFeeds_eq_self`).
-/

namespace CrateBook.Text

theorem mem_of_mem_intercalate {sep : String} {parts : List String} {c : Char}
    (h : c ∈ (sep.intercalate parts).toList) :
    c ∈ sep.toList ∨ ∃ part ∈ parts, c ∈ part.toList := by
  induction parts with
  | nil => simp at h
  | cons part parts ih =>
    cases parts with
    | nil => exact .inr ⟨part, List.mem_singleton_self _, by simpa using h⟩
    | cons part' parts =>
      rw [String.intercalate_cons_cons, String.toList_append, String.toList_append,
        List.mem_append, List.mem_append] at h
      rcases h with (h | h) | h
      · exact .inr ⟨part, List.mem_cons_self, h⟩
      · exact .inl h
      · rcases ih h with h | ⟨part, hpart, h⟩
        · exact .inl h
        · exact .inr ⟨part, List.mem_cons_of_mem _ hpart, h⟩

theorem intercalate_concat (sep : String) (init : List String) (last : String) :
    ∃ before, sep.intercalate (init ++ [last]) = before ++ last := by
  cases init with
  | nil => exact ⟨"", by simp⟩
  | cons first init =>
    refine ⟨sep.intercalate (first :: init) ++ sep, ?_⟩
    rw [String.intercalate_append_of_ne_nil (by simp) (by simp), String.intercalate_singleton]

/-- Joined parts begin as the first one does, if there is anything in it. -/
theorem head?_intercalate (sep : String) (parts : List String) {first : String}
    (h : first ≠ "") :
    (sep.intercalate (first :: parts)).toList.head? = first.toList.head? := by
  have hne : first.toList ≠ [] := fun hnil => h (String.toList_eq_nil_iff.1 hnil)
  cases parts with
  | nil => rw [String.intercalate_singleton]
  | cons part parts =>
    rw [String.intercalate_cons_cons, String.append_assoc, String.toList_append,
      List.head?_append_of_ne_nil _ hne]

/-- Joined parts end as the last one does, if there is anything in it. -/
theorem getLast?_intercalate {sep last : String} {init : List String} (h : last ≠ "") :
    (sep.intercalate (init ++ [last])).toList.getLast? = last.toList.getLast? := by
  obtain ⟨before, hbefore⟩ := intercalate_concat sep init last
  have hne : last.toList ≠ [] := fun hnil => h (String.toList_eq_nil_iff.1 hnil)
  rw [hbefore, String.toList_append, List.getLast?_append_of_ne_nil _ hne]

/-- Parts with separators between them are the first part and the others, each after a
separator. -/
theorem intercalate_cons (sep first : String) (parts : List String) :
    sep.intercalate (first :: parts) = first ++ String.join (parts.map (sep ++ ·)) := by
  induction parts generalizing first with
  | nil => simp
  | cons part parts ih =>
    rw [String.intercalate_cons_cons, ih, List.map_cons, String.join_cons]
    simp [String.append_assoc]

theorem after?_append (p rest : List Char) : after? p (p ++ rest) = some rest := by
  induction p with
  | nil => cases rest <;> rfl
  | cons c p ih => rw [List.cons_append, after?, if_pos rfl, ih]

/-- Text behind a carriage return does not change it, unless the carriage return came last. -/
theorem feedRuns_cons_append {c : Char} {cs : List Char}
    (hreturn : ∀ ds, c = '\r' → cs = '\n' :: ds → False) (hlast : ¬ (c = '\r' ∧ cs = []))
    (es : List Char) :
    feedRuns (c :: cs ++ es) = (if c = '\r' then '\n' else c) :: feedRuns (cs ++ es) := by
  rw [List.cons_append, feedRuns.eq_3]
  rintro fs hc hes
  cases cs with
  | nil => exact hlast ⟨hc, rfl⟩
  | cons d cs =>
    obtain ⟨rfl, -⟩ := List.cons.inj hes
    exact hreturn cs hc rfl

theorem feedRuns_eq_self {cs : List Char} (h : '\r' ∉ cs) : feedRuns cs = cs := by
  induction cs with
  | nil => rfl
  | cons c cs ih =>
    have hc : c ≠ '\r' := fun e => h (e ▸ List.mem_cons_self)
    have hcs := ih fun hmem => h (List.mem_cons_of_mem _ hmem)
    rw [feedRuns, if_neg hc, hcs]
    rintro _ rfl
    exact absurd rfl hc

theorem withLineFeeds_eq_self {s : String} (h : '\r' ∉ s.toList) : withLineFeeds s = s := by
  rw [withLineFeeds, feedRuns_eq_self h, String.ofList_toList]

end CrateBook.Text
