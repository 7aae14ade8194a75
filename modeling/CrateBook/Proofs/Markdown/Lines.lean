import Mathlib
import CrateBook.Proofs.Text.Lines

/-!
# Lines of Markdown

A reader of Markdown ends a line at a line feed, at a carriage return and at the two together, and
nowhere else. Parts joined by line feeds are read as the lines of the parts, one part after another
(`sourceLines_intercalate`), and a part is one line when none of these characters stands in it
(`length_sourceLines_eq_one_iff`).
-/

namespace CrateBook.Markdown

open Text (feedRuns)

/-- The lines of a Markdown text, without their ends. Behind the last end there is one more line. -/
def sourceLines (s : String) : List String := Text.splitOnChar (Text.withLineFeeds s) '\n'

/-- The lines of a text that a line feed is put behind, which ends one line with a carriage return
at the end of the text. -/
def endedLines (s : String) : List String := (sourceLines (s ++ "\n")).dropLast

/-- No line of Markdown ends in the text. -/
def IsOneLine (s : String) : Prop := ∀ c ∈ s.toList, c ≠ '\n' ∧ c ≠ '\r'

instance (s : String) : Decidable (IsOneLine s) :=
  decidable_of_iff (s.toList.all (fun c => c != '\n' && c != '\r') = true) (by simp [IsOneLine])

variable {s t sep : String} {cs ds : List Char} {parts : List String}

theorem sourceLines_eq (s : String) :
    sourceLines s = ((feedRuns s.toList).splitOn '\n').map String.ofList := by
  rw [sourceLines, Text.splitOnChar, Text.withLineFeeds, String.toList_ofList]

theorem isOneLine_of_isLine (h : Text.IsLine s) : IsOneLine s := by
  intro c hc
  refine ⟨?_, ?_⟩ <;> rintro rfl <;> exact absurd (h _ hc) (by decide)

theorem isOneLine_append_iff : IsOneLine (s ++ t) ↔ IsOneLine s ∧ IsOneLine t := by
  rw [IsOneLine, String.toList_append, List.forall_mem_append]
  rfl

theorem isOneLine_intercalate_iff (hsep : IsOneLine sep) :
    IsOneLine (sep.intercalate parts) ↔ ∀ m ∈ parts, IsOneLine m := by
  induction parts with
  | nil =>
    rw [String.intercalate_nil]
    exact iff_of_true (by decide) (by simp)
  | cons m parts ih =>
    cases parts with
    | nil => simp
    | cons m' parts =>
      rw [String.intercalate_cons_of_ne_nil (by simp), isOneLine_append_iff, isOneLine_append_iff,
        ih, and_iff_left hsep, ← List.forall_mem_cons]

/-! ## Cutting -/

theorem feedRuns_append_feed (cs ds : List Char) :
    feedRuns (cs ++ '\n' :: ds) = feedRuns (cs ++ ['\n']) ++ feedRuns ds := by
  fun_induction feedRuns cs with
  | case1 => rfl
  | case2 cs ih => exact congrArg (List.cons '\n') ih
  | case3 c cs hreturn ih =>
    -- A carriage return at the very end makes one line end with the line feed.
    by_cases hlast : c = '\r' ∧ cs = []
    · obtain ⟨rfl, rfl⟩ := hlast
      rfl
    · rw [Text.feedRuns_cons_append hreturn hlast, Text.feedRuns_cons_append hreturn hlast, ih,
        List.cons_append]

theorem feedRuns_concat_feed (h : cs.getLast? ≠ some '\r') :
    feedRuns (cs ++ ['\n']) = feedRuns cs ++ ['\n'] := by
  fun_induction feedRuns cs with
  | case1 => rfl
  | case2 cs ih =>
    have hcs : cs.getLast? ≠ some '\r' := fun he => h (by simp [List.getLast?_cons, he])
    exact congrArg (List.cons '\n') (ih hcs)
  | case3 c cs hreturn ih =>
    have hcs : cs.getLast? ≠ some '\r' := fun he => h (by simp [List.getLast?_cons, he])
    have hlast : ¬ (c = '\r' ∧ cs = []) := by
      rintro ⟨rfl, rfl⟩
      exact h rfl
    rw [Text.feedRuns_cons_append hreturn hlast, ih hcs, List.cons_append]

theorem exists_feedRuns_concat_feed (cs : List Char) :
    ∃ ds, feedRuns (cs ++ ['\n']) = ds ++ ['\n'] := by
  fun_induction feedRuns cs with
  | case1 => exact ⟨[], rfl⟩
  | case2 cs ih =>
    obtain ⟨ds, hds⟩ := ih
    exact ⟨'\n' :: ds, congrArg (List.cons '\n') hds⟩
  | case3 c cs hreturn ih =>
    obtain ⟨ds, hds⟩ := ih
    by_cases hlast : c = '\r' ∧ cs = []
    · obtain ⟨rfl, rfl⟩ := hlast
      exact ⟨[], rfl⟩
    · refine ⟨(if c = '\r' then '\n' else c) :: ds, ?_⟩
      rw [Text.feedRuns_cons_append hreturn hlast, hds, List.cons_append]

/-- A line feed ends a line, and so do the line feed and a carriage return before it. -/
theorem sourceLines_ended_append (s t : String) :
    sourceLines (s ++ "\n" ++ t) = endedLines s ++ sourceLines t := by
  obtain ⟨ds, hds⟩ := exists_feedRuns_concat_feed s.toList
  have hs : (s ++ "\n").toList = s.toList ++ ['\n'] := by simp
  have hst : (s ++ "\n" ++ t).toList = s.toList ++ '\n' :: t.toList := by simp
  rw [endedLines, sourceLines_eq, sourceLines_eq, sourceLines_eq, hst, feedRuns_append_feed, hs,
    hds, List.append_assoc, List.singleton_append, List.splitOn_append_cons_self,
    List.splitOn_append_cons_self, List.splitOn_nil, List.map_append, List.map_append,
    List.map_singleton, List.dropLast_concat]

theorem endedLines_eq_sourceLines (h : s.toList.getLast? ≠ some '\r') :
    endedLines s = sourceLines s := by
  have hs : (s ++ "\n").toList = s.toList ++ ['\n'] := by simp
  rw [endedLines, sourceLines_eq, sourceLines_eq, hs, feedRuns_concat_feed h,
    List.splitOn_append_cons_self, List.splitOn_nil, List.map_append, List.map_singleton,
    List.dropLast_concat]

theorem sourceLines_append_feed (h : s.toList.getLast? ≠ some '\r') (t : String) :
    sourceLines (s ++ "\n" ++ t) = sourceLines s ++ sourceLines t := by
  rw [sourceLines_ended_append, endedLines_eq_sourceLines h]

/-- Parts joined by line feeds are read one after another. -/
theorem sourceLines_intercalate (hne : parts ≠ [])
    (h : ∀ m ∈ parts, m.toList.getLast? ≠ some '\r') :
    sourceLines ("\n".intercalate parts) = parts.flatMap sourceLines := by
  induction parts with
  | nil => exact absurd rfl hne
  | cons m parts ih =>
    obtain ⟨hm, hparts⟩ := List.forall_mem_cons.1 h
    cases parts with
    | nil => simp
    | cons m' parts =>
      rw [String.intercalate_cons_of_ne_nil (by simp), sourceLines_append_feed hm,
        ih (by simp) hparts]
      rfl

/-! ## Counting -/

theorem length_splitOn (c : Char) (cs : List Char) : (cs.splitOn c).length = cs.count c + 1 := by
  induction cs with
  | nil => simp
  | cons d cs ih =>
    rw [List.splitOn_cons_eq_if_modifyHead, List.count_cons]
    split <;> simp [ih]

theorem length_sourceLines (s : String) :
    (sourceLines s).length = (feedRuns s.toList).count '\n' + 1 := by
  rw [sourceLines_eq, List.length_map, length_splitOn]

theorem feed_mem_feedRuns_iff : '\n' ∈ feedRuns cs ↔ '\n' ∈ cs ∨ '\r' ∈ cs := by
  fun_induction feedRuns cs with
  | case1 => simp
  | case2 cs ih => simp
  | case3 c cs hreturn ih =>
    rw [List.mem_cons, ih, List.mem_cons, List.mem_cons]
    by_cases hc : c = '\r'
    · simp [hc]
    · simp [hc, Ne.symm hc, or_assoc]

/-- A text is one line exactly when no line ends in it. -/
theorem length_sourceLines_eq_one_iff : (sourceLines s).length = 1 ↔ IsOneLine s := by
  rw [length_sourceLines, Nat.add_eq_right, List.count_eq_zero, feed_mem_feedRuns_iff, not_or]
  exact ⟨fun h c hc => ⟨fun he => h.1 (he ▸ hc), fun he => h.2 (he ▸ hc)⟩,
    fun h => ⟨fun hc => (h _ hc).1 rfl, fun hc => (h _ hc).2 rfl⟩⟩

theorem length_le_length_flatMap (parts : List String) :
    parts.length ≤ (parts.flatMap sourceLines).length := by
  induction parts with
  | nil => exact Nat.le_refl 0
  | cons m parts ih =>
    rw [List.flatMap_cons, List.length_cons, List.length_append, length_sourceLines]
    omega

/-- Parts that are read as no more lines than there are parts are single lines. -/
theorem isOneLine_of_length_flatMap (h : (parts.flatMap sourceLines).length = parts.length) :
    ∀ m ∈ parts, IsOneLine m := by
  induction parts with
  | nil => simp
  | cons m parts ih =>
    have hrest := length_le_length_flatMap parts
    have hm := length_sourceLines m
    rw [List.flatMap_cons, List.length_cons, List.length_append] at h
    exact List.forall_mem_cons.2 ⟨length_sourceLines_eq_one_iff.1 (by omega), ih (by omega)⟩

theorem IsOneLine.sourceLines (h : IsOneLine s) : sourceLines s = [s] := by
  have hreturn : '\r' ∉ s.toList := fun hc => (h _ hc).2 rfl
  have hfeed : '\n' ∉ s.toList := fun hc => (h _ hc).1 rfl
  rw [Markdown.sourceLines, Text.withLineFeeds_eq_self hreturn, Text.splitOnChar,
    List.splitOn_eq_singleton hfeed, List.map_singleton, String.ofList_toList]

end CrateBook.Markdown
