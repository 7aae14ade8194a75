import CrateBook.Markdown.Basic
import CrateBook.Proofs.Markdown.Lines
import CrateBook.Proofs.Text.Words

/-!
# The bars of a table

A reader takes a bar for the edge of a cell, unless a backslash takes the bar with it: read from the
left, a backslash takes the character behind it, so of two backslashes the second one takes nothing.
Putting a backslash before every bar of a text therefore keeps the bars that were open and opens
those that were kept (`openBars_escape`). A table is rectangular exactly when every text in it is
one line without open bars (`isRectangular_table_iff`).
-/

namespace CrateBook.Markdown

/-- The number of bars that are edges of cells. -/
def openBars : List Char → Nat
  | [] => 0
  | '\\' :: _ :: cs => openBars cs
  | c :: cs => (if c = '|' then 1 else 0) + openBars cs

/-- The number of bars that a backslash takes with it. -/
def keptBars : List Char → Nat
  | [] => 0
  | '\\' :: c :: cs => (if c = '|' then 1 else 0) + keptBars cs
  | _ :: cs => keptBars cs

/-- The text is a table of so many columns and rows: one line for each row and a separator behind
the first one, with one bar more on every line than there are columns. -/
structure IsRectangular (columns rows : Nat) (text : String) : Prop where
  lines : (sourceLines text).length = rows + 1
  separator : (sourceLines text)[1]? = some (separator columns)
  bars : ∀ line ∈ sourceLines text, openBars line.toList = columns + 1

/-- The text is one cell of a row: one line without open bars. -/
structure IsCell (s : String) : Prop where
  line : IsOneLine s
  bars : openBars s.toList = 0

variable {c : Char} {s : String} {cs ds : List Char} {cells header : List String}
  {rows : List (List String)} {columns : Nat}

/-! ## Bars -/

theorem openBars_cons (h : c ≠ '\\') (cs : List Char) :
    openBars (c :: cs) = (if c = '|' then 1 else 0) + openBars cs := by
  rw [openBars]
  rintro _ _ rfl
  exact absurd rfl h

/-- Behind a text, a character that is no bar and no backslash changes nothing: a backslash at the
end of the text takes it. -/
theorem openBars_append (hbar : c ≠ '|') (hslash : c ≠ '\\') (cs ds : List Char) :
    openBars (cs ++ c :: ds) = openBars cs + openBars ds := by
  have hcons : openBars (c :: ds) = openBars ds := by
    rw [openBars_cons hslash, if_neg hbar, Nat.zero_add]
  fun_induction openBars cs with
  | case1 => rw [List.nil_append, hcons, Nat.zero_add]
  | case2 d cs ih => exact ih
  | case3 d cs hd ih =>
    cases cs with
    | nil =>
      by_cases hd' : d = '\\'
      · simp [hd', openBars]
      · rw [List.singleton_append, openBars_cons hd', hcons]
        rfl
    | cons e cs =>
      have hd' : d ≠ '\\' := fun he => hd _ _ he rfl
      rw [List.cons_append, openBars_cons hd', ih, Nat.add_assoc]

theorem escapeRuns_cons (c : Char) (cs : List Char) :
    Text.replaceRuns ['|'] ['\\', '|'] 0 (c :: cs) =
      (if c = '|' then ['\\', '|'] else [c]) ++ Text.replaceRuns ['|'] ['\\', '|'] 0 cs := by
  rw [Text.replaceRuns, Text.after?]
  by_cases hc : c = '|'
  · simp [hc, Text.after?]
  · simp [hc, Ne.symm hc]

theorem openBars_escapeRuns (cs : List Char) :
    openBars (Text.replaceRuns ['|'] ['\\', '|'] 0 cs) = keptBars cs := by
  fun_induction keptBars cs with
  | case1 => rfl
  | case2 c cs ih =>
    rw [escapeRuns_cons, if_neg (by decide), escapeRuns_cons, ← ih]
    -- The backslash takes the one that is put before the bar, and leaves the bar open.
    by_cases hc : c = '|'
    · subst hc
      rfl
    · rw [if_neg hc, if_neg hc, Nat.zero_add]
      rfl
  | case3 c cs hc ih =>
    rw [escapeRuns_cons, ← ih]
    by_cases hbar : c = '|'
    · rw [if_pos hbar]
      rfl
    · rw [if_neg hbar, List.singleton_append]
      by_cases hslash : c = '\\'
      · cases cs with
        | nil =>
          subst hslash
          rfl
        | cons d cs => exact absurd rfl (hc _ _ hslash)
      · rw [openBars_cons hslash, if_neg hbar, Nat.zero_add]

/-- Escaped, a text has open those bars that a backslash had kept before. -/
theorem openBars_escape (s : String) :
    openBars (Text.replace s "|" "\\|").toList = keptBars s.toList := by
  rw [Text.replace, String.toList_ofList]
  exact openBars_escapeRuns s.toList

theorem isOneLine_escape (h : IsOneLine s) : IsOneLine (Text.replace s "|" "\\|") := by
  intro c hc
  rw [Text.replace, String.toList_ofList] at hc
  rcases Text.mem_replaceRuns hc with hc | hc
  · simp only [String.reduceToList, List.mem_cons, List.not_mem_nil, or_false] at hc
    rcases hc with rfl | rfl <;> decide
  · exact h c hc

/-- Only backslashes keep bars. -/
theorem keptBars_of_not_mem (h : '\\' ∉ cs) : keptBars cs = 0 := by
  fun_induction keptBars cs with
  | case1 => rfl
  | case2 c cs => exact absurd List.mem_cons_self h
  | case3 c cs hc ih => exact ih fun hmem => h (List.mem_cons_of_mem _ hmem)

/-! ## Rows -/

theorem toList_row (cells : List String) :
    (row cells).toList = '|' :: ' ' :: (" | ".intercalate cells ++ " |").toList := by
  rw [row, String.append_assoc, String.toList_append]
  rfl

theorem openBars_cells (hne : cells ≠ []) :
    openBars (" | ".intercalate cells ++ " |").toList =
      cells.length + (cells.map (openBars ·.toList)).sum := by
  have hsep (s t : String) :
      (s ++ " | " ++ t).toList = s.toList ++ ' ' :: '|' :: ' ' :: t.toList := by
    simp
  have hbar (cs : List Char) : openBars ('|' :: ' ' :: cs) = 1 + openBars cs := by
    rw [openBars_cons (by decide), openBars_cons (by decide), if_pos rfl, if_neg (by decide),
      Nat.zero_add]
  induction cells with
  | nil => exact absurd rfl hne
  | cons s cells ih =>
    cases cells with
    | nil =>
      have hs : (s ++ " |").toList = s.toList ++ ' ' :: ['|'] := by simp
      rw [String.intercalate_singleton, hs, openBars_append (by decide) (by decide)]
      simp only [List.length_singleton, List.map_singleton, List.sum_singleton]
      exact Nat.add_comm _ _
    | cons t cells =>
      rw [String.intercalate_cons_of_ne_nil (by simp), String.append_assoc, hsep,
        openBars_append (by decide) (by decide), hbar, ih (by simp)]
      simp only [List.map_cons, List.sum_cons, List.length_cons]
      omega

/-- A row has a bar more than cells, besides the bars that are open in the cells. -/
theorem openBars_row (hne : cells ≠ []) :
    openBars (row cells).toList = cells.length + 1 + (cells.map (openBars ·.toList)).sum := by
  rw [toList_row, openBars_cons (by decide), openBars_cons (by decide), if_pos rfl,
    if_neg (by decide), openBars_cells hne]
  omega

/-- A row is one line exactly when its cells are. -/
theorem isOneLine_row_iff : IsOneLine (row cells) ↔ ∀ s ∈ cells, IsOneLine s := by
  have hedges : IsOneLine "| " ∧ IsOneLine " | " ∧ IsOneLine " |" := by decide
  rw [row, isOneLine_append_iff, isOneLine_append_iff, isOneLine_intercalate_iff hedges.2.1,
    and_iff_left hedges.2.2, and_iff_right hedges.1]

theorem getLast?_row (cells : List String) : (row cells).toList.getLast? = some '|' := by
  rw [row, String.toList_append, List.getLast?_append]
  rfl

/-! ## Tables -/

theorem isOneLine_separator (n : Nat) : IsOneLine (separator n) :=
  isOneLine_row_iff.2 fun s hs => by
    rw [List.eq_of_mem_replicate hs]
    decide

theorem openBars_separator (h : columns ≠ 0) :
    openBars (separator columns).toList = columns + 1 := by
  have hmarks :
      (List.replicate columns "---").map (openBars ·.toList) = List.replicate columns 0 := by
    rw [List.map_replicate]
    rfl
  rw [separator, openBars_row (by simpa using h), hmarks]
  simp

/-- A table is read as the lines of its rows and of the separator. -/
theorem sourceLines_table (header : List String) (rows : List (List String)) :
    sourceLines (table header rows) =
      (row header :: separator header.length :: rows.map row).flatMap sourceLines := by
  refine sourceLines_intercalate (by simp) fun m hm => ?_
  have hrow : ∃ cells, m = row cells := by
    simp only [List.mem_cons, List.mem_map] at hm
    rcases hm with rfl | rfl | ⟨cells, -, rfl⟩
    · exact ⟨_, rfl⟩
    · exact ⟨_, rfl⟩
    · exact ⟨_, rfl⟩
  obtain ⟨cells, rfl⟩ := hrow
  rw [getLast?_row]
  decide

/-- Rows of single lines are read back. -/
theorem sourceLines_table_of_isOneLine
    (h : ∀ cells ∈ header :: rows, ∀ s ∈ cells, IsOneLine s) :
    sourceLines (table header rows) = row header :: separator header.length :: rows.map row := by
  have hlines :
      ∀ m ∈ row header :: separator header.length :: rows.map row, sourceLines m = [m] := by
    obtain ⟨hheader, hrows⟩ := List.forall_mem_cons.1 h
    rw [List.forall_mem_cons, List.forall_mem_cons, List.forall_mem_map]
    exact ⟨(isOneLine_row_iff.2 hheader).sourceLines, (isOneLine_separator _).sourceLines,
      fun cells hcells => (isOneLine_row_iff.2 (hrows cells hcells)).sourceLines⟩
  rw [sourceLines_table, List.flatMap_congr hlines]
  simp

/-- A table that is read as one line for each row has rows of single lines. -/
theorem isOneLine_of_length_sourceLines
    (h : (sourceLines (table header rows)).length = rows.length + 2) :
    ∀ cells ∈ header :: rows, ∀ s ∈ cells, IsOneLine s := by
  rw [sourceLines_table] at h
  have hparts := isOneLine_of_length_flatMap (h.trans (by simp))
  rw [List.forall_mem_cons, List.forall_mem_cons, List.forall_mem_map] at hparts
  exact List.forall_mem_cons.2
    ⟨isOneLine_row_iff.1 hparts.1,
      fun cells hcells => isOneLine_row_iff.1 (hparts.2.2 cells hcells)⟩

/-- A table with rows of one length is rectangular exactly when every text in it is one cell. -/
theorem isRectangular_table_iff (hcolumns : columns ≠ 0)
    (hlength : ∀ cells ∈ header :: rows, cells.length = columns) :
    IsRectangular columns (rows.length + 1) (table header rows) ↔
      ∀ cells ∈ header :: rows, ∀ s ∈ cells, IsCell s := by
  have hbars {cells : List String} (hcells : cells ∈ header :: rows) :
      openBars (row cells).toList = columns + 1 ↔ ∀ s ∈ cells, openBars s.toList = 0 := by
    have hne : cells ≠ [] := by
      rintro rfl
      exact hcolumns (hlength [] hcells).symm
    rw [openBars_row hne, hlength cells hcells, Nat.add_eq_left, List.sum_eq_zero_iff,
      List.forall_mem_map]
  have hheader : header.length = columns := hlength header List.mem_cons_self
  constructor
  · intro h
    have hone := isOneLine_of_length_sourceLines h.lines
    intro cells hcells s hs
    refine ⟨hone cells hcells s hs, (hbars hcells).1 (h.bars _ ?_) s hs⟩
    rw [sourceLines_table_of_isOneLine hone]
    simp only [List.mem_cons, List.mem_map] at hcells ⊢
    rcases hcells with rfl | hcells
    · exact .inl rfl
    · exact .inr (.inr ⟨cells, hcells, rfl⟩)
  · intro h
    have hlines := sourceLines_table_of_isOneLine fun cells hcells s hs =>
      (h cells hcells s hs).line
    refine ⟨by simp [hlines], by simp [hlines, hheader], ?_⟩
    rw [hlines, hheader, List.forall_mem_cons, List.forall_mem_cons, List.forall_mem_map]
    have hrow {cells : List String} (hcells : cells ∈ header :: rows) :=
      (hbars hcells).2 fun s hs => (h cells hcells s hs).bars
    exact ⟨hrow List.mem_cons_self, openBars_separator hcolumns,
      fun cells hcells => hrow (List.mem_cons_of_mem _ hcells)⟩

end CrateBook.Markdown
