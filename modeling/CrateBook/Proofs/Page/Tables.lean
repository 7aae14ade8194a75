import CrateBook.Proofs.Markdown.Tables
import CrateBook.Proofs.Page.Characters
import CrateBook.Proofs.Page.Skipping

/-!
# Tables of a page

The rows of a table are the row elements at any depth in it that have cells, in document order
(`tableRows_eq`). Each is written as one line of the width of the widest row, and behind the first
one stands the separator, whatever the cells hold (`exists_tableLines`). What can go wrong is the
number of bars on a line: a bar in a cell that is already kept by a backslash is opened by the
backslash that is put before it.
-/

namespace CrateBook.Page

open Html (Node Element AttrValue)
open Markdown (sourceLines openBars keptBars IsCell IsOneLine)

/-- The node as a cell of a row, if it is one. -/
def cell? : Node → Option Element
  | .element name attrs children => if isCell name then some ⟨name, attrs, children⟩ else none
  | _ => none

/-- The rows of a table: the cells of each row element at any depth that has any. -/
def rowsOf (ns : List Node) : List (List Element) :=
  (((Html.elementsOf ns).filter (·.name == "tr")).map (·.children.filterMap cell?)).filter
    (!·.isEmpty)

/-- The number of cells in the widest row. -/
def columnsOf (ns : List Node) : Nat := ((rowsOf ns).map List.length).foldl max 0

/-- What a cell says, on one line. -/
def cellText (skip : SkipRules) (e : Element) : String := lineOf skip e.name e.children

/-- The cells of a row, escaped and followed by as many empty ones as it takes to fill the width. -/
def rowTexts (skip : SkipRules) (width : Nat) (cells : List Element) : List String :=
  cells.map (fun e => Text.replace (cellText skip e) "|" "\\|") ++
    List.replicate (width - cells.length) ""

variable {skip : SkipRules} {ns children : List Node} {attrs : List (String × AttrValue)}
  {cells : List Element}

/-! ## Rows and cells -/

theorem rowCells_eq (ns : List Node) : rowCells skip ns =
    (ns.filterMap cell?).map fun e => Text.replace (cellText skip e) "|" "\\|" := by
  induction ns with
  | nil => rfl
  | cons n ns ih =>
    cases n with
    | element name attrs children =>
      rw [rowCells, List.filterMap_cons, cell?, isCell]
      split
      · rw [ih]
        rfl
      · exact ih
    | text | comment | cdata => exact ih

theorem filter_rows {f : List Element → List String} (hf : ∀ l, (f l).isEmpty = l.isEmpty)
    (rows : List (List Element)) :
    (rows.map f).filter (!·.isEmpty) = (rows.filter (!·.isEmpty)).map f := by
  rw [List.filter_map]
  exact congrArg (List.map f) (List.filter_congr fun l _ => congrArg Bool.not (hf l))

theorem rowsOf_cons (n : Node) (ns : List Node) : rowsOf (n :: ns) = rowsOf [n] ++ rowsOf ns := by
  simp [rowsOf, Html.elementsOf]

theorem rowsOf_element (name : String) (attrs : List (String × AttrValue)) (children : List Node) :
    rowsOf [.element name attrs children] =
      (if name == "tr" then [children.filterMap cell?] else []).filter (!·.isEmpty) ++
        rowsOf children := by
  rw [rowsOf, elementsOf_cons_element, List.filter_cons]
  split
  · rw [List.map_cons, List.filter_cons, List.filter_cons]
    split <;> simp [rowsOf, Html.elementsOf]
  · simp [rowsOf, Html.elementsOf]

theorem tableRows_cons (n : Node) (ns : List Node) :
    tableRows skip (n :: ns) = tableRows skip [n] ++ tableRows skip ns := by
  cases n <;> simp [tableRows]

mutual

theorem tableRows_singleton (skip : SkipRules) : ∀ n : Node, tableRows skip [n] =
    (rowsOf [n]).map fun cells => cells.map fun e => Text.replace (cellText skip e) "|" "\\|"
  | .text _ _ | .comment _ | .cdata _ => rfl
  | .element name attrs children => by
    rw [tableRows, tableRows_eq skip children, rowsOf_element, List.map_append,
      ← filter_rows fun l => by simp, tableRows, List.append_nil]
    split
    · rw [rowCells_eq]
      rfl
    · rfl

/-- The rows of a table are written in document order, each with its cells escaped. -/
theorem tableRows_eq (skip : SkipRules) : ∀ ns : List Node, tableRows skip ns =
    (rowsOf ns).map fun cells => cells.map fun e => Text.replace (cellText skip e) "|" "\\|"
  | [] => rfl
  | n :: ns => by
    rw [tableRows_cons, rowsOf_cons, List.map_append, tableRows_singleton skip n,
      tableRows_eq skip ns]

end

theorem nodeMarkdown_table (parent : String) (verbatim inline : Bool)
    (hkept : skip.skips "table" attrs = false) (children : List Node) :
    nodeMarkdown skip parent verbatim inline (.element "table" attrs children) =
      tableOf (tableRows skip children) := by
  have hrule : ruleFor "table" = .table := by decide
  rw [nodeMarkdown, if_neg (by simp [hkept]), hrule]

theorem le_foldl_max (l : List Nat) (n : Nat) : n ≤ l.foldl max n ∧ ∀ m ∈ l, m ≤ l.foldl max n := by
  induction l generalizing n with
  | nil => simp
  | cons m l ih =>
    obtain ⟨hle, hall⟩ := ih (max n m)
    rw [List.foldl_cons, List.forall_mem_cons]
    exact ⟨(le_max_left n m).trans hle, (le_max_right n m).trans hle, hall⟩

theorem length_le_columnsOf (h : cells ∈ rowsOf ns) : cells.length ≤ columnsOf ns :=
  (le_foldl_max _ 0).2 _ (List.mem_map_of_mem h)

theorem length_rowTexts (skip : SkipRules) (h : cells ∈ rowsOf ns) :
    (rowTexts skip (columnsOf ns) cells).length = columnsOf ns := by
  have hle := length_le_columnsOf h
  rw [rowTexts, List.length_append, List.length_map, List.length_replicate]
  omega

theorem columnsOf_ne_zero (h : rowsOf ns ≠ []) : columnsOf ns ≠ 0 := by
  obtain ⟨cells, hcells⟩ := List.exists_mem_of_ne_nil _ h
  have hne : cells ≠ [] := by
    have hkept := (List.mem_filter.1 hcells).2
    simpa using hkept
  have hpos := List.length_pos_of_ne_nil hne
  have hle := length_le_columnsOf hcells
  omega

/-! ## Lines -/

theorem isOneLine_cellText (skip : SkipRules) (e : Element) : IsOneLine (cellText skip e) := by
  intro c hc
  rcases Text.mem_squeeze hc with rfl | hblank
  · decide
  · refine ⟨?_, ?_⟩ <;> rintro rfl <;> exact absurd hblank (by decide)

theorem isCell_escape_iff (skip : SkipRules) (e : Element) :
    IsCell (Text.replace (cellText skip e) "|" "\\|") ↔ keptBars (cellText skip e).toList = 0 := by
  rw [← Markdown.openBars_escape]
  exact ⟨IsCell.bars, fun h => ⟨Markdown.isOneLine_escape (isOneLine_cellText skip e), h⟩⟩

/-- Where no text holds a backslash and no table stands, no bar is kept. -/
theorem keptBars_cellText {e : Element} (h : AreOf (· ≠ '\\') e.children) :
    keptBars (cellText skip e).toList = 0 := by
  have hadded : ∀ c, isAdded c = true → c ≠ '\\' := by
    rintro c hc rfl
    exact absurd hc (by decide)
  have hcontent := allOf_squeeze (by decide)
    (allOf_childrenMarkdown hadded skip e.name false true e.children h)
  exact Markdown.keptBars_of_not_mem fun hmem => hcontent _ hmem rfl

theorem forall_mem_rowTexts {p : String → Prop} (hempty : p "") (width : Nat) :
    (∀ s ∈ rowTexts skip width cells, p s) ↔
      ∀ e ∈ cells, p (Text.replace (cellText skip e) "|" "\\|") := by
  rw [rowTexts, List.forall_mem_append, List.forall_mem_map, and_iff_left]
  intro s hs
  rwa [List.eq_of_mem_replicate hs]

/-- The bars of a row: one more than there are columns, and those that are kept in its cells. -/
theorem openBars_rowTexts (skip : SkipRules) (h : cells ∈ rowsOf ns) :
    openBars (Markdown.row (rowTexts skip (columnsOf ns) cells)).toList =
      columnsOf ns + 1 + (cells.map fun e => keptBars (cellText skip e).toList).sum := by
  have hne : rowTexts skip (columnsOf ns) cells ≠ [] := by
    have hlength := length_rowTexts skip h
    have hcolumns := columnsOf_ne_zero (List.ne_nil_of_mem h)
    rintro hnil
    rw [hnil] at hlength
    exact hcolumns hlength.symm
  have hempty (n : Nat) : ((List.replicate n "").map (openBars ·.toList)).sum = 0 := by
    simp [openBars]
  rw [Markdown.openBars_row hne, length_rowTexts skip h, rowTexts, List.map_append, List.sum_append,
    hempty, List.map_map]
  simp only [Function.comp_def, Markdown.openBars_escape, Nat.add_zero]

/-- A table is written as the lines of its rows, as wide as the widest one, with the separator
behind the first. -/
theorem exists_tableLines (parent : String) (verbatim inline : Bool)
    (hkept : skip.skips "table" attrs = false) (hrows : rowsOf children ≠ []) :
    ∃ header body, rowsOf children = header :: body ∧
      nodeMarkdown skip parent verbatim inline (.element "table" attrs children) =
        Markdown.table (rowTexts skip (columnsOf children) header)
          (body.map (rowTexts skip (columnsOf children))) ++ "\n\n" := by
  obtain ⟨header, body, hsplit⟩ := List.exists_cons_of_ne_nil hrows
  have hcolumns : (((rowsOf children).map fun cells => cells.map fun e =>
      Text.replace (cellText skip e) "|" "\\|").map List.length).foldl max 0 =
        columnsOf children := by
    rw [List.map_map, columnsOf]
    exact congrArg (List.foldl max 0 ·) (List.map_congr_left fun cells _ => List.length_map _)
  have hpadded (rows : List (List Element)) : ((rows.map fun cells => cells.map fun e =>
      Text.replace (cellText skip e) "|" "\\|").map fun r =>
        r ++ List.replicate (columnsOf children - r.length) "") =
      rows.map (rowTexts skip (columnsOf children)) := by
    rw [List.map_map]
    exact List.map_congr_left fun cells _ => by simp [rowTexts]
  refine ⟨header, body, hsplit, ?_⟩
  rw [nodeMarkdown_table parent verbatim inline hkept, tableRows_eq, tableOf, hcolumns, hpadded,
    hsplit]
  rfl

/-- A table has one line for each row with cells, and the separator behind the first. On a line
there is one bar more than there are columns for every bar that is kept in a cell, so the table is
rectangular exactly when there are none. -/
theorem exists_tableText (parent : String) (verbatim inline : Bool)
    (hkept : skip.skips "table" attrs = false) (hrows : rowsOf children ≠ []) :
    ∃ text, nodeMarkdown skip parent verbatim inline (.element "table" attrs children) =
        text ++ "\n\n" ∧
      (sourceLines text)[1]? = some (Markdown.separator (columnsOf children)) ∧
      ((sourceLines text).eraseIdx 1).map (openBars ·.toList) = (rowsOf children).map (fun cells =>
        columnsOf children + 1 + (cells.map fun e => keptBars (cellText skip e).toList).sum) ∧
      (Markdown.IsRectangular (columnsOf children) (rowsOf children).length text ↔
        ∀ cells ∈ rowsOf children, ∀ e ∈ cells, keptBars (cellText skip e).toList = 0) := by
  obtain ⟨header, body, hsplit, htable⟩ := exists_tableLines parent verbatim inline hkept hrows
  refine ⟨_, htable, ?_⟩
  have hmem {cells : List Element} (h : cells ∈ header :: body) : cells ∈ rowsOf children :=
    hsplit ▸ h
  have hline {cells : List Element} (h : cells ∈ header :: body) :=
    length_rowTexts skip (hmem h)
  have hone : ∀ cells ∈ rowTexts skip (columnsOf children) header ::
      body.map (rowTexts skip (columnsOf children)), ∀ s ∈ cells, IsOneLine s := by
    rw [← List.map_cons, List.forall_mem_map]
    exact fun cells _ => (forall_mem_rowTexts (by decide) _).2
      fun e _ => Markdown.isOneLine_escape (isOneLine_cellText skip e)
  have hlines := Markdown.sourceLines_table_of_isOneLine hone
  rw [hline List.mem_cons_self] at hlines
  refine ⟨by rw [hlines]; rfl, ?_, ?_⟩
  · have hbars : ∀ cells ∈ header :: body, _ = _ := fun cells h =>
      openBars_rowTexts skip (hmem h)
    rw [hlines, hsplit, ← List.map_congr_left hbars]
    simp
  · have hlengths : ∀ cells ∈ (header :: body).map (rowTexts skip (columnsOf children)),
        cells.length = columnsOf children := List.forall_mem_map.2 fun cells h => hline h
    have hiff := Markdown.isRectangular_table_iff (columnsOf_ne_zero hrows) hlengths
    rw [← List.map_cons, List.forall_mem_map, List.length_map] at hiff
    rw [hsplit, List.length_cons, hiff]
    exact forall₂_congr fun cells _ => (forall_mem_rowTexts ⟨by decide, rfl⟩ _).trans
      (forall₂_congr fun e _ => isCell_escape_iff skip e)

end CrateBook.Page
