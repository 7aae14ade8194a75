import CrateBook.Proofs.Page.Tables
import CrateBook.Proofs.Rustdoc.Results
import CrateBook.Rustdoc.Variant

/-!
# The table of variants

A row of the table shows the name of a variant, what it holds and what is said about it. Only the
last of the three is escaped. So the table is rectangular exactly when the names and types are cells
as they stand and no backslash keeps a bar in a summary (`isRectangular_variantsTable_iff`).
`tables_rectangular_iff` says this together with what holds of the tables of a page.
-/

namespace CrateBook.Rustdoc

open Html (Node AttrValue)
open Markdown (sourceLines openBars keptBars IsCell IsOneLine)

/-- The cell that shows what the variant in a place holds, for an alias with these arguments. -/
def typeCell (crate : Crate) (subst : Subst) (arguments : List Json) (v : Item × Nat) :
    Except Fault String := do
  (← payload crate subst v.1).cell (arguments[v.2]?.mapM fun a => return (← readArg a).text [])

/-- The row of a variant. -/
def variantRow (v : Item) (cell : String) : List String :=
  ["`" ++ v.displayName ++ "`", cell, Text.replace (Docs.summaryOf v.docs) "|" "\\|"]

/-- The columns of the table. -/
def variantColumns : List String := ["Variant", "Type", "Description"]

/-! ## Summaries -/

theorem isOneLine_trim {s : String} (h : IsOneLine s) : IsOneLine (Text.trim s) :=
  fun c hc => h c (Text.mem_of_mem_trimOf hc)

/-- A summary is one line. -/
theorem isOneLine_summary (docs : String) : IsOneLine (Docs.summary docs) := by
  rw [Docs.summary, Markdown.isOneLine_intercalate_iff (by decide), List.forall_mem_map]
  intro line hline
  have hmem : line ∈ Text.lines (Docs.clean docs) :=
    (List.dropWhile_suffix _).subset ((List.takeWhile_prefix _).subset hline)
  exact isOneLine_trim (Markdown.isOneLine_of_isLine (Text.isLine_of_mem_lines hmem))

/-! ## Rows -/

section Rows

variable {crate : Crate} {subst : Subst} {arguments : List Json} {item : Item} {text : String}
  {variants : List Item}

/-- The table holds one row for each variant, in order. -/
theorem exists_variantRows (htext : variantsTable crate subst arguments item = .ok text)
    (hvariants : crate.variants item = .ok variants) :
    ∃ rows, List.Forall₂ (fun v row => ∃ cell, typeCell crate subst arguments v = .ok cell ∧
        row = variantRow v.1 cell) variants.zipIdx rows ∧
      text = Markdown.tableUnlessEmpty variantColumns rows := by
  rw [variantsTable, hvariants, ok_bind] at htext
  obtain ⟨rows, hrows, htext⟩ := exists_of_bind_eq_ok htext
  refine ⟨rows, (forall₂_of_mapM hrows).imp fun v row hrow => ?_, (Except.ok.inj htext).symm⟩
  obtain ⟨held, hheld, hrow⟩ := exists_of_bind_eq_ok hrow
  obtain ⟨cell, hcell, hrow⟩ := exists_of_bind_eq_ok hrow
  obtain ⟨-, -, hrow⟩ := exists_of_bind_eq_ok hrow
  refine ⟨cell, ?_, (Except.ok.inj hrow).symm⟩
  rw [typeCell, hheld]
  exact hcell

/-- A name between backticks is a cell exactly when it is one by itself. -/
theorem isCell_quoted_iff {name : String} : IsCell ("`" ++ name ++ "`") ↔ IsCell name := by
  have hline : IsOneLine ("`" ++ name ++ "`") ↔ IsOneLine name := by
    have hmark : IsOneLine "`" := by decide
    rw [Markdown.isOneLine_append_iff, Markdown.isOneLine_append_iff, and_iff_left hmark,
      and_iff_right hmark]
  have hbars : openBars ("`" ++ name ++ "`").toList = openBars name.toList := by
    have hsplit : ("`" ++ name ++ "`").toList = '`' :: (name.toList ++ ['`']) := by simp
    rw [hsplit, Markdown.openBars_cons (by decide),
      Markdown.openBars_append (by decide) (by decide)]
    simp [openBars]
  exact ⟨fun h => ⟨hline.1 h.line, hbars ▸ h.bars⟩, fun h => ⟨hline.2 h.line, hbars.trans h.bars⟩⟩

theorem isCell_summary_iff (docs : Json) :
    IsCell (Text.replace (Docs.summaryOf docs) "|" "\\|") ↔
      keptBars (Docs.summaryOf docs).toList = 0 := by
  rw [← Markdown.openBars_escape]
  exact ⟨IsCell.bars, fun h => ⟨Markdown.isOneLine_escape (isOneLine_summary _), h⟩⟩

/-- What holds of related things one by one holds of all of them on both sides. -/
theorem forall_mem_iff_of_forall₂ {α β : Type} {R : α → β → Prop} {p : α → Prop} {q : β → Prop}
    {l : List α} {r : List β} (h : List.Forall₂ R l r) (hR : ∀ a b, R a b → (p a ↔ q b)) :
    (∀ a ∈ l, p a) ↔ ∀ b ∈ r, q b := by
  induction h with
  | nil => simp
  | cons hab _ ih => rw [List.forall_mem_cons, List.forall_mem_cons, ih, hR _ _ hab]

/-- The table of variants is rectangular exactly when names and types are cells as they stand and no
bar is kept in a summary. -/
theorem isRectangular_variantsTable_iff
    (htext : variantsTable crate subst arguments item = .ok text)
    (hvariants : crate.variants item = .ok variants) (hne : variants ≠ []) :
    Markdown.IsRectangular 3 (variants.length + 1) text ↔ ∀ v ∈ variants.zipIdx,
      IsCell v.1.displayName ∧ (∀ cell, typeCell crate subst arguments v = .ok cell → IsCell cell) ∧
        keptBars (Docs.summaryOf v.1.docs).toList = 0 := by
  obtain ⟨rows, hrows, rfl⟩ := exists_variantRows htext hvariants
  have hlength : rows.length = variants.length := by rw [← hrows.length_eq, List.length_zipIdx]
  have hrowsNe : rows ≠ [] := by
    rintro rfl
    exact hne (List.length_eq_zero_iff.1 hlength.symm)
  have hwidth : ∀ cells ∈ variantColumns :: rows, cells.length = 3 := by
    refine List.forall_mem_cons.2 ⟨rfl, ?_⟩
    refine (forall_mem_iff_of_forall₂ (p := fun _ => True) hrows ?_).1 fun _ _ => trivial
    rintro v row ⟨cell, -, rfl⟩
    exact iff_of_true trivial rfl
  have hheader : ∀ s ∈ variantColumns, IsCell s := by
    rw [variantColumns, List.forall_mem_cons, List.forall_mem_cons, List.forall_mem_singleton]
    exact ⟨⟨by decide, rfl⟩, ⟨by decide, rfl⟩, ⟨by decide, rfl⟩⟩
  rw [Markdown.tableUnlessEmpty, if_neg (by simpa using hrowsNe), ← hlength,
    Markdown.isRectangular_table_iff (by decide) hwidth, List.forall_mem_cons,
    and_iff_right hheader]
  refine (forall_mem_iff_of_forall₂ hrows ?_).symm
  rintro v row ⟨cell, hcell, rfl⟩
  rw [variantRow, List.forall_mem_cons, List.forall_mem_cons, List.forall_mem_singleton,
    isCell_quoted_iff, isCell_summary_iff]
  refine and_congr_right fun _ => and_congr_left fun _ =>
    ⟨fun h => h cell hcell, fun h cell' hcell' => ?_⟩
  rw [hcell] at hcell'
  exact Except.ok.inj hcell' ▸ h

end Rows

/-! ## All tables -/

/-- A table of a page has one line for each row with cells and a separator behind the first one. It
has as many bars too many on a line as bars are kept in the cells, none where the cells hold no
backslashes and no tables. The table of variants is rectangular exactly when names and types are
cells as they stand and no bar is kept in a summary. -/
theorem tables_rectangular_iff (skip : Page.SkipRules) (parent : String) (verbatim inline : Bool)
    (attrs : List (String × AttrValue)) (children : List Node) (crate : Crate) (subst : Subst)
    (arguments : List Json) (item : Item) (variants : List Item) (variantTable : String) :
    (skip.skips "table" attrs = false → Page.rowsOf children ≠ [] →
      ∃ text, Page.nodeMarkdown skip parent verbatim inline (.element "table" attrs children) =
          text ++ "\n\n" ∧
        (sourceLines text)[1]? = some (Markdown.separator (Page.columnsOf children)) ∧
        ((sourceLines text).eraseIdx 1).map (openBars ·.toList) =
          (Page.rowsOf children).map (fun cells => Page.columnsOf children + 1 +
            (cells.map fun e => keptBars (Page.cellText skip e).toList).sum) ∧
        (Markdown.IsRectangular (Page.columnsOf children) (Page.rowsOf children).length text ↔
          ∀ cells ∈ Page.rowsOf children, ∀ e ∈ cells,
            keptBars (Page.cellText skip e).toList = 0) ∧
        ((∀ cells ∈ Page.rowsOf children, ∀ e ∈ cells, Page.AreOf (· ≠ '\\') e.children) →
          Markdown.IsRectangular (Page.columnsOf children) (Page.rowsOf children).length text)) ∧
    (crate.variants item = .ok variants → variants ≠ [] →
      variantsTable crate subst arguments item = .ok variantTable →
      (Markdown.IsRectangular 3 (variants.length + 1) variantTable ↔ ∀ v ∈ variants.zipIdx,
        IsCell v.1.displayName ∧
          (∀ cell, typeCell crate subst arguments v = .ok cell → IsCell cell) ∧
          keptBars (Docs.summaryOf v.1.docs).toList = 0)) := by
  refine ⟨fun hkept hrows => ?_,
    fun hvariants hne htext => isRectangular_variantsTable_iff htext hvariants hne⟩
  obtain ⟨text, htext, hseparator, hbars, hiff⟩ :=
    Page.exists_tableText parent verbatim inline hkept hrows
  exact ⟨text, htext, hseparator, hbars, hiff, fun hcells => hiff.2 fun cells hrow e he =>
    Page.keptBars_cellText (hcells cells hrow e he)⟩

namespace Grids

/-- A row of cells that hold code. -/
def codeRow (codes : List String) : Node :=
  .element "tr" [] (codes.map fun s => .element "td" [] [.element "code" [] [.text none s]])

/-- A table with a bar and a table in cells of a row, and with rows of other lengths. -/
def ragged : List Node :=
  [.element "tr" [] [.element "th" [] [.element "code" [] [.text none "a|b"]],
    .element "th" [] [.element "table" [] [codeRow ["x"]]]], codeRow []]

def table (rows : List Node) : Node := .element "table" [] rows

def variant (docs : String) (held : Json) : Item :=
  ⟨"2", .str "Full", .unmarked, .str docs, "variant", .obj [("kind", held)], true⟩

def level : Item :=
  ⟨"1", .str "Level", .pub, .null, "enum", .obj [("variants", .arr [.int 2])], true⟩

def field : Item := ⟨"3", .str "0", .unmarked, .null, "struct_field", .obj [("array", .obj
  [("type", .obj [("primitive", .str "u8")]), ("len", .str "A | B")])], true⟩

def crate (v : Item) : Crate where
  root := "0"
  items := [("1", level), ("2", v), ("3", field)]
  paths := []
  pathKinds := []
  version := .null
  formatVersion := .null

/-- A variant without a type, with a bar in its summary. -/
def plain : Item := variant "all | some" (.str "plain")

/-- The table of `plain`. -/
def plainTable : String :=
  "| Variant | Type | Description |\n| --- | --- | --- |\n| `Full` | N/A | all \\| some |"

/-- A variant that holds an array with a bar in its length, with a kept bar in its summary. -/
def barred : Item := variant "all \\| some" (.obj [("tuple", .arr [.int 3])])

/-- The row of `barred`, with six bars. -/
def barredRow : String := "| `Full` | `[u8; A | B]` | all \\\\| some |"

/-- The table of `barred`. -/
def barredTable : String :=
  "| Variant | Type | Description |\n| --- | --- | --- |\n" ++ barredRow

end Grids

set_option maxRecDepth 2000 in
open Grids in
/-- Bars without backslashes are kept, in a cell and in a summary. -/
theorem tables_rectangular_ragged :
    Page.SkipRules.default.skips "table" [] = false ∧ Page.rowsOf ragged ≠ [] ∧
      (∃ text, Page.nodeMarkdown .default "main" false false (table ragged) = text ++ "\n\n" ∧
        Markdown.IsRectangular 2 2 text) ∧
      (crate plain).variants level = .ok [plain] ∧
      variantsTable (crate plain) [] [] level = .ok plainTable ∧
      Markdown.IsRectangular 3 2 plainTable := by
  have hvariants : (crate plain).variants level = .ok [plain] := by rfl
  have htable : variantsTable (crate plain) [] [] level = .ok plainTable := by rfl
  obtain ⟨htables, hvariantTables⟩ := tables_rectangular_iff .default "main" false false [] ragged
    (crate plain) [] [] level [plain] plainTable
  obtain ⟨text, htext, -, -, hiff, -⟩ := htables (by decide) (by decide)
  refine ⟨by decide, by decide, ⟨text, htext, hiff.2 (by decide)⟩, hvariants, htable,
    (hvariantTables hvariants (by decide) htable).2 ?_⟩
  intro v hv
  obtain rfl := List.mem_singleton.1 hv
  refine ⟨⟨by decide, by decide⟩, fun cell hcell => ?_, by decide⟩
  obtain rfl := Except.ok.inj hcell
  exact ⟨by decide, by decide⟩

set_option maxRecDepth 2000 in
open Grids in
/-- Of a bar behind a backslash in a cell, of a bar in a type and of one that is kept in a summary,
the table makes the edge of a cell. -/
theorem bars_opened :
    Page.nodeMarkdown .default "main" false false (table [codeRow ["a\\|b"]]) =
        "| `a\\\\|b` |\n| --- |\n\n" ∧
      ¬ Markdown.IsRectangular 1 1 "| `a\\\\|b` |\n| --- |" ∧
      variantsTable (crate barred) [] [] level = .ok barredTable ∧
      ¬ Markdown.IsRectangular 3 2 barredTable := by
  refine ⟨by rfl, fun h => ?_, by rfl, fun h => ?_⟩
  · have hbars := h.bars "| `a\\\\|b` |" (by decide)
    exact absurd hbars (by decide)
  · have hbars := h.bars barredRow (by decide)
    exact absurd hbars (by decide)

end CrateBook.Rustdoc
