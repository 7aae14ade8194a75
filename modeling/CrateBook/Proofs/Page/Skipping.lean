import CrateBook.Proofs.Page.Frame
import CrateBook.Proofs.Page.Rule

/-!
# What is left out has no say

Every block but a table asks the skip tables before it looks into an element. So outside tables a
page does not depend on what a left-out element holds. A table looks for its rows and cells by name
alone: in a table the same is true only of an element that is no row and no cell of one, and in
which no row stands (`pageMarkdown_fill_skipped`).
-/

namespace CrateBook.Page

open Html (Node Element AttrValue)

variable {skip : SkipRules} {f e : Frame} {path inner : List Frame} {ns ns' : List Node}
  {name : String} {attrs : List (String × AttrValue)}

/-! ## Written alike -/

/-- Outside tables, the two lists of nodes are written alike. -/
structure SameText (skip : SkipRules) (ns ns' : List Node) : Prop where
  children : ∀ parent verbatim inline, childrenMarkdown skip parent verbatim inline ns =
    childrenMarkdown skip parent verbatim inline ns'
  lines : ∀ parent ordered count,
    listLines skip parent ordered count ns = listLines skip parent ordered count ns'
  definitions : definitions skip ns = definitions skip ns'

/-- What the nodes say on a squeezed line, inside an element of the given name. -/
def lineOf (skip : SkipRules) (name : String) (ns : List Node) : String :=
  Text.squeeze (childrenMarkdown skip name false true ns)

theorem definitions_cons (after : List Node) (hline : name = "dt" ∨ name = "dd" →
      skip.skips name attrs = false → lineOf skip name ns = lineOf skip name ns') :
    definitions skip (.element name attrs ns :: after) =
      definitions skip (.element name attrs ns' :: after) := by
  rw [lineOf, lineOf] at hline
  rw [definitions, definitions]
  split
  · rename_i h
    rw [Bool.and_eq_true, Bool.or_eq_true, beq_iff_eq, beq_iff_eq, Bool.not_eq_true'] at h
    rw [hline h.1 h.2]
  · rfl

theorem listLines_cons (parent : String) (ordered : Bool) (count : Nat) (after : List Node)
    (hline : name = "li" → skip.skips name attrs = false →
      lineOf skip name ns = lineOf skip name ns')
    (hstray : name ≠ "li" →
      Text.squeeze (nodeMarkdown skip parent false false (.element name attrs ns)) =
        Text.squeeze (nodeMarkdown skip parent false false (.element name attrs ns'))) :
    listLines skip parent ordered count (.element name attrs ns :: after) =
      listLines skip parent ordered count (.element name attrs ns' :: after) := by
  rw [lineOf, lineOf] at hline
  rw [listLines, listLines]
  split
  · rename_i hname
    split
    · rfl
    · rename_i hkept
      rw [hline (eq_of_beq hname) (by simpa using hkept)]
  · rename_i hname
    rw [hstray (by simpa using hname)]

/-- An element that is written alike with other children is so among other nodes. -/
theorem sameText_cons (after : List Node)
    (hnode : ∀ parent verbatim inline,
      nodeMarkdown skip parent verbatim inline (.element name attrs ns) =
        nodeMarkdown skip parent verbatim inline (.element name attrs ns'))
    (hline : name = "li" ∨ name = "dt" ∨ name = "dd" → skip.skips name attrs = false →
      lineOf skip name ns = lineOf skip name ns') :
    SameText skip (.element name attrs ns :: after) (.element name attrs ns' :: after) where
  children parent verbatim inline := by rw [childrenMarkdown, hnode, ← childrenMarkdown]
  lines parent ordered count :=
    listLines_cons parent ordered count after (fun hname => hline (.inl hname))
      fun _ => by rw [hnode]
  definitions := definitions_cons after fun hname => hline (.inr hname)

theorem SameText.lineOf (h : SameText skip ns ns') (name : String) :
    lineOf skip name ns = lineOf skip name ns' := by
  rw [Page.lineOf, Page.lineOf, h.children]

theorem SameText.cons (h : SameText skip ns ns') (n : Node) :
    SameText skip (n :: ns) (n :: ns') where
  children parent verbatim inline := by rw [childrenMarkdown, childrenMarkdown, h.children]
  lines parent ordered count := by
    cases n <;> simp only [listLines, h.lines]
  definitions := by
    cases n <;> simp only [Page.definitions, h.definitions]

theorem SameText.append (h : SameText skip ns ns') (before : List Node) :
    SameText skip (before ++ ns) (before ++ ns') := by
  induction before with
  | nil => exact h
  | cons n before ih => exact ih.cons n

/-- What is left out is written alike whatever it holds. -/
theorem sameText_fill_skipped (hskip : skip.skips e.name e.attrs = true) (ns ns' : List Node) :
    SameText skip (e.fill ns) (e.fill ns') := by
  refine .append
    (sameText_cons e.after (fun parent verbatim inline => ?_) fun _ hkept => ?_) e.before
  · rw [nodeMarkdown, nodeMarkdown, if_pos hskip, if_pos hskip]
  · rw [hskip] at hkept
    cases hkept

/-- An element that holds what is written alike is written alike; a table must hold the same
rows. -/
theorem SameText.fill (h : SameText skip ns ns')
    (hrows : f.name = "table" → tableRows skip ns = tableRows skip ns') :
    SameText skip (f.fill ns) (f.fill ns') := by
  refine (sameText_cons f.after (fun parent verbatim inline => ?_)
    fun _ _ => h.lineOf f.name).append f.before
  rw [nodeMarkdown, nodeMarkdown]
  split
  · rfl
  cases hrule : ruleFor f.name with
  | wrap before after spacing => simp only [h.children]
  | fixed text => rfl
  | code => simp only [h.children]
  | list ordered => simp only [h.lines]
  | definitions => simp only [h.definitions]
  | quote => simp only [h.children]
  | table => simp only [hrows (name_of_table hrule)]

/-! ## Definitions, rows and cells -/

theorem definitions_append (ns ns' : List Node) :
    definitions skip (ns ++ ns') = definitions skip ns ++ definitions skip ns' := by
  induction ns with
  | nil => rfl
  | cons n ns ih =>
    cases n <;> simp [definitions, ih, apply_ite (· ++ definitions skip ns')]

theorem tableRows_append (ns ns' : List Node) :
    tableRows skip (ns ++ ns') = tableRows skip ns ++ tableRows skip ns' := by
  induction ns with
  | nil => rfl
  | cons n ns ih => cases n <;> simp [tableRows, ih]

theorem rowCells_append (ns ns' : List Node) :
    rowCells skip (ns ++ ns') = rowCells skip ns ++ rowCells skip ns' := by
  induction ns with
  | nil => rfl
  | cons n ns ih =>
    cases n <;> simp [rowCells, ih, List.cons_append, apply_ite (· ++ rowCells skip ns')]

theorem tableRows_fill (hrow : f.name = "tr" → rowCells skip ns = rowCells skip ns')
    (hrows : tableRows skip ns = tableRows skip ns') :
    tableRows skip (f.fill ns) = tableRows skip (f.fill ns') := by
  rw [Frame.fill, Frame.fill, tableRows_append, tableRows_append, tableRows, tableRows, hrows]
  by_cases hname : f.name = "tr"
  · rw [hrow hname]
  · rw [beq_eq_false_iff_ne.2 hname]
    rfl

theorem rowCells_fill
    (hcell : f.name = "th" ∨ f.name = "td" → lineOf skip f.name ns = lineOf skip f.name ns') :
    rowCells skip (f.fill ns) = rowCells skip (f.fill ns') := by
  rw [lineOf, lineOf] at hcell
  rw [Frame.fill, Frame.fill, rowCells_append, rowCells_append, rowCells, rowCells]
  split
  · rename_i hname
    rw [Bool.or_eq_true, beq_iff_eq, beq_iff_eq] at hname
    rw [hcell hname]
  · rfl

/-! ## Pages -/

/-- No element is a row. -/
def NoRow (ns : List Node) : Prop := ∀ e ∈ Html.elementsOf ns, e.name ≠ "tr"

/-- A table does not look into an element that stands in these frames, neither for what it held nor
for what it holds: there is no table around it, or it is no row and no cell of a row and no row
stands in it. -/
def OutOfSight (inner : List Frame) (e : Frame) (ns ns' : List Node) : Prop :=
  (∀ f ∈ inner, f.name ≠ "table") ∨
    (e.name ≠ "tr" ∧ (e.name = "th" ∨ e.name = "td" → ∀ f ∈ inner.getLast?, f.name ≠ "tr") ∧
      NoRow ns ∧ NoRow ns')

theorem sameText_fill_of_no_table (hskip : skip.skips e.name e.attrs = true) (ns ns' : List Node)
    (h : ∀ f ∈ inner, f.name ≠ "table") :
    SameText skip (fill (inner ++ [e]) ns) (fill (inner ++ [e]) ns') := by
  induction inner with
  | nil => exact sameText_fill_skipped hskip ns ns'
  | cons f inner ih =>
    obtain ⟨hf, hinner⟩ := List.forall_mem_cons.1 h
    exact (ih hinner).fill fun hname => absurd hname hf

/-- In a table the rows are alike too. So are the cells, unless the element itself may be one. -/
theorem sameText_fill_of_no_row (hskip : skip.skips e.name e.attrs = true) (hrow : e.name ≠ "tr")
    (hcell : e.name = "th" ∨ e.name = "td" → ∀ f ∈ inner.getLast?, f.name ≠ "tr")
    (hns : NoRow ns) (hns' : NoRow ns') :
    SameText skip (fill (inner ++ [e]) ns) (fill (inner ++ [e]) ns') ∧
      tableRows skip (fill (inner ++ [e]) ns) = tableRows skip (fill (inner ++ [e]) ns') ∧
      ((e.name = "th" ∨ e.name = "td" → inner ≠ []) →
        rowCells skip (fill (inner ++ [e]) ns) = rowCells skip (fill (inner ++ [e]) ns')) := by
  induction inner with
  | nil =>
    have hnoRows : tableRows skip ns = tableRows skip ns' := by
      rw [tableRows_eq_nil skip ns hns, tableRows_eq_nil skip ns' hns']
    exact ⟨sameText_fill_skipped hskip ns ns', tableRows_fill (fun h => absurd h hrow) hnoRows,
      fun h => rowCells_fill fun hname => absurd rfl (h hname)⟩
  | cons f inner ih =>
    have hcell' : e.name = "th" ∨ e.name = "td" → ∀ g ∈ inner.getLast?, g.name ≠ "tr" := by
      intro hname g hg
      refine hcell hname g ?_
      cases inner with
      | nil => cases hg
      | cons _ _ => exact hg
    obtain ⟨htext, hrows, hcells⟩ := ih hcell'
    refine ⟨htext.fill fun _ => hrows, tableRows_fill (fun hf => hcells ?_) hrows,
      fun _ => rowCells_fill fun _ => htext.lineOf f.name⟩
    -- Directly in a row, the element is no cell.
    rintro hname rfl
    exact hcell hname f rfl hf

/-- A page does not change with what a left-out element holds that is out of the sight of tables. -/
theorem pageMarkdown_fill_skipped {ns ns' : List Node} (hmain : LeadsToMain path)
    (hskip : skip.skips e.name e.attrs = true) (hsight : OutOfSight inner e ns ns') :
    markdown? skip (fill (path ++ inner ++ [e]) ns) =
      markdown? skip (fill (path ++ inner ++ [e]) ns') := by
  obtain ⟨name, attrs, hmain⟩ := hmain.mainElement?
  have hsame : SameText skip (fill (inner ++ [e]) ns) (fill (inner ++ [e]) ns') := by
    rcases hsight with htable | ⟨hrow, hcell, hns, hns'⟩
    · exact sameText_fill_of_no_table hskip ns ns' htable
    · exact (sameText_fill_of_no_row hskip hrow hcell hns hns').1
  rw [List.append_assoc, fill_append, fill_append path, markdown?, markdown?, hmain, hmain,
    Option.map_some, Option.map_some, hsame.children]

/-- An element with the given name and the class `hideme`. -/
def hiddenFrame (name : String) : Frame := ⟨[], name, [("class", .text "hideme")], []⟩

/-- A list in a cell of a table. -/
def listFrames : List Frame :=
  [⟨[], "table", [], []⟩, ⟨[], "tr", [], []⟩, ⟨[], "td", [], []⟩, ⟨[], "ul", [], []⟩]

/-- A hidden item of a list in a cell has no say. -/
theorem pageMarkdown_fill_skipped_item :
    SkipRules.default.skips (hiddenFrame "li").name (hiddenFrame "li").attrs = true ∧
      markdown? .default (fill ([mainFrame] ++ listFrames ++ [hiddenFrame "li"])
        [.text none "secret"]) =
      markdown? .default (fill ([mainFrame] ++ listFrames ++ [hiddenFrame "li"]) []) := by
  have hskip : SkipRules.default.skips (hiddenFrame "li").name (hiddenFrame "li").attrs = true := by
    decide
  have hsight : OutOfSight listFrames (hiddenFrame "li") [.text none "secret"] [] := by
    refine .inr ⟨by decide, by decide, ?_, ?_⟩
    · intro e he
      cases he
    · intro e he
      cases he
  exact ⟨hskip, pageMarkdown_fill_skipped leadsToMain_mainFrame hskip hsight⟩

/-- A hidden row of a table is shown. -/
theorem hidden_row_shown :
    SkipRules.default.skips (hiddenFrame "tr").name (hiddenFrame "tr").attrs = true ∧
      markdown? .default (fill [mainFrame, ⟨[], "table", [], []⟩, hiddenFrame "tr"]
        [.element "td" [] [.element "code" [] [.text none "x"]]]) =
          some "| `x` |\n| --- |\n\n" ∧
      markdown? .default (fill [mainFrame, ⟨[], "table", [], []⟩, hiddenFrame "tr"] []) =
        some "" := by
  refine ⟨by decide, by rfl, by rfl⟩

end CrateBook.Page
