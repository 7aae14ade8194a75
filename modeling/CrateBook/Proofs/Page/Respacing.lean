import CrateBook.Proofs.Markdown.Respacing
import CrateBook.Proofs.Page.Conservation
import CrateBook.Proofs.Page.LineStarts
import CrateBook.Proofs.Page.Skipping

/-!
# Blanks on squeezed lines

Headings, paragraphs, items and cells are written on one squeezed line, so it makes no difference
which blanks separate the words of a text in them. Two kinds of elements inside them are in the way
of this. A quotation keeps the lines of what it holds, and what stands in a list beside its items is
written as if it stood in no line: there, blank text that holds a line feed is dropped.
`pageMarkdown_respaced` is about every other place, and about what may be done even there.
-/

namespace CrateBook.Page

open Html (Node AttrValue)
open Text (Respaced)

variable {skip : SkipRules} {p : Char → Bool} {everywhere verbatim inline : Bool} {s t : String}
  {ns ns' : List Node} {f : Frame} {path inner line outer : List Frame} {name parent : String}
  {attrs : List (String × AttrValue)}

/-! ## Texts -/

/-- The class consists of blanks, and the space is one of them. -/
structure IsBlankClass (p : Char → Bool) : Prop where
  blank : ∀ c, p c = true → Text.isBlank c = true
  space : p ' ' = true

/-- Where the first text is blank, both hold a line feed or neither does. -/
def SameFeed (s t : String) : Prop :=
  Text.allBlank (breakable s) = true → ('\n' ∈ s.toList ↔ '\n' ∈ t.toList)

theorem mem_replaceRuns {a b : Char} {pat q : List Char} (hpat : a ∉ b :: pat) (hq : a ∉ q)
    (cs : List Char) : a ∈ Text.replaceRuns (b :: pat) q 0 cs ↔ a ∈ cs := by
  induction hn : cs.length using Nat.strong_induction_on generalizing cs with
  | _ n ih =>
    subst hn
    cases cs with
    | nil => exact Iff.rfl
    | cons c cs =>
      rw [Text.replaceRuns]
      cases hafter : Text.after? (b :: pat) (c :: cs) with
      | none =>
        rw [Option.isSome_none, if_neg Bool.false_ne_true, List.mem_cons, List.mem_cons,
          ih cs.length (by simp) cs rfl]
      | some r =>
        have hcs := Text.eq_append_of_after? hafter
        obtain ⟨-, htail⟩ : c = b ∧ cs = pat ++ r := List.cons.inj hcs
        rw [Option.isSome_some, if_pos rfl, Text.replaceRuns_drop, htail, List.length_cons,
          Nat.add_sub_cancel, List.drop_left, List.mem_append, or_iff_right hq,
          ih r.length (by simp [htail]) r rfl, ← htail, hcs, List.mem_append,
          or_iff_right hpat]

theorem mem_breakable_feed (s : String) : '\n' ∈ (breakable s).toList ↔ '\n' ∈ s.toList := by
  rw [toList_breakable_eq, mem_replaceRuns (by decide) (by decide), List.mem_map]
  constructor
  · rintro ⟨c, hc, he⟩
    split at he
    · cases he
    · exact he ▸ hc
  · exact fun h => ⟨'\n', h, by decide⟩

theorem contains_feed (s : String) : Text.contains s "\n" = true ↔ '\n' ∈ s.toList :=
  ⟨fun h => Text.mem_of_contains h (by decide), Text.contains_singleton⟩

theorem breakable_respaced (hp : IsBlankClass p) (h : Respaced p s.toList t.toList) :
    Respaced p (breakable s).toList (breakable t).toList := by
  have hentity : ∀ c ∈ ['&', 'n', 'b', 's', 'p', ';'], p c = false := by
    intro c hc
    refine Bool.eq_false_iff.2 fun hpc => ?_
    have hkept : ∀ c ∈ ['&', 'n', 'b', 's', 'p', ';'], Text.isBlank c = false := by
      simp [Text.isBlank]
    have hblank := hp.blank c hpc
    rw [hkept c hc] at hblank
    cases hblank
  rw [toList_breakable_eq, toList_breakable_eq]
  refine Respaced.replaceRuns hentity _ (h.map fun c hc => ?_)
  split
  · exact hp.space
  · exact hc

/-- A text is written respaced wherever it is not dropped on one side alone. -/
theorem textMarkdown_respaced (hp : IsBlankClass p) (h : Respaced p s.toList t.toList)
    (hfeed : verbatim = false → inline = false → SameFeed s t) :
    Respaced p (textMarkdown verbatim inline s).toList (textMarkdown verbatim inline t).toList := by
  have hbreak := breakable_respaced hp h
  have hblank := hbreak.allBlank_eq hp.blank
  rw [textMarkdown, textMarkdown]
  cases verbatim with
  | true => exact hbreak
  | false =>
    rw [if_neg Bool.false_ne_true, if_neg Bool.false_ne_true, ← hblank]
    cases hall : Text.allBlank (breakable s) with
    | false =>
      rw [if_neg Bool.false_ne_true, if_neg Bool.false_ne_true]
      simpa only [Markdown.stripReferences, String.toList_ofList]
        using Markdown.stripRuns_respaced hp.blank hbreak
    | true =>
      have hempty : breakable s = "" ↔ breakable t = "" := by
        rw [← String.toList_eq_nil_iff, ← String.toList_eq_nil_iff]
        exact hbreak.eq_nil_iff
      have hsame : inline = false → (Text.contains (breakable s) "\n" = true ↔
          Text.contains (breakable t) "\n" = true) := fun hinline => by
        rw [contains_feed, contains_feed, mem_breakable_feed, mem_breakable_feed]
        exact hfeed rfl hinline hall
      rw [if_pos rfl, if_pos rfl]
      have hdropped : (breakable s == "" || Text.contains (breakable s) "\n" && !inline) =
          (breakable t == "" || Text.contains (breakable t) "\n" && !inline) := by
        rw [Bool.eq_iff_iff, Bool.or_eq_true, Bool.or_eq_true, beq_iff_eq, beq_iff_eq,
          Bool.and_eq_true, Bool.and_eq_true, Bool.not_eq_true']
        exact or_congr hempty (and_congr_left hsame)
      rw [hdropped]
      exact .refl p _

/-- A quotation does not show which blanks separate the words on its lines. -/
theorem quotation_respaced (hp : IsBlankClass p)
    (hline : ∀ c, p c = true → Text.isLineEnd c = false)
    (h : Respaced p s.toList t.toList) : quotation s = quotation t := by
  have htrim := h.trim hp.blank
  have hempty : Text.trim s = "" ↔ Text.trim t = "" := by
    rw [← String.toList_eq_nil_iff, ← String.toList_eq_nil_iff]
    exact htrim.eq_nil_iff
  have hlines : (Text.lines (Text.trim s)).map Text.squeeze =
      (Text.lines (Text.trim t)).map Text.squeeze := by
    rw [Text.lines, Text.lines, List.map_map, List.map_map]
    refine List.forall₂_eq_eq_eq ▸ List.forall₂_map_left_iff.2 (List.forall₂_map_right_iff.2 ?_)
    refine (htrim.lineRuns hline).imp fun l m hlm => ?_
    refine Respaced.squeeze_eq hp.blank ?_
    rwa [String.toList_ofList, String.toList_ofList]
  rw [quotation, quotation]
  dsimp only
  rw [hlines]
  by_cases hs : Text.trim s = ""
  · rw [hs, hempty.1 hs]
  · rw [if_neg (by simpa using hs), if_neg (by simpa using mt hempty.2 hs)]

/-! ## Nodes -/

/-- The two lists of nodes are written respaced on squeezed lines and verbatim, or `everywhere`, and
blocks that put what they hold on squeezed lines do not tell them apart. -/
structure RespacedNodes (skip : SkipRules) (p : Char → Bool) (everywhere : Bool)
    (ns ns' : List Node) : Prop where
  children : ∀ parent verbatim inline, (everywhere || verbatim || inline) = true →
    Respaced p (childrenMarkdown skip parent verbatim inline ns).toList
      (childrenMarkdown skip parent verbatim inline ns').toList
  definitions : definitions skip ns = definitions skip ns'
  rows : tableRows skip ns = tableRows skip ns'
  cells : rowCells skip ns = rowCells skip ns'

/-- A list of the two lists of nodes has the same lines. -/
def SameLines (skip : SkipRules) (ns ns' : List Node) : Prop :=
  ∀ parent ordered count,
    listLines skip parent ordered count ns = listLines skip parent ordered count ns'

theorem RespacedNodes.append (h : RespacedNodes skip p everywhere ns ns') (before : List Node) :
    RespacedNodes skip p everywhere (before ++ ns) (before ++ ns') where
  children parent verbatim inline hmode := by
    rw [childrenMarkdown_append, childrenMarkdown_append, String.toList_append,
      String.toList_append]
    exact (Respaced.refl p _).append (h.children parent verbatim inline hmode)
  definitions := by rw [definitions_append, definitions_append, h.definitions]
  rows := by rw [tableRows_append, tableRows_append, h.rows]
  cells := by rw [rowCells_append, rowCells_append, h.cells]

theorem SameLines.append (h : SameLines skip ns ns') (before : List Node) :
    SameLines skip (before ++ ns) (before ++ ns') := by
  induction before with
  | nil => exact h
  | cons n before ih =>
    intro parent ordered count
    cases n <;> simp only [List.cons_append, listLines, ih _ _ _]

variable {home : Option String}

theorem respacedNodes_text (hp : IsBlankClass p) (h : Respaced p s.toList t.toList)
    (hfeed : everywhere = true → SameFeed s t) (home : Option String) (after : List Node) :
    RespacedNodes skip p everywhere (.text home s :: after) (.text home t :: after) where
  children parent verbatim inline hmode := by
    rw [childrenMarkdown, childrenMarkdown, nodeMarkdown, nodeMarkdown, String.toList_append,
      String.toList_append]
    refine (textMarkdown_respaced hp h fun hverbatim hinline => hfeed ?_).append (.refl p _)
    simpa [hverbatim, hinline] using hmode
  definitions := rfl
  rows := rfl
  cells := rfl

theorem sameLines_text (hp : IsBlankClass p) (h : Respaced p s.toList t.toList)
    (home : Option String) (after : List Node) :
    SameLines skip (.text home s :: after) (.text home t :: after) := by
  intro parent ordered count
  have hline : Text.squeeze (textMarkdown false true s) =
      Text.squeeze (textMarkdown false true t) :=
    (textMarkdown_respaced hp h fun _ hinline => absurd hinline (by decide)).squeeze_eq hp.blank
  rw [listLines, listLines, hline]

theorem RespacedNodes.lineOf (hp : IsBlankClass p) (h : RespacedNodes skip p everywhere ns ns')
    (name : String) : lineOf skip name ns = lineOf skip name ns' :=
  (h.children name false true (by simp)).squeeze_eq hp.blank

/-- What an element makes of nodes that are written respaced. -/
theorem RespacedNodes.nodeMarkdown (hp : IsBlankClass p)
    (h : RespacedNodes skip p everywhere ns ns')
    (hlist : (∃ ordered, ruleFor name = .list ordered) → SameLines skip ns ns')
    (hquote : ruleFor name = .quote →
      everywhere = true ∧ ∀ c, p c = true → Text.isLineEnd c = false)
    (parent : String) (hmode : (everywhere || verbatim || inline) = true) :
    Respaced p (nodeMarkdown skip parent verbatim inline (.element name attrs ns)).toList
      (nodeMarkdown skip parent verbatim inline (.element name attrs ns')).toList := by
  rw [Page.nodeMarkdown, Page.nodeMarkdown]
  split
  · exact .refl p _
  cases hrule : ruleFor name with
  | wrap before after spacing =>
    have hinner : (everywhere || (verbatim || spacing == .verbatim) ||
        (inline || spacing == .squeezed)) = true := by
      simp only [Bool.or_eq_true] at hmode ⊢
      tauto
    have hcontent := h.children name _ _ hinner
    dsimp only
    split
    · rw [hcontent.squeeze_eq hp.blank]
      exact .refl p _
    · simp only [String.toList_append]
      exact ((Respaced.refl p _).append hcontent).append (.refl p _)
  | fixed text => exact .refl p _
  | code =>
    have hcontent := h.children name true false (by simp)
    dsimp only
    split
    · exact hcontent
    · simp only [String.toList_append]
      exact ((Respaced.refl p _).append hcontent).append (.refl p _)
  | list ordered =>
    dsimp only
    rw [hlist ⟨ordered, hrule⟩]
    exact .refl p _
  | definitions =>
    dsimp only
    rw [h.definitions]
    exact .refl p _
  | quote =>
    obtain ⟨heverywhere, hends⟩ := hquote hrule
    have hcontent := h.children name false false (by simp [heverywhere])
    dsimp only
    rw [quotation_respaced hp hends hcontent]
    exact .refl p _
  | table =>
    dsimp only
    rw [h.rows]
    exact .refl p _

theorem RespacedNodes.fill (hp : IsBlankClass p) (h : RespacedNodes skip p everywhere ns ns')
    (hlist : (∃ ordered, ruleFor f.name = .list ordered) → SameLines skip ns ns')
    (hquote : ruleFor f.name = .quote →
      everywhere = true ∧ ∀ c, p c = true → Text.isLineEnd c = false) :
    RespacedNodes skip p everywhere (f.fill ns) (f.fill ns') where
  children parent verbatim inline hmode := by
    rw [Frame.fill, Frame.fill, childrenMarkdown_append, childrenMarkdown_append, childrenMarkdown,
      childrenMarkdown]
    simp only [String.toList_append]
    exact (Respaced.refl p _).append
      ((h.nodeMarkdown hp hlist hquote parent hmode).append (.refl p _))
  definitions := by
    rw [Frame.fill, Frame.fill, definitions_append, definitions_append,
      definitions_cons f.after fun _ _ => h.lineOf hp f.name]
  rows := tableRows_fill (fun _ => h.cells) h.rows
  cells := rowCells_fill fun _ => h.lineOf hp f.name

/-- An item of a list is one line of it; of anything else in a list the whole is needed. -/
theorem SameLines.fill (hp : IsBlankClass p) (h : RespacedNodes skip p everywhere ns ns')
    (hlist : (∃ ordered, ruleFor f.name = .list ordered) → SameLines skip ns ns')
    (hquote : ruleFor f.name = .quote →
      everywhere = true ∧ ∀ c, p c = true → Text.isLineEnd c = false)
    (hitem : everywhere = true ∨ f.name = "li") : SameLines skip (f.fill ns) (f.fill ns') := by
  have hcons : SameLines skip (.element f.name f.attrs ns :: f.after)
      (.element f.name f.attrs ns' :: f.after) := by
    intro parent ordered count
    refine listLines_cons parent ordered count f.after (fun _ _ => h.lineOf hp f.name) ?_
    intro hname
    have heverywhere := hitem.resolve_right hname
    exact (h.nodeMarkdown hp hlist hquote parent (by simp [heverywhere])).squeeze_eq hp.blank
  exact hcons.append f.before

/-! ## On the way to a line -/

/-- What stands in a list of the path stands in an item of it. -/
def InItems (path : List Frame) : Prop :=
  path.IsChain fun f g => (∃ ordered, ruleFor f.name = .list ordered) → g.name = "li"

theorem InItems.cons (h : InItems (f :: path)) :
    ((∃ ordered, ruleFor f.name = .list ordered) → ∀ g ∈ path.head?, g.name = "li") ∧
      InItems path := by
  obtain ⟨hnext, hpath⟩ := List.isChain_cons.1 h
  exact ⟨fun hrule g hg => hnext g hg hrule, hpath⟩

/-- No frame of the path is a quotation. -/
def NoQuotation (path : List Frame) : Prop := ∀ f ∈ path, ruleFor f.name ≠ .quote

theorem respacedNodes_fill (hp : IsBlankClass p) (h : RespacedNodes skip p everywhere ns ns')
    (hlines : SameLines skip ns ns')
    (hquote : NoQuotation inner ∨
      everywhere = true ∧ ∀ c, p c = true → Text.isLineEnd c = false)
    (hitems : everywhere = true ∨ InItems inner) :
    RespacedNodes skip p everywhere (fill inner ns) (fill inner ns') ∧
      ((everywhere = true ∨ ∀ f ∈ inner.head?, f.name = "li") →
        SameLines skip (fill inner ns) (fill inner ns')) := by
  induction inner with
  | nil => exact ⟨h, fun _ => hlines⟩
  | cons f inner ih =>
    have hquote' : NoQuotation inner ∨
        everywhere = true ∧ ∀ c, p c = true → Text.isLineEnd c = false :=
      hquote.imp_left fun hnone => (List.forall_mem_cons.1 hnone).2
    have hitems' : everywhere = true ∨ InItems inner :=
      hitems.imp_right fun hchain => hchain.cons.2
    obtain ⟨hnodes, hlines'⟩ := ih hquote' hitems'
    have hlist : (∃ ordered, ruleFor f.name = .list ordered) →
        SameLines skip (fill inner ns) (fill inner ns') := fun hrule =>
      hlines' (hitems.imp_right fun hchain => hchain.cons.1 hrule)
    have hquotation : ruleFor f.name = .quote →
        everywhere = true ∧ ∀ c, p c = true → Text.isLineEnd c = false := fun hrule =>
      hquote.resolve_left fun hnone => hnone f List.mem_cons_self hrule
    refine ⟨hnodes.fill hp hlist hquotation, fun hitem => ?_⟩
    exact SameLines.fill hp hnodes hlist hquotation (hitem.imp_right fun hall => hall f rfl)

/-! ## Lines -/

/-- The frames put what they hold on a squeezed line of its own: a heading, a paragraph, an item, a
term or a description, or a table down to a cell, between which no other cell stands. -/
inductive IsLine : List Frame → Prop
  | block {f : Frame} {before after : String} : ruleFor f.name = .wrap before after .squeezed →
    IsLine [f]
  | cell {table row cell : Frame} {rows : List Frame} : ruleFor table.name = .table →
    (rows ++ [row]).IsChain (fun f g => f.name = "tr" → ¬(g.name = "th" ∨ g.name = "td")) →
    row.name = "tr" → (cell.name = "th" ∨ cell.name = "td") →
    IsLine (table :: (rows ++ [row, cell]))

/-- The two lists of nodes are written alike, inside and outside of tables. -/
structure SameMarkdown (skip : SkipRules) (ns ns' : List Node) : Prop
    extends SameText skip ns ns' where
  rows : tableRows skip ns = tableRows skip ns'
  cells : rowCells skip ns = rowCells skip ns'

theorem SameMarkdown.fill (h : SameMarkdown skip ns ns') (f : Frame) :
    SameMarkdown skip (f.fill ns) (f.fill ns') where
  toSameText := h.toSameText.fill fun _ => h.rows
  rows := tableRows_fill (fun _ => h.cells) h.rows
  cells := rowCells_fill fun _ => h.lineOf f.name

/-- The rows of a table down to one of its cells are the same when the line in the cell is. -/
theorem tableRows_fill_cell {rows : List Frame} {row cell : Frame}
    (hrows : tableRows skip ns = tableRows skip ns') (hcells : rowCells skip ns = rowCells skip ns')
    (hline : lineOf skip cell.name ns = lineOf skip cell.name ns')
    (hchain : (rows ++ [row]).IsChain fun f g => f.name = "tr" → ¬(g.name = "th" ∨ g.name = "td")) :
    tableRows skip (fill (rows ++ [row, cell]) ns) =
      tableRows skip (fill (rows ++ [row, cell]) ns') := by
  induction rows with
  | nil =>
    exact tableRows_fill (fun _ => rowCells_fill fun _ => hline)
      (tableRows_fill (fun _ => hcells) hrows)
  | cons f rows ih =>
    obtain ⟨hnext, hchain⟩ := List.isChain_cons.1 hchain
    refine tableRows_fill (fun hname => ?_) (ih hchain)
    -- What stands directly in the row is no cell.
    cases rows with
    | nil => exact rowCells_fill fun hcell => absurd hcell (hnext row rfl hname)
    | cons g rows => exact rowCells_fill fun hcell => absurd hcell (hnext g rfl hname)

theorem IsLine.sameMarkdown (hp : IsBlankClass p) (hline : IsLine line)
    (h : RespacedNodes skip p everywhere ns ns') :
    SameMarkdown skip (fill line ns) (fill line ns') := by
  cases hline with
  | @block f before after hrule =>
    refine ⟨?_, tableRows_fill (fun _ => h.cells) h.rows, rowCells_fill fun _ => h.lineOf hp f.name⟩
    refine (sameText_cons f.after (fun parent verbatim inline => ?_)
      fun _ _ => h.lineOf hp f.name).append f.before
    have hcontent := (h.children f.name verbatim true (by simp)).squeeze_eq hp.blank
    have hspacing : (Spacing.squeezed == .verbatim) = false ∧
        (Spacing.squeezed == .squeezed) = true := by decide
    rw [nodeMarkdown, nodeMarkdown, hrule]
    simp only [hspacing, Bool.or_false, Bool.or_true, if_true, hcontent]
  | @cell table row cell rows hrule hchain hrow hcell =>
    have hname := name_of_table hrule
    have hrows := tableRows_fill_cell h.rows h.cells (h.lineOf hp cell.name) hchain
    refine ⟨?_, tableRows_fill (fun hrow => ?_) hrows, rowCells_fill fun hcell => ?_⟩
    · refine (sameText_cons table.after (fun parent verbatim inline => ?_)
        fun hitem => ?_).append table.before
      · rw [nodeMarkdown, nodeMarkdown, hrule]
        dsimp only
        rw [← fill, hrows, ← fill]
      · rw [hname] at hitem
        exact absurd hitem (by decide)
    · rw [hname] at hrow
      exact absurd hrow (by decide)
    · rw [hname] at hcell
      exact absurd hcell (by decide)

/-! ## Pages -/

/-- A document has the page of a frame that is the main element, or else of what is inside. -/
theorem markdown?_fill (hmain : Html.asciiLower f.name = "main" → SameText skip ns ns')
    (hinner : Html.asciiLower f.name ≠ "main" → markdown? skip ns = markdown? skip ns') :
    markdown? skip (f.fill ns) = markdown? skip (f.fill ns') := by
  simp only [markdown?, mainElement?, elementsOf_fill, List.find?_append, Option.map_or] at hinner ⊢
  by_cases hname : Html.asciiLower f.name = "main"
  · rw [List.find?_cons_of_pos (by simpa using hname),
      List.find?_cons_of_pos (by simpa using hname), Option.map_some, Option.map_some,
      (hmain hname).children]
  · rw [List.find?_cons_of_neg (by simpa using hname),
      List.find?_cons_of_neg (by simpa using hname), List.find?_append, List.find?_append,
      Option.map_or, Option.map_or, hinner hname]

theorem markdown?_fill_of_no_main (hpath : ∀ f ∈ path, Html.asciiLower f.name ≠ "main")
    (h : markdown? skip ns = markdown? skip ns') :
    markdown? skip (fill path ns) = markdown? skip (fill path ns') := by
  induction path with
  | nil => exact h
  | cons f path ih =>
    obtain ⟨hf, hpath⟩ := List.forall_mem_cons.1 hpath
    exact markdown?_fill (fun hname => absurd hname hf) fun _ => ih hpath

theorem SameMarkdown.fill_path (h : SameMarkdown skip ns ns') (path : List Frame) :
    SameMarkdown skip (Page.fill path ns) (Page.fill path ns') := by
  induction path with
  | nil => exact h
  | cons f path ih => exact ih.fill f

/-- Nodes that are written alike have the same page around them, when there is a main element around
them or none begins inside them. -/
theorem markdown?_fill_of_sameMarkdown (h : SameMarkdown skip ns ns')
    (hmain : markdown? skip ns = markdown? skip ns' ∨
      ∃ f ∈ outer, Html.asciiLower f.name = "main") :
    markdown? skip (fill outer ns) = markdown? skip (fill outer ns') := by
  induction outer with
  | nil => exact hmain.resolve_right (by simp)
  | cons f outer ih =>
    refine markdown?_fill (fun _ => (h.fill_path outer).toSameText) fun hname => ih ?_
    exact hmain.imp_right fun ⟨g, hg, hgmain⟩ =>
      ⟨g, (List.mem_cons.1 hg).resolve_left (by rintro rfl; exact hname hgmain), hgmain⟩

theorem markdown?_text (before after : List Node) (home : Option String) (s t : String) :
    markdown? skip (before ++ .text home s :: after) =
      markdown? skip (before ++ .text home t :: after) := by
  rw [markdown?, markdown?, mainElement?, mainElement?, elementsOf_append, elementsOf_append]
  rfl

theorem respaced_between {w w' : String} (hw : w ≠ "" ∧ ∀ c ∈ w.toList, p c = true)
    (hw' : w' ≠ "" ∧ ∀ c ∈ w'.toList, p c = true) (s t : String) :
    Respaced p (s ++ w ++ t).toList (s ++ w' ++ t).toList := by
  have hne {w : String} (hw : w ≠ "") : w.toList ≠ [] := fun he =>
    hw (String.toList_eq_nil_iff.1 he)
  simp only [String.toList_append, List.append_assoc]
  exact .between (hne hw.1) (hne hw'.1) hw.2 hw'.2 _ _

/-- A text on a squeezed line may be respaced. -/
theorem markdown?_fill_respaced (everywhere : Bool) (hp : IsBlankClass p) (hline : IsLine line)
    (hmain : (∀ f ∈ line ++ inner, Html.asciiLower f.name ≠ "main") ∨
      ∃ f ∈ outer, Html.asciiLower f.name = "main")
    (h : Respaced p s.toList t.toList) (hfeed : everywhere = true → SameFeed s t)
    (hquote : NoQuotation inner ∨
      everywhere = true ∧ ∀ c, p c = true → Text.isLineEnd c = false)
    (hitems : everywhere = true ∨ InItems inner) (home : Option String) (before after : List Node) :
    markdown? skip (fill (outer ++ line ++ inner) (before ++ .text home s :: after)) =
      markdown? skip (fill (outer ++ line ++ inner) (before ++ .text home t :: after)) := by
  have htext : RespacedNodes skip p everywhere (.text home s :: after) (.text home t :: after) :=
    respacedNodes_text hp h hfeed home after
  have hlines : SameLines skip (.text home s :: after) (.text home t :: after) :=
    sameLines_text hp h home after
  have hinner :=
    (respacedNodes_fill hp (htext.append before) (hlines.append before) hquote hitems).1
  rw [List.append_assoc, fill_append, fill_append line, fill_append outer, fill_append line]
  refine markdown?_fill_of_sameMarkdown (hline.sameMarkdown hp hinner) (hmain.imp_left ?_)
  intro hnone
  rw [← fill_append, ← fill_append]
  exact markdown?_fill_of_no_main hnone (markdown?_text before after home s t)

/-- On a squeezed line the blanks between words may be any others: what separates the words is one
space. Under a quotation the blanks must not end lines; beside the items of a list, a text that is
all blank must keep or lack a line feed. -/
theorem pageMarkdown_respaced {w w' : String} (hline : IsLine line)
    (hmain : (∀ f ∈ line ++ inner, Html.asciiLower f.name ≠ "main") ∨
      ∃ f ∈ outer, Html.asciiLower f.name = "main")
    (hw : w ≠ "" ∧ Text.allBlank w = true) (hw' : w' ≠ "" ∧ Text.allBlank w' = true)
    (hquote : NoQuotation inner ∨ ∀ c ∈ (w ++ w').toList, Text.isLineEnd c = false)
    (hitems : InItems inner ∨ SameFeed (s ++ w ++ t) (s ++ w' ++ t))
    (home : Option String) (before after : List Node) :
    markdown? skip
        (fill (outer ++ line ++ inner) (before ++ .text home (s ++ w ++ t) :: after)) =
      markdown? skip
        (fill (outer ++ line ++ inner) (before ++ .text home (s ++ w' ++ t) :: after)) := by
  have hblank := List.all_eq_true.1 hw.2
  have hblank' := List.all_eq_true.1 hw'.2
  rcases hquote with hquote | hends
  · have hp : IsBlankClass Text.isBlank := ⟨fun _ h => h, by decide⟩
    have h := respaced_between ⟨hw.1, hblank⟩ ⟨hw'.1, hblank'⟩ s t
    rcases hitems with hitems | hfeed
    · exact markdown?_fill_respaced false hp hline hmain h
        (fun he => absurd he (by decide)) (.inl hquote) (.inr hitems) home before after
    · exact markdown?_fill_respaced true hp hline hmain h (fun _ => hfeed)
        (.inl hquote) (.inl rfl) home before after
  · -- The blanks that end no line are a class of their own, and no such blank is a line feed.
    rw [String.toList_append, List.forall_mem_append] at hends
    have hp : IsBlankClass fun c => Text.isBlank c && !Text.isLineEnd c :=
      ⟨fun c hc => (Bool.and_eq_true_iff.1 hc).1, by decide⟩
    have h := respaced_between (p := fun c => Text.isBlank c && !Text.isLineEnd c)
      ⟨hw.1, fun c hc => by simp [hblank c hc, hends.1 c hc]⟩
      ⟨hw'.1, fun c hc => by simp [hblank' c hc, hends.2 c hc]⟩ s t
    have hend : ∀ c, (Text.isBlank c && !Text.isLineEnd c) = true → Text.isLineEnd c = false :=
      fun c hc => by simpa using (Bool.and_eq_true_iff.1 hc).2
    exact markdown?_fill_respaced true hp hline hmain h
      (fun _ _ => h.mem_iff (by decide)) (.inr ⟨rfl, hend⟩) (.inl rfl) home before after

/-- A list with one item. -/
def itemFrames : List Frame := [⟨[], "ul", [], []⟩, ⟨[], "li", [], []⟩]

/-- In an item, a line break between two elements is as good as a space. -/
theorem pageMarkdown_respaced_item :
    IsLine [⟨[], "li", [], []⟩] ∧ ("\n    " ≠ "" ∧ Text.allBlank "\n    " = true) ∧
      (" " ≠ "" ∧ Text.allBlank " " = true) ∧ NoQuotation [] ∧ InItems [] ∧
      markdown? .default (fill ([mainFrame, ⟨[], "ul", [], []⟩] ++ [⟨[], "li", [], []⟩] ++ [])
        ([Node.element "em" [] [.text none "one"]] ++ Node.text none ("" ++ "\n    " ++ "") ::
          [Node.element "strong" [] [.text none "two"]])) =
      markdown? .default (fill ([mainFrame, ⟨[], "ul", [], []⟩] ++ [⟨[], "li", [], []⟩] ++ [])
        ([Node.element "em" [] [.text none "one"]] ++ Node.text none ("" ++ " " ++ "") ::
          [Node.element "strong" [] [.text none "two"]])) := by
  have hrule : ruleFor "li" = .wrap "" "" .squeezed := by decide
  have hline : IsLine [⟨[], "li", [], []⟩] := .block hrule
  have hw : "\n    " ≠ "" ∧ Text.allBlank "\n    " = true := by decide
  have hw' : " " ≠ "" ∧ Text.allBlank " " = true := by decide
  have hquote : NoQuotation [] := by simp [NoQuotation]
  have hitems : InItems [] := .nil
  have hmain : ∃ f ∈ [mainFrame, ⟨[], "ul", [], []⟩], Html.asciiLower f.name = "main" :=
    ⟨mainFrame, by simp, by decide⟩
  exact ⟨hline, hw, hw', hquote, hitems,
    pageMarkdown_respaced hline (.inr hmain) hw hw' (.inl hquote) (.inl hitems) none _ _⟩

/-- Two code spans, apart by a text. -/
def twoSpans (s : String) : List Node :=
  [.element "code" [] [.text none "a"], .text none s, .element "code" [] [.text none "b"]]

/-- In a quotation in an item, and in an element beside the items of a list in an item, words that a
line break separates run together. -/
theorem words_run_together :
    markdown? .default (fill (mainFrame :: itemFrames ++ [⟨[], "blockquote", [], []⟩])
        (twoSpans "\n")) = some "- > `a``b`\n\n" ∧
      markdown? .default (fill (mainFrame :: itemFrames ++ [⟨[], "blockquote", [], []⟩])
        (twoSpans " ")) = some "- > `a` `b`\n\n" ∧
      markdown? .default
        (fill (mainFrame :: itemFrames ++ [⟨[], "ul", [], []⟩, ⟨[], "div", [], []⟩])
          (twoSpans "\n")) = some "- `a``b`\n\n" ∧
      markdown? .default
        (fill (mainFrame :: itemFrames ++ [⟨[], "ul", [], []⟩, ⟨[], "div", [], []⟩])
          (twoSpans " ")) = some "- `a` `b`\n\n" := by
  refine ⟨by rfl, by rfl, by rfl, by rfl⟩

end CrateBook.Page
