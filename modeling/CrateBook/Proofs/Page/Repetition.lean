import CrateBook.Proofs.Page.Conservation
import CrateBook.Proofs.Page.Frame

/-!
# How often a text is found

Tables and definition lists do not walk over what they hold. A definition list looks for terms and
descriptions among its children alone, so what stands elsewhere in it is lost. A table looks for
rows at any depth, so what stands in no cell of a row is lost, and what stands in cells inside cells
is found once for each way through them: in tables that are nested in one another, a text is found
twice as often with every table (`times_nestedTables`). `times` counts this along the frames around
a text, and `ordinary_nodeMarkdown_times` says that the count is right.
-/

namespace CrateBook.Page

open Html (Node Element AttrValue)
open Text (ordinary)

mutual

/-- How often a text is found that stands in these frames. -/
def times : List Frame → Nat
  | [] => 1
  | f :: path => match ruleFor f.name with
    | .definitions => timesInDefinitions path
    | .table => timesInRows path
    | _ => times path

/-- How often a text is found in the terms and descriptions of a definition list. -/
def timesInDefinitions : List Frame → Nat
  | [] => 0
  | f :: path => if f.name == "dt" || f.name == "dd" then times path else 0

/-- How often a text is found in the rows of a table. -/
def timesInRows : List Frame → Nat
  | [] => 0
  | f :: path => (if f.name == "tr" then timesInCells path else 0) + timesInRows path

/-- How often a text is found in the cells of a row. -/
def timesInCells : List Frame → Nat
  | [] => 0
  | f :: path => if isCell f.name then times path else 0

end

variable {skip : SkipRules} {path : List Frame} {f : Frame} {n : Node} {ns ns' : List Node}
  {s : String} {k m : Nat} {l l' r r' : List String}

/-! ## One text more -/

/-- The first list holds what the second one holds, and a text a number of times. -/
def Adds (k : Nat) (s : String) (l l' : List String) : Prop := l.Perm (List.replicate k s ++ l')

theorem Adds.refl (s : String) (l : List String) : Adds 0 s l l := List.Perm.refl l

theorem Adds.append (h : Adds k s l l') (h' : Adds m s r r') :
    Adds (k + m) s (l ++ r) (l' ++ r') := by
  have hswap : (l' ++ (List.replicate m s ++ r')).Perm (List.replicate m s ++ (l' ++ r')) := by
    rw [← List.append_assoc, ← List.append_assoc]
    exact List.perm_append_comm.append_right r'
  refine (List.Perm.append h h').trans ?_
  rw [List.append_assoc, List.replicate_add, List.append_assoc]
  exact hswap.append_left _

/-- What stands on both sides does not matter. -/
theorem Adds.between (h : Adds k s l l') (before after : List String) :
    Adds k s (before ++ (l ++ after)) (before ++ (l' ++ after)) := by
  simpa using (Adds.refl s before).append (h.append (Adds.refl s after))

theorem foundIn_append (ns ns' : List Node) :
    foundIn skip (ns ++ ns') = foundIn skip ns ++ foundIn skip ns' := by
  induction ns with
  | nil => rfl
  | cons n ns ih => rw [List.cons_append, foundIn, foundIn, ih, List.append_assoc]

theorem foundInDefinitions_append (ns ns' : List Node) : foundInDefinitions skip (ns ++ ns') =
    foundInDefinitions skip ns ++ foundInDefinitions skip ns' := by
  induction ns with
  | nil => rfl
  | cons n ns ih => cases n <;> simp [foundInDefinitions, ih]

theorem foundInRows_append (ns ns' : List Node) :
    foundInRows skip (ns ++ ns') = foundInRows skip ns ++ foundInRows skip ns' := by
  induction ns with
  | nil => rfl
  | cons n ns ih => cases n <;> simp [foundInRows, ih]

theorem foundInCells_append (ns ns' : List Node) :
    foundInCells skip (ns ++ ns') = foundInCells skip ns ++ foundInCells skip ns' := by
  induction ns with
  | nil => rfl
  | cons n ns ih => cases n <;> simp [foundInCells, ih]

/-- The ways in which a text is found in frames, each as often as it is counted. -/
structure AddsIn (skip : SkipRules) (path : List Frame) (s : String) (ns ns' : List Node) :
    Prop where
  found : Adds (times path) s (foundIn skip ns) (foundIn skip ns')
  definitions : Adds (timesInDefinitions path) s (foundInDefinitions skip ns)
    (foundInDefinitions skip ns')
  rows : Adds (timesInRows path) s (foundInRows skip ns) (foundInRows skip ns')
  cells : Adds (timesInCells path) s (foundInCells skip ns) (foundInCells skip ns')

theorem addsIn_text (before after : List Node) (home : Option String) (s : String) :
    AddsIn skip [] s (before ++ .text home s :: after) (before ++ after) where
  found := by
    have hone : Adds 1 s (foundIn skip (.text home s :: after)) (foundIn skip after) :=
      List.Perm.refl _
    rw [foundIn_append, foundIn_append, times]
    simpa using (Adds.refl s (foundIn skip before)).append hone
  definitions := by
    rw [foundInDefinitions_append, foundInDefinitions_append]
    exact .refl s _
  rows := by
    rw [foundInRows_append, foundInRows_append]
    exact .refl s _
  cells := by
    rw [foundInCells_append, foundInCells_append]
    exact .refl s _

theorem AddsIn.fill (h : AddsIn skip path s ns ns') (hkept : skip.skips f.name f.attrs = false) :
    AddsIn skip (f :: path) s (f.fill ns) (f.fill ns') where
  found := by
    have hnode : Adds (times (f :: path)) s (foundAt skip (.element f.name f.attrs ns))
        (foundAt skip (.element f.name f.attrs ns')) := by
      rw [foundAt, foundAt, hkept, if_neg Bool.false_ne_true, if_neg Bool.false_ne_true, times]
      cases ruleFor f.name with
      | definitions => exact h.definitions
      | table => exact h.rows
      | wrap | fixed | code | list | quote => exact h.found
    rw [Frame.fill, Frame.fill, foundIn_append, foundIn_append, foundIn, foundIn]
    exact hnode.between _ _
  definitions := by
    rw [Frame.fill, Frame.fill, foundInDefinitions_append, foundInDefinitions_append,
      foundInDefinitions, foundInDefinitions, hkept, Bool.not_false, Bool.and_true,
      timesInDefinitions]
    refine Adds.between ?_ _ _
    split
    · exact h.found
    · exact .refl s _
  rows := by
    rw [Frame.fill, Frame.fill, foundInRows_append, foundInRows_append, foundInRows, foundInRows,
      timesInRows]
    refine Adds.between (Adds.append ?_ h.rows) _ _
    split
    · exact h.cells
    · exact .refl s _
  cells := by
    rw [Frame.fill, Frame.fill, foundInCells_append, foundInCells_append, foundInCells,
      foundInCells, timesInCells]
    refine Adds.between ?_ _ _
    split
    · exact h.found
    · exact .refl s _

theorem mem_elementsOf_fill (hf : f ∈ path) (ns : List Node) :
    ∃ inner, (⟨f.name, f.attrs, inner⟩ : Element) ∈ Html.elementsOf (Page.fill path ns) := by
  induction path with
  | nil => cases hf
  | cons g path ih =>
    rw [fill_cons, elementsOf_fill]
    rcases List.mem_cons.1 hf with rfl | hf
    · exact ⟨Page.fill path ns, by simp⟩
    · obtain ⟨inner, hinner⟩ := ih hf
      exact ⟨inner, by simp [hinner]⟩

/-- A text is found as often as the frames around it say. -/
theorem addsIn_fill (hkept : ∀ f ∈ path, skip.skips f.name f.attrs = false)
    (before after : List Node) (home : Option String) (s : String) :
    AddsIn skip path s (fill path (before ++ .text home s :: after))
      (fill path (before ++ after)) := by
  induction path with
  | nil => exact addsIn_text before after home s
  | cons f path ih =>
    obtain ⟨hf, hpath⟩ := List.forall_mem_cons.1 hkept
    exact (ih hpath).fill hf

/-! ## Lost and repeated -/

/-- What stands in a definition list beside its terms and descriptions is lost. -/
theorem times_beside_definitions {f g : Frame} (hlist : ruleFor f.name = .definitions)
    (hname : g.name ≠ "dt" ∧ g.name ≠ "dd") (path : List Frame) : times (f :: g :: path) = 0 := by
  rw [times, hlist]
  dsimp only
  rw [timesInDefinitions, if_neg (by simpa using hname)]

theorem timesInRows_of_no_row (h : ∀ f ∈ path, f.name ≠ "tr") : timesInRows path = 0 := by
  induction path with
  | nil => rfl
  | cons f path ih =>
    obtain ⟨hf, hpath⟩ := List.forall_mem_cons.1 h
    rw [timesInRows, if_neg (by simpa using hf), ih hpath]

/-- What stands in a table, but in no row, is lost. -/
theorem times_beside_rows (htable : ruleFor f.name = .table) (h : ∀ g ∈ path, g.name ≠ "tr") :
    times (f :: path) = 0 := by
  rw [times, htable]
  exact timesInRows_of_no_row h

/-- A table down to a cell. -/
def cellFrames : List Frame := [⟨[], "table", [], []⟩, ⟨[], "tr", [], []⟩, ⟨[], "td", [], []⟩]

/-- Tables, each in a cell of the one around it. -/
def nestedTables (depth : Nat) : List Frame := (List.replicate depth cellFrames).flatten

/-- In a cell of a table a text is found in the cell, and once more in every row inside it. -/
theorem times_cellFrames (path : List Frame) :
    times (cellFrames ++ path) = times path + timesInRows path ∧
      timesInRows (cellFrames ++ path) = times path + timesInRows path := by
  have htable : ruleFor "table" = .table := by decide
  simp [cellFrames, times, htable, timesInRows, timesInCells, isCell]

/-- A text is found twice as often with every table around the innermost one. -/
theorem times_nestedTables (depth : Nat) : times (nestedTables (depth + 1)) = 2 ^ depth := by
  have hboth : times (nestedTables (depth + 1)) = 2 ^ depth ∧
      timesInRows (nestedTables (depth + 1)) = 2 ^ depth := by
    induction depth with
    | zero => exact ⟨rfl, rfl⟩
    | succ depth ih =>
      have hcell := times_cellFrames (nestedTables (depth + 1))
      rw [ih.1, ih.2, ← two_mul, ← pow_succ'] at hcell
      exact hcell
  exact hboth.1

/-! ## The characters of a block -/

mutual

theorem shownAt_eq_textsAt (skip : SkipRules) : ∀ n : Node,
    (∀ e ∈ n.elements, skip.skips e.name e.attrs = false) → shownAt skip n = textsAt n
  | .text _ _, _ => rfl
  | .comment _, _ => rfl
  | .cdata _, _ => rfl
  | .element name attrs inner, h => by
    rw [Html.Node.elements, List.forall_mem_cons] at h
    rw [shownAt, textsAt, if_neg (by simp [h.1])]
    exact shownIn_eq_textsIn skip inner h.2

theorem shownIn_eq_textsIn (skip : SkipRules) : ∀ ns : List Node,
    (∀ e ∈ Html.elementsOf ns, skip.skips e.name e.attrs = false) → shownIn skip ns = textsIn ns
  | [], _ => rfl
  | n :: ns, h => by
    rw [Html.elementsOf, List.forall_mem_append] at h
    rw [shownIn, textsIn, shownAt_eq_textsAt skip n h.1, shownIn_eq_textsIn skip ns h.2]

end

/-- A readable node in which nothing is left out is written with the ordinary characters of the
texts that are found, and each text is found as often as the frames around it say. Where definition
lists hold definitions and the words of tables stand in cells of rows without further ones, that is
once for each text, in the order of the document. -/
theorem ordinary_nodeMarkdown_times (parent : String) (verbatim inline : Bool)
    (hread : IsReadable [n]) (hkept : ∀ e ∈ n.elements, skip.skips e.name e.attrs = false) :
    ordinary (nodeMarkdown skip parent verbatim inline n) = (foundAt skip n).flatMap ordinary ∧
      (∀ path before home s after, [n] = fill path (before ++ .text home s :: after) →
        (foundAt skip n).Perm
          (List.replicate (times path) s ++ foundIn skip (fill path (before ++ after)))) ∧
      (IsOrderly skip [n] →
        ordinary (nodeMarkdown skip parent verbatim inline n) = (textsAt n).flatMap ordinary) := by
  have hfound := ordinary_nodeMarkdown skip parent verbatim inline n hread
  have hin : foundIn skip [n] = foundAt skip n := List.append_nil _
  have helements : Html.elementsOf [n] = n.elements := List.append_nil _
  refine ⟨hfound, fun path before home s after hn => ?_, fun horderly => ?_⟩
  · have hpath : ∀ f ∈ path, skip.skips f.name f.attrs = false := by
      intro f hf
      obtain ⟨inner, hinner⟩ := mem_elementsOf_fill hf (before ++ .text home s :: after)
      rw [← hn, helements] at hinner
      exact hkept _ hinner
    rw [← hin, hn]
    exact (addsIn_fill hpath before after home s).found
  · rw [hfound, found_shownAt skip n horderly, shownAt_eq_textsAt skip n hkept]

/-- A table with a caption, in whose cells stand a definition list with a group around a term, and
another table. -/
def mixedTable : Node :=
  .element "table" [] [
    .element "caption" [] [.text none "sizes"],
    .element "tr" [] [
      .element "td" [] [.element "dl" [] [
        .element "div" [] [.element "dt" [] [.text none "term"]],
        .element "dd" [] [.text none "meaning"]]],
      .element "td" [] [.element "table" [] [.element "tr" [] [.element "td" [] [
        .text none "inner"]]]]]]

/-- The caption and the term are lost, and the inner table is repeated. -/
theorem ordinary_nodeMarkdown_mixedTable :
    IsReadable [mixedTable] ∧
      (∀ e ∈ mixedTable.elements, SkipRules.default.skips e.name e.attrs = false) ∧
      ordinary (nodeMarkdown .default "main" false false mixedTable) =
        "meaninginnerinner".toList := by
  have hread : IsReadable [mixedTable] := ⟨by decide, by decide, by decide⟩
  have hkept : ∀ e ∈ mixedTable.elements, SkipRules.default.skips e.name e.attrs = false := by
    decide
  have hfound := (ordinary_nodeMarkdown_times "main" false false hread hkept).1
  exact ⟨hread, hkept, hfound.trans (by decide)⟩

/-- Texts of a table and of a definition list are lost, and rows of a nested table are repeated. -/
theorem texts_lost_and_repeated :
    markdown? .default [.element "main" [] [.element "table" [] [
        .element "caption" [] [.text none "sizes"],
        .element "tr" [] [.element "td" [] [.element "code" [] [.text none "x"]]]]]] =
      some "| `x` |\n| --- |\n\n" ∧
    markdown? .default [.element "main" [] [.element "dl" [] [.element "div" [] [
        .element "dt" [] [.text none "term"], .element "dd" [] [.text none "meaning"]]]]] =
      some "" ∧
    markdown? .default (fill (mainFrame :: nestedTables 2) [.element "code" [] [.text none "x"]]) =
      some "| \\| `x` \\| \\| --- \\| |\n| --- |\n| `x` |\n\n" := by
  refine ⟨by rfl, by rfl, by rfl⟩

end CrateBook.Page
