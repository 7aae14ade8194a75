import CrateBook.Proofs.Page.Rule
import CrateBook.Proofs.Text.Ordinary
import CrateBook.Proofs.Markdown.References

/-!
# No word is lost

Blocks collect what they hold in ways of their own: a list by its items, a definition list by its
terms, a table by the rows at any depth in it. Whatever they find they pass on, every ordinary
character of it (`ordinary_nodeMarkdown` and the lemmas mutual with it). On orderly nodes they find
every text that is shown, once and in its place (`found_shownAt` and the lemmas mutual with it). So
the ordinary characters of a page are those of the text that it shows: `ordinary_pageMarkdown`.
-/

namespace CrateBook.Page

open Html (Node Element AttrValue)
open Text (ordinary)

/-! ## What is shown -/

mutual

/-- The texts at a node, in document order. -/
def textsAt : Node → List String
  | .text _ s => [s]
  | .comment _ => []
  | .cdata _ => []
  | .element _ _ children => textsIn children

/-- The texts at a list of nodes, in document order. -/
def textsIn : List Node → List String
  | [] => []
  | n :: ns => textsAt n ++ textsIn ns

end

mutual

/-- The texts at a node that stand in nothing left out, in document order. -/
def shownAt (skip : SkipRules) : Node → List String
  | .text _ s => [s]
  | .comment _ => []
  | .cdata _ => []
  | .element name attrs children => if skip.skips name attrs then [] else shownIn skip children

/-- The texts at a list of nodes that stand in nothing left out, in document order. -/
def shownIn (skip : SkipRules) : List Node → List String
  | [] => []
  | n :: ns => shownAt skip n ++ shownIn skip ns

end

/-- The ordinary characters that nodes show. -/
def shown (skip : SkipRules) (ns : List Node) : List Char := (shownIn skip ns).flatMap ordinary

/-- The name of a cell. -/
def isCell (name : String) : Bool := name == "th" || name == "td"

mutual

/-- The texts at a node that are found when it is written, in the order in which they are found. -/
def foundAt (skip : SkipRules) : Node → List String
  | .text _ s => [s]
  | .comment _ => []
  | .cdata _ => []
  | .element name attrs children =>
    if skip.skips name attrs then []
    else match ruleFor name with
      | .definitions => foundInDefinitions skip children
      | .table => foundInRows skip children
      | _ => foundIn skip children

/-- The texts that are found at a list of nodes. -/
def foundIn (skip : SkipRules) : List Node → List String
  | [] => []
  | n :: ns => foundAt skip n ++ foundIn skip ns

/-- The texts that are found in the terms and descriptions of a definition list. -/
def foundInDefinitions (skip : SkipRules) : List Node → List String
  | [] => []
  | .element name attrs children :: ns =>
    (if (name == "dt" || name == "dd") && !skip.skips name attrs then foundIn skip children
      else []) ++ foundInDefinitions skip ns
  | .text _ _ :: ns => foundInDefinitions skip ns
  | .comment _ :: ns => foundInDefinitions skip ns
  | .cdata _ :: ns => foundInDefinitions skip ns

/-- The texts that are found in the rows at any depth inside a table. -/
def foundInRows (skip : SkipRules) : List Node → List String
  | [] => []
  | .element name _ children :: ns =>
    (if name == "tr" then foundInCells skip children else []) ++ foundInRows skip children ++
      foundInRows skip ns
  | .text _ _ :: ns => foundInRows skip ns
  | .comment _ :: ns => foundInRows skip ns
  | .cdata _ :: ns => foundInRows skip ns

/-- The texts that are found in the cells of a row. -/
def foundInCells (skip : SkipRules) : List Node → List String
  | [] => []
  | .element name _ children :: ns =>
    (if isCell name then foundIn skip children else []) ++ foundInCells skip ns
  | .text _ _ :: ns => foundInCells skip ns
  | .comment _ :: ns => foundInCells skip ns
  | .cdata _ :: ns => foundInCells skip ns

end

/-- The texts at nodes are blank. -/
def IsBlank (ns : List Node) : Prop := ∀ s ∈ textsIn ns, Text.allBlank s = true

/-! ## Orderly nodes -/

/-- The node may stand in a definition list: it is a term or a description, is left out, or has no
words of its own. -/
def IsDefinitionPart (skip : SkipRules) : Node → Prop
  | .text _ s => Text.allBlank s = true
  | .comment _ => True
  | .cdata _ => True
  | .element name attrs _ => name = "dt" ∨ name = "dd" ∨ skip.skips name attrs = true

mutual

/-- The words at a node of a table stand in cells of rows, and what is left out on the way to the
cells, or is a cell, has none. -/
def InCells (skip : SkipRules) (inRow : Bool) : Node → Prop
  | .text _ s => Text.allBlank s = true
  | .comment _ => True
  | .cdata _ => True
  | .element name attrs children =>
    (skip.skips name attrs = true → IsBlank children) ∧
      (if inRow && isCell name then True else AllInCells skip (name == "tr") children)

/-- The words at the nodes of a table stand in cells of rows. -/
def AllInCells (skip : SkipRules) (inRow : Bool) : List Node → Prop
  | [] => True
  | n :: ns => InCells skip inRow n ∧ AllInCells skip inRow ns

end

/-- The element holds no row and no table. -/
def IsFlat (e : Element) : Prop :=
  ∀ inner ∈ Html.elementsOf e.children, inner.name ≠ "tr" ∧ inner.name ≠ "table"

/-- Nodes in which no text could be taken for a link or an entity, and line breaks are empty. -/
structure IsReadable (ns : List Node) : Prop where
  bracket : ∀ s ∈ textsIn ns, '[' ∉ s.toList
  entity : ∀ s ∈ textsIn ns, Text.contains s "&nbsp;" = false
  breaks : ∀ e ∈ Html.elementsOf ns, e.name = "br" ∨ e.name = "hr" → e.children = []

/-- Nodes in which no text could be taken for a link or an entity, line breaks are empty, definition
lists hold definitions, and the words of tables stand in cells of rows that hold no further ones. -/
structure IsOrderly (skip : SkipRules) (ns : List Node) : Prop where
  bracket : ∀ s ∈ textsIn ns, '[' ∉ s.toList
  entity : ∀ s ∈ textsIn ns, Text.contains s "&nbsp;" = false
  breaks : ∀ e ∈ Html.elementsOf ns, e.name = "br" ∨ e.name = "hr" → e.children = []
  definitions : ∀ e ∈ Html.elementsOf ns, e.name = "dl" → ∀ n ∈ e.children, IsDefinitionPart skip n
  cells : ∀ e ∈ Html.elementsOf ns, e.name = "table" → AllInCells skip false e.children
  rows : ∀ e ∈ Html.elementsOf ns, e.name = "table" →
    ∀ row ∈ Html.elementsOf e.children, row.name = "tr" → IsFlat row

variable {skip : SkipRules} {n : Node} {ns ns' inner : List Node} {name before after fixed : String}
  {attrs : List (String × AttrValue)} {spacing : Spacing}

theorem IsReadable.mono (h : IsReadable ns) (htexts : textsIn ns' ⊆ textsIn ns)
    (helements : Html.elementsOf ns' ⊆ Html.elementsOf ns) : IsReadable ns' where
  bracket s hs := h.bracket s (htexts hs)
  entity s hs := h.entity s (htexts hs)
  breaks e he := h.breaks e (helements he)

theorem IsReadable.head (h : IsReadable (n :: ns)) : IsReadable [n] :=
  h.mono (by simp [textsIn]) (by simp [Html.elementsOf])

theorem IsReadable.tail (h : IsReadable (n :: ns)) : IsReadable ns :=
  h.mono (by simp [textsIn]) (by simp [Html.elementsOf])

theorem IsReadable.children (h : IsReadable [.element name attrs inner]) : IsReadable inner :=
  h.mono (by simp [textsIn, textsAt]) (by simp [Html.elementsOf, Html.Node.elements])

theorem IsOrderly.readable (h : IsOrderly skip ns) : IsReadable ns :=
  ⟨h.bracket, h.entity, h.breaks⟩

theorem IsOrderly.mono (h : IsOrderly skip ns) (htexts : textsIn ns' ⊆ textsIn ns)
    (helements : Html.elementsOf ns' ⊆ Html.elementsOf ns) : IsOrderly skip ns' where
  bracket s hs := h.bracket s (htexts hs)
  entity s hs := h.entity s (htexts hs)
  breaks e he := h.breaks e (helements he)
  definitions e he := h.definitions e (helements he)
  cells e he := h.cells e (helements he)
  rows e he := h.rows e (helements he)

theorem IsOrderly.head (h : IsOrderly skip (n :: ns)) : IsOrderly skip [n] :=
  h.mono (by simp [textsIn]) (by simp [Html.elementsOf])

theorem IsOrderly.tail (h : IsOrderly skip (n :: ns)) : IsOrderly skip ns :=
  h.mono (by simp [textsIn]) (by simp [Html.elementsOf])

theorem IsOrderly.children (h : IsOrderly skip [.element name attrs inner]) :
    IsOrderly skip inner :=
  h.mono (by simp [textsIn, textsAt]) (by simp [Html.elementsOf, Html.Node.elements])

theorem mem_elementsOf_self :
    (⟨name, attrs, inner⟩ : Element) ∈ Html.elementsOf [.element name attrs inner] := by
  simp [Html.elementsOf, Html.Node.elements]

/-! ## Text -/

theorem after?_map {f : Char → Char} {p cs : List Char} (hf : ∀ a ∈ p, ∀ c, f c = a ↔ c = a) :
    Text.after? p (cs.map f) = (Text.after? p cs).map (·.map f) := by
  induction p generalizing cs with
  | nil => rfl
  | cons a p ih =>
    cases cs with
    | nil => rfl
    | cons c cs =>
      rw [List.map_cons, Text.after?, Text.after?]
      have hc : a = f c ↔ a = c := by rw [eq_comm, hf a List.mem_cons_self, eq_comm]
      by_cases h : a = c
      · rw [if_pos (hc.2 h), if_pos h, ih fun b hb => hf b (List.mem_cons_of_mem _ hb)]
      · rw [if_neg (mt hc.1 h), if_neg h]
        rfl

theorem replaceRuns_of_cutAt {p q cs : List Char} (h : (Text.cutAt p cs).2 = none) :
    Text.replaceRuns p q 0 cs = cs := by
  induction cs with
  | nil => rfl
  | cons c cs ih =>
    rw [Text.cutAt] at h
    split at h
    · cases h
    · rename_i hnone
      rw [Text.replaceRuns, hnone, Option.isSome_none, if_neg Bool.false_ne_true, ih h]

theorem cutAt_map {f : Char → Char} {p cs : List Char} (hf : ∀ a ∈ p, ∀ c, f c = a ↔ c = a)
    (h : (Text.cutAt p cs).2 = none) : (Text.cutAt p (cs.map f)).2 = none := by
  induction cs with
  | nil => exact h
  | cons c cs ih =>
    rw [Text.cutAt] at h
    split at h
    · cases h
    · rename_i hnone
      have hmap : Text.after? p ((c :: cs).map f) = (Text.after? p (c :: cs)).map (·.map f) :=
        after?_map hf
      rw [hnone, List.map_cons] at hmap
      rw [List.map_cons, Text.cutAt, hmap]
      exact ih h

theorem toList_breakable_eq (s : String) : (breakable s).toList =
    Text.replaceRuns ['&', 'n', 'b', 's', 'p', ';'] [' '] 0
      (s.toList.map fun c => if c = '\u00A0' then ' ' else c) := by
  have hspaces : (Text.replace s "\u00A0" " ").toList =
      s.toList.map fun c => if c = '\u00A0' then ' ' else c := by
    rw [Text.replace, String.toList_ofList]
    exact Text.replaceRuns_singleton '\u00A0' ' ' s.toList
  rw [breakable, Text.replace, String.toList_ofList, hspaces]
  rfl

/-- A text without entities has its no-break spaces made spaces, and nothing else. -/
theorem toList_breakable {s : String} (h : Text.contains s "&nbsp;" = false) :
    (breakable s).toList = s.toList.map fun c => if c = '\u00A0' then ' ' else c := by
  have hcut : (Text.cutAt "&nbsp;".toList s.toList).2 = none := by
    rw [Text.contains, Bool.or_eq_false_iff] at h
    simpa using h.2
  rw [toList_breakable_eq]
  refine replaceRuns_of_cutAt (cutAt_map (fun a ha c => ?_) hcut)
  have hspace : ' ' ∉ "&nbsp;".toList := by decide
  have hnoBreak : '\u00A0' ∉ "&nbsp;".toList := by decide
  split
  · rename_i hc
    rw [hc]
    exact iff_of_false (fun he => hspace (he ▸ ha)) fun he => hnoBreak (he ▸ ha)
  · exact Iff.rfl

theorem stripRuns_eq_self {cs : List Char} (h : '[' ∉ cs) : Markdown.stripRuns cs = cs := by
  have hnil : Markdown.stripRuns [] = [] := by rw [Markdown.stripRuns]
  have happend := Markdown.stripRuns_append h []
  rwa [hnil, List.append_nil] at happend

theorem ordinary_breakable {s : String} (h : Text.contains s "&nbsp;" = false) :
    ordinary (breakable s) = ordinary s := by
  rw [ordinary, toList_breakable h, ordinary]
  induction s.toList with
  | nil => rfl
  | cons c cs ih =>
    rw [List.map_cons, List.filter_cons, List.filter_cons, ih]
    by_cases hc : c = '\u00A0'
    · subst hc
      rfl
    · rw [if_neg hc]

theorem ordinary_textMarkdown (verbatim inline : Bool) {s : String} (hbracket : '[' ∉ s.toList)
    (hentity : Text.contains s "&nbsp;" = false) :
    ordinary (textMarkdown verbatim inline s) = ordinary s := by
  have hkeep := ordinary_breakable hentity
  have hbracket' : '[' ∉ (breakable s).toList := by
    rw [toList_breakable hentity, List.mem_map]
    rintro ⟨c, hc, he⟩
    split at he
    · cases he
    · exact hbracket (he ▸ hc)
  rw [textMarkdown]
  split
  · exact hkeep
  · split
    · rename_i hblank
      rw [← hkeep, Text.ordinary_of_allBlank hblank]
      split <;> rfl
    · rw [Markdown.stripReferences, stripRuns_eq_self hbracket', String.ofList_toList, hkeep]

theorem ordinary_marks (name : String) : ordinary (ruleFor name).marks = [] :=
  forall_ruleFor (p := fun _ r => ordinary r.marks = []) (by decide) (fun _ => rfl) name

theorem ordinary_of_wrap (h : ruleFor name = .wrap before after spacing) :
    ordinary before = [] ∧ ordinary after = [] := by
  have hmarks := ordinary_marks name
  rw [h, Rule.marks, Text.ordinary_append] at hmarks
  exact List.append_eq_nil_iff.1 hmarks

/-! ## Blocks -/

theorem ordinary_paragraph (lines : List String) :
    ordinary (paragraph lines) = lines.flatMap ordinary := by
  rw [paragraph]
  split
  · rename_i h
    rw [List.isEmpty_iff.1 h]
    rfl
  · rw [Text.ordinary_append, Text.ordinary_intercalate (by decide)]
    simp [show ordinary "\n\n" = [] by decide]

theorem ordinary_marker (ordered : Bool) (count : Nat) : ordinary (marker ordered count) = [] := by
  cases ordered
  · rw [marker, if_neg Bool.false_ne_true]
    decide
  · rw [marker, if_pos rfl, Text.ordinary_append, Text.ordinary_toString]
    rfl

/-- The text of a definition. -/
def Definition.text : Definition → String
  | .term s => s
  | .description s => s

/-- The texts of an entry. -/
def Entry.texts (e : Entry) : List String := e.term.toList ++ e.descriptions

/-- Every definition belongs to one entry, and entries are in order. -/
theorem texts_entriesFrom (ds : List Definition) :
    (entriesFrom ds).1 ++ (entriesFrom ds).2.flatMap Entry.texts = ds.map Definition.text := by
  induction ds with
  | nil => rfl
  | cons d ds ih =>
    cases d <;> simp [entriesFrom, Entry.texts, Definition.text, ← ih]

theorem texts_entries (ds : List Definition) :
    (entries ds).flatMap Entry.texts = ds.map Definition.text := by
  rw [← texts_entriesFrom, entries]
  dsimp only
  split
  · rename_i h
    rw [List.isEmpty_iff.1 h]
    rfl
  · rfl

theorem flatMap_ordinary_filter (l : List String) :
    (l.filter (· != "")).flatMap ordinary = l.flatMap ordinary := by
  induction l with
  | nil => rfl
  | cons s l ih =>
    by_cases hs : s = ""
    · simp [hs, ih]
    · simp [hs, ih]

theorem ordinary_line? (e : Entry) :
    e.line?.toList.flatMap ordinary = e.texts.flatMap ordinary := by
  obtain ⟨term, descriptions⟩ := e
  have hdescription : ordinary (" ".intercalate (descriptions.filter (· != ""))) =
      descriptions.flatMap ordinary := by
    rw [Text.ordinary_intercalate (by decide), flatMap_ordinary_filter]
  rw [Entry.line?, Entry.texts, List.flatMap_append, ← hdescription]
  dsimp only
  cases term with
  | none =>
    dsimp only
    split
    · rename_i h
      rw [eq_of_beq h]
      rfl
    · simp [show ordinary "- " = [] by decide]
  | some term =>
    have hmarks : ordinary "- **" = [] ∧ ordinary "**" = [] ∧ ordinary ": " = [] := by decide
    dsimp only
    split
    · rename_i h
      simp [hmarks, eq_of_beq h]
    · simp [hmarks]

theorem ordinary_definitions (ds : List Definition) :
    ordinary (paragraph ((entries ds).filterMap Entry.line?)) =
      (ds.map Definition.text).flatMap ordinary := by
  rw [ordinary_paragraph, ← texts_entries, List.flatMap_assoc]
  induction entries ds with
  | nil => rfl
  | cons e es ih =>
    rw [List.flatMap_cons, ← ih, ← ordinary_line?, List.filterMap_cons]
    cases e.line? <;> simp

theorem ordinary_quotation (content : String) :
    ordinary (quotation content) = ordinary content := by
  rw [quotation]
  dsimp only
  split
  · rename_i h
    rw [← Text.ordinary_trim content, eq_of_beq h]
  · have hline (l : String) : ordinary (if l == "" then ">" else "> " ++ l) = ordinary l := by
      split
      · rename_i h
        rw [eq_of_beq h]
        decide
      · rw [Text.ordinary_append, show ordinary "> " = [] by decide, List.nil_append]
    rw [Text.ordinary_append, Text.ordinary_intercalate (by decide), List.map_map, List.flatMap_map,
      show ordinary "\n\n" = [] by decide, List.append_nil, ← Text.ordinary_trim content,
      ← Text.flatMap_ordinary_lines]
    refine List.flatMap_congr fun l _ => ?_
    rw [Function.comp_apply, hline, Text.ordinary_squeeze]

theorem ordinary_row (cells : List String) :
    ordinary (Markdown.row cells) = cells.flatMap ordinary := by
  have hmarks : ordinary "| " = [] ∧ ordinary " |" = [] := by decide
  rw [Markdown.row, Text.ordinary_append, Text.ordinary_append, hmarks.1, hmarks.2,
    Text.ordinary_intercalate (by decide), List.nil_append, List.append_nil]

theorem ordinary_separator (n : Nat) : ordinary (Markdown.separator n) = [] := by
  rw [Markdown.separator, ordinary_row, List.flatMap_eq_nil_iff]
  intro s hs
  rw [(List.mem_replicate.1 hs).2]
  decide

theorem ordinary_tableOf (rows : List (List String)) :
    ordinary (tableOf rows) = rows.flatMap (·.flatMap ordinary) := by
  have hpad (n : Nat) (r : List String) :
      (r ++ List.replicate n "").flatMap ordinary = r.flatMap ordinary := by
    rw [List.flatMap_append, List.flatMap_replicate]
    simp
  rw [tableOf]
  cases rows with
  | nil => rfl
  | cons r rows =>
    rw [List.map_cons]
    dsimp only
    rw [Text.ordinary_append, Markdown.table, Text.ordinary_intercalate (by decide)]
    simp only [List.flatMap_cons, ordinary_separator, ordinary_row, hpad, List.flatMap_map,
      List.nil_append]
    rw [show ordinary "\n\n" = [] by decide, List.append_nil]

theorem ordinary_escaped (content : String) :
    ordinary (Text.replace content "|" "\\|") = ordinary content := by
  have hbar : "|".toList = ['|'] := rfl
  have hescaped : "\\|".toList = ['\\', '|'] := rfl
  refine Text.ordinary_replace hbar ?_ ?_ content
  · simp [hbar, Text.isMark]
  · simp [hescaped, Text.isMark]

/-! ## Tables -/

theorem shown_cons (n : Node) (ns : List Node) :
    shown skip (n :: ns) = (shownAt skip n).flatMap ordinary ++ shown skip ns := by
  rw [shown, shownIn, List.flatMap_append]
  rfl

mutual

theorem shownAt_subset (skip : SkipRules) : ∀ n : Node, shownAt skip n ⊆ textsAt n
  | .text _ s => by simp [shownAt, textsAt]
  | .comment _ => by simp [shownAt]
  | .cdata _ => by simp [shownAt]
  | .element name attrs inner => by
    rw [shownAt, textsAt]
    split
    · exact List.nil_subset _
    · exact shownIn_subset skip inner

theorem shownIn_subset (skip : SkipRules) : ∀ ns : List Node, shownIn skip ns ⊆ textsIn ns
  | [] => List.nil_subset _
  | n :: ns => by
    rw [shownIn, textsIn]
    exact List.append_subset.2 ⟨List.subset_append_of_subset_left _ (shownAt_subset skip n),
      List.subset_append_of_subset_right _ (shownIn_subset skip ns)⟩

end

theorem IsBlank.shown (h : IsBlank ns) : shown skip ns = [] := by
  rw [Page.shown, List.flatMap_eq_nil_iff]
  exact fun s hs => Text.ordinary_of_allBlank (h s (shownIn_subset skip ns hs))

/-- What is left out shows what it holds when that is blank. -/
theorem shownAt_element (h : skip.skips name attrs = true → IsBlank inner) :
    (shownAt skip (.element name attrs inner)).flatMap ordinary = shown skip inner := by
  rw [shownAt]
  split
  · rename_i hskip
    rw [(h hskip).shown]
    rfl
  · rfl

/-- A row without cells holds nothing. -/
theorem flatMap_nonempty (cells : List String) :
    ([cells].filter (!·.isEmpty)).flatMap (·.flatMap ordinary) = cells.flatMap ordinary := by
  cases cells with
  | nil => rfl
  | cons c cs => exact List.append_nil _

mutual

/-- What holds no row holds no words. -/
theorem InCells.blank (skip : SkipRules) : ∀ n : Node, InCells skip false n →
    (∀ e ∈ Html.Node.elements n, e.name ≠ "tr") → ∀ s ∈ textsAt n, Text.allBlank s = true
  | .text _ s, h, _ => by simpa [textsAt] using show Text.allBlank s = true from h
  | .comment _, _, _ => by simp [textsAt]
  | .cdata _, _, _ => by simp [textsAt]
  | .element name attrs inner, h, hrow => by
    rw [Html.Node.elements] at hrow
    have hname : (name == "tr") = false := beq_eq_false_iff_ne.2 (hrow _ List.mem_cons_self)
    have hinner := h.2
    rw [Bool.false_and, if_neg Bool.false_ne_true, hname] at hinner
    exact AllInCells.blank skip inner hinner fun e he => hrow e (List.mem_cons_of_mem _ he)

theorem AllInCells.blank (skip : SkipRules) : ∀ ns : List Node, AllInCells skip false ns →
    (∀ e ∈ Html.elementsOf ns, e.name ≠ "tr") → IsBlank ns
  | [], _, _ => by simp [IsBlank, textsIn]
  | n :: ns, h, hrow => by
    rw [Html.elementsOf, List.forall_mem_append] at hrow
    rw [IsBlank, textsIn, List.forall_mem_append]
    exact ⟨InCells.blank skip n h.1 hrow.1, AllInCells.blank skip ns h.2 hrow.2⟩

end

/-- In a table the cells of all its rows are found, each row before the rows inside it. -/
theorem foundInRows_eq (skip : SkipRules) : ∀ ns : List Node, foundInRows skip ns =
    ((Html.elementsOf ns).filter (·.name == "tr")).flatMap (foundInCells skip ·.children)
  | [] => rfl
  | .text _ _ :: ns => foundInRows_eq skip ns
  | .comment _ :: ns => foundInRows_eq skip ns
  | .cdata _ :: ns => foundInRows_eq skip ns
  | .element name attrs inner :: ns => by
    rw [foundInRows, foundInRows_eq skip inner, foundInRows_eq skip ns, Html.elementsOf,
      Html.Node.elements, List.filter_append, List.filter_cons, List.flatMap_append]
    split <;> simp

/-! ## Nodes -/

mutual

/-- A readable node is written with the ordinary characters of the texts that are found at it. -/
theorem ordinary_nodeMarkdown (skip : SkipRules) (parent : String) (verbatim inline : Bool) :
    ∀ n : Node, IsReadable [n] →
      ordinary (nodeMarkdown skip parent verbatim inline n) = (foundAt skip n).flatMap ordinary
  | .text home s, h => by
    have hs : s ∈ textsIn [.text home s] := by simp [textsIn, textsAt]
    rw [nodeMarkdown, foundAt, ordinary_textMarkdown _ _ (h.bracket s hs) (h.entity s hs)]
    simp
  | .comment _, _ => rfl
  | .cdata _, _ => rfl
  | .element name attrs inner, h => by
    rw [nodeMarkdown, foundAt]
    split
    · rfl
    have hinner := h.children
    cases hrule : ruleFor name with
    | wrap before after spacing =>
      have hmarks := ordinary_of_wrap hrule
      have hcontent := ordinary_childrenMarkdown skip name (verbatim || spacing == .verbatim)
        (inline || spacing == .squeezed) inner hinner
      dsimp only
      rw [Text.ordinary_append, Text.ordinary_append, hmarks.1, hmarks.2, List.nil_append,
        List.append_nil]
      split
      · rw [Text.ordinary_squeeze, hcontent]
      · exact hcontent
    | fixed text =>
      have hempty := h.breaks _ mem_elementsOf_self (name_of_fixed hrule)
      have hmarks := ordinary_marks name
      rw [hrule] at hmarks
      dsimp only at hempty ⊢
      rw [hempty]
      exact hmarks
    | code =>
      have hcontent := ordinary_childrenMarkdown skip name true false inner hinner
      dsimp only
      split
      · exact hcontent
      · rw [Text.ordinary_append, Text.ordinary_append, hcontent,
          show ordinary "`" = [] by decide, List.nil_append, List.append_nil]
    | list ordered =>
      dsimp only
      rw [ordinary_paragraph, ordinary_listLines skip name ordered 1 inner hinner]
    | definitions =>
      dsimp only
      rw [ordinary_definitions, ordinary_definitionTexts skip inner hinner]
    | quote =>
      dsimp only
      rw [ordinary_quotation, ordinary_childrenMarkdown skip name false false inner hinner]
    | table =>
      dsimp only
      rw [ordinary_tableOf, ordinary_tableRows skip inner hinner]

theorem ordinary_childrenMarkdown (skip : SkipRules) (parent : String) (verbatim inline : Bool) :
    ∀ ns : List Node, IsReadable ns →
      ordinary (childrenMarkdown skip parent verbatim inline ns) =
        (foundIn skip ns).flatMap ordinary
  | [], _ => rfl
  | n :: ns, h => by
    rw [childrenMarkdown, Text.ordinary_append, foundIn, List.flatMap_append,
      ordinary_nodeMarkdown skip parent verbatim inline n h.head,
      ordinary_childrenMarkdown skip parent verbatim inline ns h.tail]

theorem ordinary_listLines (skip : SkipRules) (parent : String) (ordered : Bool) (count : Nat) :
    ∀ ns : List Node, IsReadable ns →
      (listLines skip parent ordered count ns).flatMap ordinary = (foundIn skip ns).flatMap ordinary
  | [], _ => rfl
  | .text home s :: ns, h => by
    have hrest := fun count => ordinary_listLines skip parent ordered count ns h.tail
    have hs : s ∈ textsIn [.text home s] := by simp [textsIn, textsAt]
    have htext := ordinary_textMarkdown false true (h.head.bracket s hs) (h.head.entity s hs)
    rw [← Text.ordinary_squeeze] at htext
    rw [listLines, foundIn, foundAt, List.flatMap_append, List.flatMap_singleton, ← htext,
      ← hrest count]
    split
    · rename_i hempty
      rw [eq_of_beq hempty]
      rfl
    · rfl
  | .comment _ :: ns, h => ordinary_listLines skip parent ordered count ns h.tail
  | .cdata _ :: ns, h => ordinary_listLines skip parent ordered count ns h.tail
  | .element name attrs inner :: ns, h => by
    have hrest := fun count => ordinary_listLines skip parent ordered count ns h.tail
    rw [listLines, foundIn, List.flatMap_append]
    split
    · rename_i hname
      rw [foundAt, eq_of_beq hname]
      split
      · exact hrest count
      · have hcontent := ordinary_childrenMarkdown skip "li" false true inner h.head.children
        rw [List.flatMap_cons, hrest, Text.ordinary_append, Text.ordinary_append, ordinary_marker,
          Text.ordinary_squeeze, hcontent, show ordinary " " = [] by decide]
        rfl
    · have hcontent :=
        ordinary_nodeMarkdown skip parent false false (.element name attrs inner) h.head
      rw [← Text.ordinary_squeeze] at hcontent
      rw [← hcontent, ← hrest count]
      dsimp only
      split
      · rename_i hempty
        rw [eq_of_beq hempty]
        rfl
      · rfl

theorem ordinary_definitionTexts (skip : SkipRules) : ∀ ns : List Node, IsReadable ns →
    ((definitions skip ns).map Definition.text).flatMap ordinary =
      (foundInDefinitions skip ns).flatMap ordinary
  | [], _ => rfl
  | .text _ _ :: ns, h => ordinary_definitionTexts skip ns h.tail
  | .comment _ :: ns, h => ordinary_definitionTexts skip ns h.tail
  | .cdata _ :: ns, h => ordinary_definitionTexts skip ns h.tail
  | .element name attrs inner :: ns, h => by
    have hrest := ordinary_definitionTexts skip ns h.tail
    rw [definitions, foundInDefinitions]
    split
    · have hcontent := ordinary_childrenMarkdown skip name false true inner h.head.children
      rw [List.map_cons, List.flatMap_cons, hrest, List.flatMap_append, ← hcontent]
      split <;> rw [Definition.text, Text.ordinary_squeeze]
    · exact hrest

theorem ordinary_tableRows (skip : SkipRules) : ∀ ns : List Node, IsReadable ns →
    (tableRows skip ns).flatMap (·.flatMap ordinary) = (foundInRows skip ns).flatMap ordinary
  | [], _ => rfl
  | .text _ _ :: ns, h => ordinary_tableRows skip ns h.tail
  | .comment _ :: ns, h => ordinary_tableRows skip ns h.tail
  | .cdata _ :: ns, h => ordinary_tableRows skip ns h.tail
  | .element name attrs inner :: ns, h => by
    rw [tableRows, foundInRows, List.flatMap_append, List.flatMap_append, List.flatMap_append,
      List.flatMap_append, ordinary_tableRows skip inner h.head.children,
      ordinary_tableRows skip ns h.tail]
    congr 2
    split
    · rw [← ordinary_rowCells skip inner h.head.children, flatMap_nonempty]
    · rfl

theorem ordinary_rowCells (skip : SkipRules) : ∀ ns : List Node, IsReadable ns →
    (rowCells skip ns).flatMap ordinary = (foundInCells skip ns).flatMap ordinary
  | [], _ => rfl
  | .text _ _ :: ns, h => ordinary_rowCells skip ns h.tail
  | .comment _ :: ns, h => ordinary_rowCells skip ns h.tail
  | .cdata _ :: ns, h => ordinary_rowCells skip ns h.tail
  | .element name attrs inner :: ns, h => by
    have hrest := ordinary_rowCells skip ns h.tail
    rw [rowCells, foundInCells, isCell]
    split
    · rw [List.flatMap_cons, ordinary_escaped, Text.ordinary_squeeze, hrest, List.flatMap_append,
        ordinary_childrenMarkdown skip name false true inner h.head.children]
    · exact hrest

end

/-! ## Orderly nodes are found -/

mutual

/-- What an orderly node shows is found at it, but for blank texts. -/
theorem found_shownAt (skip : SkipRules) : ∀ n : Node, IsOrderly skip [n] →
    (foundAt skip n).flatMap ordinary = (shownAt skip n).flatMap ordinary
  | .text _ _, _ => rfl
  | .comment _, _ => rfl
  | .cdata _, _ => rfl
  | .element name attrs inner, h => by
    have hinner := h.children
    rw [foundAt, shownAt]
    split
    · rfl
    change _ = shown skip inner
    cases hrule : ruleFor name with
    | definitions =>
      exact found_definitions skip inner hinner
        (h.definitions _ mem_elementsOf_self (name_of_definitions hrule))
    | table =>
      have hname := name_of_table hrule
      exact found_rows skip inner hinner (h.cells _ mem_elementsOf_self hname)
        (h.rows _ mem_elementsOf_self hname)
    | wrap | fixed | code | list | quote => exact found_shown skip inner hinner

theorem found_shown (skip : SkipRules) : ∀ ns : List Node, IsOrderly skip ns →
    (foundIn skip ns).flatMap ordinary = shown skip ns
  | [], _ => rfl
  | n :: ns, h => by
    rw [foundIn, List.flatMap_append, shown_cons, found_shownAt skip n h.head,
      found_shown skip ns h.tail]

theorem found_definitions (skip : SkipRules) :
    ∀ ns : List Node, IsOrderly skip ns → (∀ n ∈ ns, IsDefinitionPart skip n) →
      (foundInDefinitions skip ns).flatMap ordinary = shown skip ns
  | [], _, _ => rfl
  | .text _ s :: ns, h, hparts => by
    have hs : Text.allBlank s = true := hparts _ List.mem_cons_self
    rw [foundInDefinitions, shown_cons, shownAt, List.flatMap_singleton,
      Text.ordinary_of_allBlank hs]
    exact found_definitions skip ns h.tail (List.forall_mem_cons.1 hparts).2
  | .comment _ :: ns, h, hparts =>
    found_definitions skip ns h.tail (List.forall_mem_cons.1 hparts).2
  | .cdata _ :: ns, h, hparts =>
    found_definitions skip ns h.tail (List.forall_mem_cons.1 hparts).2
  | .element name attrs inner :: ns, h, hparts => by
    have hrest := found_definitions skip ns h.tail (List.forall_mem_cons.1 hparts).2
    rw [foundInDefinitions, List.flatMap_append, hrest, shown_cons, shownAt]
    congr 1
    split
    · rename_i hshown
      rw [Bool.and_eq_true, Bool.not_eq_true'] at hshown
      rw [hshown.2, if_neg Bool.false_ne_true]
      exact found_shown skip inner h.head.children
    · rename_i hleft
      have hskip : skip.skips name attrs = true := by
        rcases hparts _ List.mem_cons_self with rfl | rfl | h
        · simpa using hleft
        · simpa using hleft
        · exact h
      rw [if_pos hskip]

theorem found_rows (skip : SkipRules) :
    ∀ ns : List Node, IsOrderly skip ns → AllInCells skip false ns →
      (∀ row ∈ Html.elementsOf ns, row.name = "tr" → IsFlat row) →
      (foundInRows skip ns).flatMap ordinary = shown skip ns
  | [], _, _, _ => rfl
  | .text _ s :: ns, h, hcells, hrows => by
    have hs : Text.allBlank s = true := hcells.1
    rw [foundInRows, shown_cons, shownAt, List.flatMap_singleton, Text.ordinary_of_allBlank hs]
    exact found_rows skip ns h.tail hcells.2 hrows
  | .comment _ :: ns, h, hcells, hrows => found_rows skip ns h.tail hcells.2 hrows
  | .cdata _ :: ns, h, hcells, hrows => found_rows skip ns h.tail hcells.2 hrows
  | .element name attrs inner :: ns, h, hcells, hrows => by
    rw [Html.elementsOf, Html.Node.elements, List.forall_mem_append, List.forall_mem_cons] at hrows
    have hrest := found_rows skip ns h.tail hcells.2 hrows.2
    have hinner := h.head.children
    obtain ⟨hskip, hwords⟩ := hcells.1
    rw [Bool.false_and, if_neg Bool.false_ne_true] at hwords
    -- What is left out is still searched for rows, but has no words for them.
    have hshown : (shownAt skip (.element name attrs inner)).flatMap ordinary =
        shown skip inner := shownAt_element hskip
    rw [foundInRows, shown_cons, hshown, List.flatMap_append, List.flatMap_append, hrest]
    congr 1
    by_cases hname : name = "tr"
    · have hflat := hrows.1.1 hname
      have hnoRow : foundInRows skip inner = [] := by
        rw [foundInRows_eq, List.filter_eq_nil_iff.2 fun e he => by simpa using (hflat e he).1]
        rfl
      subst hname
      have hrow := found_cells skip inner hinner hwords fun e he => (hflat e he).1
      rw [hnoRow, ← hrow]
      exact List.append_nil _
    · rw [beq_eq_false_iff_ne.2 hname] at hwords ⊢
      exact found_rows skip inner hinner hwords hrows.1.2

theorem found_cells (skip : SkipRules) :
    ∀ ns : List Node, IsOrderly skip ns → AllInCells skip true ns →
      (∀ e ∈ Html.elementsOf ns, e.name ≠ "tr") →
      (foundInCells skip ns).flatMap ordinary = shown skip ns
  | [], _, _, _ => rfl
  | .text _ s :: ns, h, hcells, hrows => by
    have hs : Text.allBlank s = true := hcells.1
    rw [foundInCells, shown_cons, shownAt, List.flatMap_singleton, Text.ordinary_of_allBlank hs]
    exact found_cells skip ns h.tail hcells.2 hrows
  | .comment _ :: ns, h, hcells, hrows => found_cells skip ns h.tail hcells.2 hrows
  | .cdata _ :: ns, h, hcells, hrows => found_cells skip ns h.tail hcells.2 hrows
  | .element name attrs inner :: ns, h, hcells, hrows => by
    rw [Html.elementsOf, Html.Node.elements, List.forall_mem_append, List.forall_mem_cons] at hrows
    have hrest := found_cells skip ns h.tail hcells.2 hrows.2
    obtain ⟨hskip, hwords⟩ := hcells.1
    have hshown : (shownAt skip (.element name attrs inner)).flatMap ordinary =
        shown skip inner := shownAt_element hskip
    rw [foundInCells, List.flatMap_append, shown_cons, hshown, hrest]
    congr 1
    cases hcell : isCell name with
    | true => exact found_shown skip inner h.head.children
    | false =>
      rw [hcell, Bool.and_false, if_neg Bool.false_ne_true,
        beq_eq_false_iff_ne.2 hrows.1.1] at hwords
      rw [(AllInCells.blank skip inner hwords hrows.1.2).shown]
      rfl

end

/-- A page with an orderly main element has the ordinary characters that the element shows. -/
theorem ordinary_pageMarkdown {doc : List Node} {e : Element} (hmain : mainElement? doc = some e)
    (h : IsOrderly skip e.children) :
    ∃ s, markdown? skip doc = some s ∧ ordinary s = shown skip e.children := by
  refine ⟨childrenMarkdown skip e.name false false e.children, ?_, ?_⟩
  · rw [markdown?, hmain]
    rfl
  · rw [ordinary_childrenMarkdown skip e.name false false e.children h.readable]
    exact found_shown skip e.children h

/-- A main element with a heading, a list that holds something left out, a definition list and a
table. -/
def tourOfBlocks : Element :=
  ⟨"main", [], [
    .element "h2" [] [.text .none "Tour"],
    .text .none "\n",
    .element "ul" [] [
      .element "li" [] [.text .none "one ", .element "code" [] [.text .none "x_1"]],
      .element "li" [] [.element "script" [] [.text .none "lost"]]],
    .element "dl" [] [
      .element "dt" [] [.text .none "term"],
      .element "dd" [("class", .tokens ["src"])] [.text .none "source"],
      .element "dd" [] [.text .none "meaning"]],
    .element "table" [] [
      .element "tr" [] [
        .text .none "\n",
        .element "th" [] [.text .none "a|b"],
        .element "td" [] [.element "em" [] [.text .none "cell"]]]]]⟩

theorem isOrderly_tourOfBlocks : IsOrderly .default tourOfBlocks.children where
  bracket := by decide
  entity := by decide
  breaks := by decide
  definitions := by
    simp [tourOfBlocks, Html.elementsOf, Html.Node.elements, IsDefinitionPart]
  cells := by
    have hkept : SkipRules.default.skips "tr" [] = false ∧ SkipRules.default.skips "th" [] = false ∧
        SkipRules.default.skips "td" [] = false := by decide
    have hblank : Text.allBlank "\n" = true := by decide
    simp [tourOfBlocks, Html.elementsOf, Html.Node.elements, AllInCells, InCells, isCell, hkept,
      hblank]
  rows := by
    simp [tourOfBlocks, Html.elementsOf, Html.Node.elements, IsFlat]

/-- The blocks of the tour keep their words, without those that are left out. -/
theorem ordinary_pageMarkdown_tour :
    mainElement? [.element "main" [] tourOfBlocks.children] = some tourOfBlocks ∧
      ∃ s, markdown? .default [.element "main" [] tourOfBlocks.children] = some s ∧
        ordinary s = "Touronextermmeaningabcell".toList := by
  have hmain : mainElement? [.element "main" [] tourOfBlocks.children] = some tourOfBlocks := rfl
  obtain ⟨s, hs, hwords⟩ := ordinary_pageMarkdown hmain isOrderly_tourOfBlocks
  exact ⟨hmain, s, hs, hwords.trans (by decide)⟩

end CrateBook.Page
