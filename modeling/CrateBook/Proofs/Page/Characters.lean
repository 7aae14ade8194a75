import CrateBook.Proofs.Page.Conservation
import CrateBook.Proofs.Text.Lines
import CrateBook.Proofs.Text.Words

/-!
# Where the characters of a page come from

Outside tables a page has the characters of its texts, and besides them only spaces, line feeds,
digits and the marks of headings, lists, quotations, emphasis and code (`allOf_nodeMarkdown` and the
lemmas mutual with it). Bars and backslashes are added by tables alone.
-/

namespace CrateBook.Page

open Html (Node Element AttrValue)

/-- The characters that are added to the texts of a page outside tables. -/
def isAdded (c : Char) : Bool :=
  c.isDigit || [' ', '\n', '#', '*', '_', '\x60', '-', '>', '.', ':'].contains c

/-- All characters of the text are in the class. -/
def AllOf (p : Char → Prop) (s : String) : Prop := ∀ c ∈ s.toList, p c

/-- Nodes without tables, all of whose texts are in the class. -/
structure AreOf (p : Char → Prop) (ns : List Node) : Prop where
  texts : ∀ s ∈ textsIn ns, AllOf p s
  tables : ∀ e ∈ Html.elementsOf ns, e.name ≠ "table"

variable {p : Char → Prop} {s t sep : String} {n : Node} {ns ns' inner : List Node}
  {lines : List String} {name : String} {attrs : List (String × AttrValue)}

theorem AreOf.mono (h : AreOf p ns) (htexts : textsIn ns' ⊆ textsIn ns)
    (helements : Html.elementsOf ns' ⊆ Html.elementsOf ns) : AreOf p ns' where
  texts s hs := h.texts s (htexts hs)
  tables e he := h.tables e (helements he)

theorem AreOf.head (h : AreOf p (n :: ns)) : AreOf p [n] :=
  h.mono (by simp [textsIn]) (by simp [Html.elementsOf])

theorem AreOf.tail (h : AreOf p (n :: ns)) : AreOf p ns :=
  h.mono (by simp [textsIn]) (by simp [Html.elementsOf])

theorem AreOf.children (h : AreOf p [.element name attrs inner]) : AreOf p inner :=
  h.mono (by simp [textsIn, textsAt]) (by simp [Html.elementsOf, Html.Node.elements])

theorem AreOf.text {home : Option String} (h : AreOf p [.text home s]) : AllOf p s :=
  h.texts s (by simp [textsIn, textsAt])

/-! ## Texts -/

theorem allOf_append_iff : AllOf p (s ++ t) ↔ AllOf p s ∧ AllOf p t := by
  rw [AllOf, String.toList_append, List.forall_mem_append]
  rfl

theorem allOf_intercalate (hsep : AllOf p sep) (h : ∀ l ∈ lines, AllOf p l) :
    AllOf p (sep.intercalate lines) := by
  intro c hc
  rcases Text.mem_of_mem_intercalate hc with hc | ⟨l, hl, hc⟩
  · exact hsep c hc
  · exact h l hl c hc

theorem allOf_of_isAdded (hp : ∀ c, isAdded c = true → p c) (h : s.toList.all isAdded = true) :
    AllOf p s := fun c hc => hp c (List.all_eq_true.1 h c hc)

theorem allOf_words (h : AllOf p s) : ∀ w ∈ Text.words s, AllOf p w := by
  intro w hw c hc
  obtain ⟨run, hrun, rfl⟩ := List.mem_map.1 hw
  rw [String.toList_ofList] at hc
  have hmem : c ∈ (Text.wordRuns s.toList).flatten := List.mem_flatten.2 ⟨run, hrun, hc⟩
  rw [Text.flatten_wordRuns] at hmem
  exact h c (List.mem_of_mem_filter hmem)

theorem allOf_squeeze (hspace : p ' ') (h : AllOf p s) : AllOf p (Text.squeeze s) :=
  allOf_intercalate (fun _ hc => List.mem_singleton.1 hc ▸ hspace) (allOf_words h)

theorem mem_of_mem_lineRuns {cs l : List Char} (hl : l ∈ Text.lineRuns cs) : l ⊆ cs := by
  fun_induction Text.lineRuns cs generalizing l with
  | case1 => cases hl
  | case2 cs ih =>
    rcases List.mem_cons.1 hl with rfl | hl
    · exact List.nil_subset _
    · exact List.subset_cons_of_subset _ (List.subset_cons_of_subset _ (ih hl))
  | case3 c cs _ _ ih =>
    rcases List.mem_cons.1 hl with rfl | hl
    · exact List.nil_subset _
    · exact List.subset_cons_of_subset _ (ih hl)
  | case4 c cs =>
    rw [List.mem_singleton.1 hl]
    simp
  | case5 c cs _ _ l' ls hcons ih =>
    rcases List.mem_cons.1 hl with rfl | hl
    · exact List.cons_subset_cons _ (ih (hcons ▸ List.mem_cons_self))
    · exact List.subset_cons_of_subset _ (ih (hcons ▸ List.mem_cons_of_mem _ hl))

theorem mem_stripRuns {cs : List Char} {c : Char} (h : c ∈ Markdown.stripRuns cs) : c ∈ cs := by
  fun_induction Markdown.stripRuns cs with
  | case1 => cases h
  | case2 => exact h
  | case3 cs g hg hr ih =>
    obtain ⟨-, hcs⟩ := Markdown.eq_append_of_closeGroup hg
    rw [List.cons_append, List.mem_cons, List.mem_append, List.mem_cons] at h
    rw [hcs, List.mem_cons, List.mem_append, List.mem_cons]
    exact h.imp_right (Or.imp_right (Or.imp_right ih))
  | case4 cs g hg rest hr ih =>
    obtain ⟨-, hcs⟩ := Markdown.eq_append_of_closeGroup hg
    rw [Markdown.afterReference?_eq, Option.map_eq_some_iff] at hr
    obtain ⟨⟨w, r, rest'⟩, hread, rfl⟩ := hr
    obtain ⟨-, -, hrest⟩ := Markdown.readReference_eq_some_iff.1 hread
    rw [hcs, hrest, Markdown.withReference]
    simp only [List.mem_cons, List.mem_append] at h ⊢
    rcases h with h | h
    · exact .inr (.inl h)
    · exact .inr (.inr (.inr (.inr (.inr (.inr (.inr (ih h)))))))
  | case5 d cs hd ih => exact List.mem_cons.2 ((List.mem_cons.1 h).imp_right ih)

theorem allOf_breakable (hspace : p ' ') (h : AllOf p s) : AllOf p (breakable s) := by
  have hreplace {s q : String} (hs : AllOf p s) : AllOf p (Text.replace s q " ") := by
    intro c hc
    rw [Text.replace, String.toList_ofList] at hc
    rcases Text.mem_replaceRuns hc with hc | hc
    · exact List.mem_singleton.1 hc ▸ hspace
    · exact hs c hc
  exact hreplace (hreplace h)

theorem allOf_textMarkdown (hspace : p ' ') (verbatim inline : Bool) (h : AllOf p s) :
    AllOf p (textMarkdown verbatim inline s) := by
  have hbreakable := allOf_breakable hspace h
  have hempty : AllOf p "" := fun c hc => by cases hc
  rw [textMarkdown]
  split
  · exact hbreakable
  · split
    · split
      · exact hempty
      · exact fun c hc => List.mem_singleton.1 hc ▸ hspace
    · intro c hc
      rw [Markdown.stripReferences, String.toList_ofList] at hc
      exact hbreakable c (mem_stripRuns hc)

/-! ## Blocks -/

section

variable (hp : ∀ c, isAdded c = true → p c)

include hp

theorem allOf_paragraph (h : ∀ l ∈ lines, AllOf p l) : AllOf p (paragraph lines) := by
  rw [paragraph]
  split
  · exact allOf_of_isAdded hp (by decide)
  · exact allOf_append_iff.2 ⟨allOf_intercalate (allOf_of_isAdded hp (by decide)) h,
      allOf_of_isAdded hp (by decide)⟩

theorem allOf_marker (ordered : Bool) (count : Nat) : AllOf p (marker ordered count) := by
  rw [marker]
  split
  · refine allOf_append_iff.2 ⟨fun c hc => hp c ?_, allOf_of_isAdded hp (by decide)⟩
    rw [isAdded, Text.isDigit_of_mem_toString hc, Bool.true_or]
  · exact allOf_of_isAdded hp (by decide)

theorem allOf_line? {e : Entry} (h : ∀ s ∈ e.texts, AllOf p s) : ∀ l ∈ e.line?, AllOf p l := by
  obtain ⟨term, descriptions⟩ := e
  rw [Entry.texts, List.forall_mem_append] at h
  have hdescription : AllOf p (" ".intercalate (descriptions.filter (· != ""))) :=
    allOf_intercalate (allOf_of_isAdded hp (by decide)) fun s hs =>
      h.2 s (List.mem_of_mem_filter hs)
  have hmark {m : String} (hm : m.toList.all isAdded = true) := allOf_of_isAdded hp hm
  rw [Entry.line?]
  cases term with
  | none =>
    dsimp only
    split
    · simp
    · rintro l hl
      exact Option.some.inj hl ▸ allOf_append_iff.2 ⟨hmark (by decide), hdescription⟩
  | some term =>
    have hterm : AllOf p term := h.1 term (by simp)
    rintro l hl
    refine Option.some.inj hl ▸ allOf_append_iff.2 ⟨?_, ?_⟩
    · exact allOf_append_iff.2 ⟨allOf_append_iff.2 ⟨hmark (by decide), hterm⟩, hmark (by decide)⟩
    · split
      · exact hmark (by decide)
      · exact allOf_append_iff.2 ⟨hmark (by decide), hdescription⟩

theorem allOf_definitions {ds : List Definition} (h : ∀ d ∈ ds, AllOf p d.text) :
    AllOf p (paragraph ((entries ds).filterMap Entry.line?)) := by
  refine allOf_paragraph hp fun l hl => ?_
  obtain ⟨e, he, hline⟩ := List.mem_filterMap.1 hl
  refine allOf_line? hp (fun s hs => ?_) l hline
  have hmem : s ∈ (entries ds).flatMap Entry.texts := List.mem_flatMap.2 ⟨e, he, hs⟩
  rw [texts_entries] at hmem
  obtain ⟨d, hd, rfl⟩ := List.mem_map.1 hmem
  exact h d hd

theorem allOf_quotation (h : AllOf p s) : AllOf p (quotation s) := by
  have hmark {m : String} (hm : m.toList.all isAdded = true) := allOf_of_isAdded hp hm
  have hline : ∀ l ∈ (Text.lines (Text.trim s)).map Text.squeeze,
      AllOf p (if l == "" then ">" else "> " ++ l) := by
    intro l hl
    obtain ⟨m, hm, rfl⟩ := List.mem_map.1 hl
    obtain ⟨run, hrun, rfl⟩ := List.mem_map.1 hm
    have hrun : AllOf p (String.ofList run) := by
      intro c hc
      rw [String.toList_ofList] at hc
      exact h c (Text.mem_of_mem_trimOf (mem_of_mem_lineRuns hrun hc))
    split
    · exact hmark (by decide)
    · exact allOf_append_iff.2 ⟨hmark (by decide), allOf_squeeze (hp _ (by decide)) hrun⟩
  rw [quotation]
  dsimp only
  split
  · exact hmark (by decide)
  · refine allOf_append_iff.2 ⟨allOf_intercalate (hmark (by decide)) ?_, hmark (by decide)⟩
    exact List.forall_mem_map.2 hline

theorem allOf_marks (name : String) : AllOf p (ruleFor name).marks :=
  allOf_of_isAdded hp <| forall_ruleFor (p := fun _ r => r.marks.toList.all isAdded = true)
    (by decide) (fun _ => rfl) name

/-! ## Pages -/

mutual

/-- Outside tables, what is written has the characters of the texts and the ones that are added. -/
theorem allOf_nodeMarkdown (skip : SkipRules) (parent : String) (verbatim inline : Bool) :
    ∀ n : Node, AreOf p [n] → AllOf p (nodeMarkdown skip parent verbatim inline n)
  | .text _ s, h => by
    rw [nodeMarkdown]
    exact allOf_textMarkdown (hp _ (by decide)) verbatim inline h.text
  | .comment _, _ | .cdata _, _ => by
    rw [nodeMarkdown]
    exact allOf_of_isAdded hp (by decide)
  | .element name attrs inner, h => by
    have hmark {m : String} (hm : m.toList.all isAdded = true) := allOf_of_isAdded hp hm
    have hmarks := allOf_marks hp name
    have hinner := h.children
    rw [nodeMarkdown]
    split
    · exact hmark (by decide)
    cases hrule : ruleFor name with
    | wrap before after spacing =>
      rw [hrule, Rule.marks, allOf_append_iff] at hmarks
      have hcontent := allOf_childrenMarkdown skip name (verbatim || spacing == .verbatim)
        (inline || spacing == .squeezed) inner hinner
      dsimp only
      refine allOf_append_iff.2 ⟨allOf_append_iff.2 ⟨hmarks.1, ?_⟩, hmarks.2⟩
      split
      · exact allOf_squeeze (hp _ (by decide)) hcontent
      · exact hcontent
    | fixed text =>
      rw [hrule] at hmarks
      exact hmarks
    | code =>
      have hcontent := allOf_childrenMarkdown skip name true false inner hinner
      dsimp only
      split
      · exact hcontent
      · exact allOf_append_iff.2
          ⟨allOf_append_iff.2 ⟨hmark (by decide), hcontent⟩, hmark (by decide)⟩
    | list ordered => exact allOf_paragraph hp (allOf_listLines skip name ordered 1 inner hinner)
    | definitions => exact allOf_definitions hp (allOf_definitionTexts skip inner hinner)
    | quote =>
      exact allOf_quotation hp (allOf_childrenMarkdown skip name false false inner hinner)
    | table => exact absurd (name_of_table hrule) (h.tables _ mem_elementsOf_self)

theorem allOf_childrenMarkdown (skip : SkipRules) (parent : String) (verbatim inline : Bool) :
    ∀ ns : List Node, AreOf p ns → AllOf p (childrenMarkdown skip parent verbatim inline ns)
  | [], _ => by
    rw [childrenMarkdown]
    exact allOf_of_isAdded hp (by decide)
  | n :: ns, h => by
    rw [childrenMarkdown]
    exact allOf_append_iff.2 ⟨allOf_nodeMarkdown skip parent verbatim inline n h.head,
      allOf_childrenMarkdown skip parent verbatim inline ns h.tail⟩

theorem allOf_listLines (skip : SkipRules) (parent : String) (ordered : Bool) (count : Nat) :
    ∀ ns : List Node, AreOf p ns → ∀ l ∈ listLines skip parent ordered count ns, AllOf p l
  | [], _ => by simp [listLines]
  | .comment _ :: ns, h | .cdata _ :: ns, h => allOf_listLines skip parent ordered count ns h.tail
  | .text _ s :: ns, h => by
    have hspace : p ' ' := hp _ (by decide)
    have hrest := allOf_listLines skip parent ordered count ns h.tail
    rw [listLines]
    split
    · exact hrest
    · exact List.forall_mem_cons.2
        ⟨allOf_squeeze hspace (allOf_textMarkdown hspace false true h.head.text), hrest⟩
  | .element name attrs inner :: ns, h => by
    have hspace : p ' ' := hp _ (by decide)
    have hrest := fun count => allOf_listLines skip parent ordered count ns h.tail
    rw [listLines]
    split
    · split
      · exact hrest count
      · have hcontent := allOf_childrenMarkdown skip name false true inner h.head.children
        have hmarker := allOf_append_iff.2
          ⟨allOf_marker hp ordered count, allOf_of_isAdded hp (s := " ") (by decide)⟩
        exact List.forall_mem_cons.2
          ⟨allOf_append_iff.2 ⟨hmarker, allOf_squeeze hspace hcontent⟩, hrest (count + 1)⟩
    · have hcontent :=
        allOf_nodeMarkdown skip parent false false (.element name attrs inner) h.head
      dsimp only
      split
      · exact hrest count
      · exact List.forall_mem_cons.2 ⟨allOf_squeeze hspace hcontent, hrest count⟩

theorem allOf_definitionTexts (skip : SkipRules) :
    ∀ ns : List Node, AreOf p ns → ∀ d ∈ definitions skip ns, AllOf p d.text
  | [], _ => by simp [definitions]
  | .text _ _ :: ns, h | .comment _ :: ns, h | .cdata _ :: ns, h =>
    allOf_definitionTexts skip ns h.tail
  | .element name attrs inner :: ns, h => by
    have hrest := allOf_definitionTexts skip ns h.tail
    rw [definitions]
    split
    · have hcontent := allOf_squeeze (hp _ (by decide))
        (allOf_childrenMarkdown skip name false true inner h.head.children)
      refine List.forall_mem_cons.2 ⟨?_, hrest⟩
      split <;> exact hcontent
    · exact hrest

end

end

end CrateBook.Page
