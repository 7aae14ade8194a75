import CrateBook.Proofs.Page.Frame
import CrateBook.Proofs.Page.Rule
import CrateBook.Proofs.Text.Joining
import CrateBook.Proofs.Text.Ordinary

/-!
# Where a block starts a line

No block looks at what was written before it. It starts on a line of its own exactly when the last
node before it that writes anything ends one: a block that ends a line itself, or a text that ends
in a line feed (`atLineStart_iff_lastWritten`). Elements without a rule are looked through.
-/

namespace CrateBook.Page

open Html (Node AttrValue)

/-- A line starts after the text: it is empty or ends in a line feed. -/
def atLineStart (s : String) : Bool := s.toList.getLast?.all (· == '\n')

/-- The elements that end the line they are on. -/
def lineEnders : List String := ["h1", "h2", "h3", "h4", "h5", "h6", "p", "dd", "br", "hr", "pre",
  "ul", "ol", "dl", "blockquote", "table"]

/-- What the node writes ends a line. -/
def EndsLine : Node → Prop
  | .text _ s => atLineStart (textMarkdown false false s) = true
  | .element name _ _ => name ∈ lineEnders
  | _ => False

mutual

/-- The last node that writes anything, among a node and what it holds when it has no rule. -/
def lastWrittenAt (skip : SkipRules) : Node → Option Node
  | .element name attrs children =>
    if skip.skips name attrs then none
    else if ruleFor name = .plain then lastWritten skip children
    else if nodeMarkdown skip "main" false false (.element name attrs children) = "" then none
    else some (.element name attrs children)
  | n => if nodeMarkdown skip "main" false false n = "" then none else some n

/-- The last node that writes anything, among the nodes and what those without a rule hold. -/
def lastWritten (skip : SkipRules) : List Node → Option Node
  | [] => none
  | n :: ns => (lastWritten skip ns).or (lastWrittenAt skip n)

end

variable {skip : SkipRules} {path inner : List Frame} {parent parent' name : String} {s t : String}

/-! ## Ends of texts -/

theorem atLineStart_append (ht : t ≠ "") : atLineStart (s ++ t) = atLineStart t := by
  have hne : t.toList ≠ [] := fun h => ht (String.toList_eq_nil_iff.1 h)
  rw [atLineStart, String.toList_append, List.getLast?_append_of_ne_nil _ hne, ← atLineStart]

/-- A text on one line ends none. -/
theorem atLineStart_squeeze (h : Text.squeeze s ≠ "") : atLineStart (Text.squeeze s) = false := by
  have hne : (Text.squeeze s).toList ≠ [] := fun he => h (String.toList_eq_nil_iff.1 he)
  rw [atLineStart, List.getLast?_eq_some_getLast hne, Option.all_some, beq_eq_false_iff_ne]
  rcases Text.mem_squeeze (List.getLast_mem hne) with hc | hc
  · rw [hc]
    decide
  · intro he
    rw [he] at hc
    exact absurd hc (by decide)

theorem atLineStart_paragraph (lines : List String) : atLineStart (paragraph lines) = true := by
  rw [paragraph]
  split
  · rfl
  · exact atLineStart_append (by decide)

theorem atLineStart_quotation (content : String) : atLineStart (quotation content) = true := by
  rw [quotation]
  dsimp only
  split
  · rfl
  · exact atLineStart_append (by decide)

theorem atLineStart_tableOf (rows : List (List String)) : atLineStart (tableOf rows) = true := by
  rw [tableOf]
  split
  · rfl
  · exact atLineStart_append (by decide)

/-! ## Rules -/

/-- Whether what the rule writes ends a line, unless it writes nothing around the content. -/
def Rule.endsLine? : Rule → Option Bool
  | .wrap before after spacing =>
    if after ≠ "" then some (atLineStart after)
    else if before = "" ∧ spacing = .squeezed then some false else none
  | .fixed text => some (atLineStart text)
  | .code => some false
  | _ => some true

theorem ruleFor_endsLine? (name : String) :
    ruleFor name = .plain ∨ (ruleFor name).endsLine? = some (lineEnders.contains name) :=
  forall_ruleFor (p := fun name r => r = .plain ∨ r.endsLine? = some (lineEnders.contains name))
    (by decide) (fun _ => .inl rfl) name

theorem atLineStart_wrap {before after content : String} {spacing : Spacing} {b : Bool}
    (hends : (Rule.wrap before after spacing).endsLine? = some b)
    (hne : before ++ (if spacing == .squeezed then Text.squeeze content else content) ++
      after ≠ "") :
    atLineStart (before ++ (if spacing == .squeezed then Text.squeeze content else content) ++
      after) = b := by
  rw [Rule.endsLine?] at hends
  split at hends
  · rename_i hafter
    rw [atLineStart_append hafter, Option.some.inj hends]
  · rename_i hafter
    split at hends
    · rename_i hbare
      obtain ⟨rfl, rfl⟩ := hbare
      rw [not_not] at hafter
      rw [hafter, String.append_empty, String.empty_append] at hne ⊢
      exact (atLineStart_squeeze hne).trans (Option.some.inj hends)
    · cases hends

/-- What an element with a rule writes ends a line exactly when the element is one that does. -/
theorem atLineStart_element {attrs : List (String × AttrValue)} {children : List Node}
    (hkept : skip.skips name attrs = false) (hrule : ruleFor name ≠ .plain)
    (hparent : parent ≠ "pre")
    (hne : nodeMarkdown skip parent false false (.element name attrs children) ≠ "") :
    atLineStart (nodeMarkdown skip parent false false (.element name attrs children)) =
      lineEnders.contains name := by
  have hends := (ruleFor_endsLine? name).resolve_left hrule
  rw [nodeMarkdown, if_neg (by simp [hkept])] at hne ⊢
  cases h : ruleFor name with
  | wrap before after spacing =>
    rw [h] at hends hne
    exact atLineStart_wrap hends hne
  | fixed text =>
    rw [h] at hends
    exact Option.some.inj hends
  | code =>
    rw [h] at hends
    dsimp only
    rw [if_neg (by simpa using hparent), atLineStart_append (by decide), ← Option.some.inj hends]
    rfl
  | list ordered =>
    rw [h] at hends
    exact (atLineStart_paragraph _).trans (Option.some.inj hends)
  | definitions =>
    rw [h] at hends
    exact (atLineStart_paragraph _).trans (Option.some.inj hends)
  | quote =>
    rw [h] at hends
    exact (atLineStart_quotation _).trans (Option.some.inj hends)
  | table =>
    rw [h] at hends
    exact (atLineStart_tableOf _).trans (Option.some.inj hends)

/-! ## Parents -/

/-- Only code directly in preformatted text asks for its parent. -/
theorem nodeMarkdown_parent (hparent : parent ≠ "pre") (hparent' : parent' ≠ "pre")
    (verbatim inline : Bool) (n : Node) : nodeMarkdown skip parent verbatim inline n =
      nodeMarkdown skip parent' verbatim inline n := by
  cases n with
  | text | comment | cdata => simp only [nodeMarkdown]
  | element name attrs children =>
    simp only [nodeMarkdown, beq_eq_false_iff_ne.2 hparent, beq_eq_false_iff_ne.2 hparent']

theorem childrenMarkdown_parent (hparent : parent ≠ "pre") (hparent' : parent' ≠ "pre")
    (verbatim inline : Bool) (ns : List Node) : childrenMarkdown skip parent verbatim inline ns =
      childrenMarkdown skip parent' verbatim inline ns := by
  induction ns with
  | nil => simp only [childrenMarkdown]
  | cons n ns ih =>
    rw [childrenMarkdown, childrenMarkdown, ih, nodeMarkdown_parent hparent hparent']

theorem childrenMarkdown_append (parent : String) (verbatim inline : Bool) (ns ns' : List Node) :
    childrenMarkdown skip parent verbatim inline (ns ++ ns') =
      childrenMarkdown skip parent verbatim inline ns ++
        childrenMarkdown skip parent verbatim inline ns' := by
  induction ns with
  | nil => rw [List.nil_append, childrenMarkdown, String.empty_append]
  | cons n ns ih =>
    rw [List.cons_append, childrenMarkdown, childrenMarkdown, ih, String.append_assoc]

theorem ne_pre_of_plain (h : ruleFor name = .plain) : name ≠ "pre" := by
  rintro rfl
  exact absurd h (by decide)

/-- An element without a rule writes what it holds. -/
theorem nodeMarkdown_plain {attrs : List (String × AttrValue)} {children : List Node}
    (hkept : skip.skips name attrs = false) (hplain : ruleFor name = .plain)
    (hparent : parent ≠ "pre") :
    nodeMarkdown skip parent false false (.element name attrs children) =
      childrenMarkdown skip parent false false children := by
  rw [nodeMarkdown, if_neg (by simp [hkept]), hplain,
    childrenMarkdown_parent hparent (ne_pre_of_plain hplain)]
  exact (String.append_empty).trans String.empty_append

/-! ## Lines -/

/-- A text that a node writes by itself ends a line when the node does. -/
theorem spec_of_own {n : Node} (hends : s ≠ "" → (atLineStart s = true ↔ EndsLine n)) :
    (s = "" ↔ (if s = "" then none else some n) = none) ∧
      (atLineStart s = true ↔ ∀ m ∈ if s = "" then none else some n, EndsLine m) := by
  by_cases hs : s = ""
  · rw [if_pos hs, hs]
    exact ⟨by simp, iff_of_true rfl (by simp)⟩
  · rw [if_neg hs]
    exact ⟨by simp [hs], by simp [hends hs]⟩

mutual

/-- A node writes something exactly when it holds a last node that does, and ends a line when that
node does. -/
theorem lastWrittenAt_spec (skip : SkipRules) : ∀ n : Node,
    (nodeMarkdown skip "main" false false n = "" ↔ lastWrittenAt skip n = none) ∧
      (atLineStart (nodeMarkdown skip "main" false false n) = true ↔
        ∀ m ∈ lastWrittenAt skip n, EndsLine m)
  | .text home s => by
    rw [lastWrittenAt, nodeMarkdown]
    · exact spec_of_own fun _ => Iff.rfl
    · simp
  | .comment _ => by
    rw [lastWrittenAt, nodeMarkdown]
    · exact spec_of_own fun h => absurd rfl h
    · simp
  | .cdata _ => by
    rw [lastWrittenAt, nodeMarkdown]
    · exact spec_of_own fun h => absurd rfl h
    · simp
  | .element name attrs children => by
    rw [lastWrittenAt]
    cases hskip : skip.skips name attrs with
    | true =>
      rw [nodeMarkdown, if_pos hskip, if_pos rfl]
      exact ⟨by simp, iff_of_true rfl (by simp)⟩
    | false =>
      rw [if_neg Bool.false_ne_true]
      by_cases hplain : ruleFor name = .plain
      · rw [if_pos hplain, nodeMarkdown_plain hskip hplain (by decide)]
        exact lastWritten_spec skip children
      · rw [if_neg hplain]
        refine spec_of_own fun hne => ?_
        rw [atLineStart_element hskip hplain (by decide) hne, List.contains_iff_mem]
        rfl

theorem lastWritten_spec (skip : SkipRules) : ∀ ns : List Node,
    (childrenMarkdown skip "main" false false ns = "" ↔ lastWritten skip ns = none) ∧
      (atLineStart (childrenMarkdown skip "main" false false ns) = true ↔
        ∀ m ∈ lastWritten skip ns, EndsLine m)
  | [] => by
    rw [childrenMarkdown, lastWritten]
    exact ⟨by simp, iff_of_true rfl (by simp)⟩
  | n :: ns => by
    obtain ⟨hnil, hline⟩ := lastWrittenAt_spec skip n
    obtain ⟨hnils, hlines⟩ := lastWritten_spec skip ns
    rw [childrenMarkdown, lastWritten]
    by_cases hns : childrenMarkdown skip "main" false false ns = ""
    · rw [hnils.1 hns, Option.none_or, hns, String.append_empty]
      exact ⟨hnil, hline⟩
    · obtain ⟨m, hm⟩ := Option.ne_none_iff_exists'.1 (mt hnils.2 hns)
      rw [atLineStart_append hns, hlines, hm, Option.some_or]
      exact ⟨by simp [hns], Iff.rfl⟩

end

/-! ## Pages -/

/-- What nodes write that reach the main element through elements without a rule. -/
def written (skip : SkipRules) (ns : List Node) : String :=
  childrenMarkdown skip "main" false false ns

/-- The nodes that stand before a place, which `before` comes right before. -/
def nodesBefore (inner : List Frame) (before : List Node) : List Node :=
  inner.flatMap Frame.before ++ before

/-- The nodes that stand after a place, which `after` comes right after. -/
def nodesAfter (inner : List Frame) (after : List Node) : List Node :=
  after ++ inner.reverse.flatMap Frame.after

/-- The frame is an element without a rule that is not left out. -/
def Frame.IsPlain (skip : SkipRules) (f : Frame) : Prop :=
  ruleFor f.name = .plain ∧ skip.skips f.name f.attrs = false

/-- Frames without a rule write what stands in them in its order. -/
theorem written_fill (hinner : ∀ f ∈ inner, f.IsPlain skip) (ns : List Node) :
    written skip (fill inner ns) =
      written skip (inner.flatMap Frame.before) ++ written skip ns ++
        written skip (inner.reverse.flatMap Frame.after) := by
  induction inner with
  | nil =>
    rw [List.flatMap_nil, List.reverse_nil, List.flatMap_nil, fill_nil]
    simp [written, childrenMarkdown]
  | cons f inner ih =>
    obtain ⟨⟨hplain, hkept⟩, hinner⟩ := List.forall_mem_cons.1 hinner
    have hfill := ih hinner
    rw [written] at hfill
    rw [fill_cons, Frame.fill, written, childrenMarkdown_append, childrenMarkdown,
      nodeMarkdown_plain hkept hplain (by decide), hfill, List.flatMap_cons, List.reverse_cons,
      List.flatMap_append, List.flatMap_singleton]
    simp only [written, childrenMarkdown_append, String.append_assoc]

/-- A node is written right after all that stands before it, and starts on a line of its own exactly
when the last node before it that writes anything ends a line. -/
theorem atLineStart_iff_lastWritten (hmain : LeadsToMain path)
    (hinner : ∀ f ∈ inner, f.IsPlain skip) (before : List Node) (b : Node) (after : List Node) :
    markdown? skip (fill (path ++ inner) (before ++ b :: after)) =
        some (written skip (nodesBefore inner before) ++ nodeMarkdown skip "main" false false b ++
          written skip (nodesAfter inner after)) ∧
      (atLineStart (written skip (nodesBefore inner before)) = true ↔
        ∀ n ∈ lastWritten skip (nodesBefore inner before), EndsLine n) := by
  refine ⟨?_, (lastWritten_spec skip (nodesBefore inner before)).2⟩
  obtain ⟨name, attrs, hmain⟩ := hmain.mainElement?
  have hpre : "main" ≠ "pre" := by decide
  have hname : name ≠ "pre" := by
    rintro rfl
    have hlower : Html.asciiLower "pre" = "main" := name_of_mainElement? (hmain [])
    exact absurd hlower (by decide)
  have hinside := written_fill hinner (before ++ b :: after)
  rw [fill_append, markdown?, hmain, Option.map_some]
  dsimp only
  rw [childrenMarkdown_parent hname hpre, ← written, hinside, nodesBefore, nodesAfter]
  simp only [written, childrenMarkdown_append, childrenMarkdown, String.append_assoc]

/-- A container without a rule, in which an empty paragraph comes first. -/
def containerFrame : Frame := ⟨[], "div", [], [.element "p" [] []]⟩

/-- A heading, and behind it nothing that writes anything. -/
def headingAndHidden : List Node :=
  [.element "h2" [] [], .element "script" [] [.text none "x"], .comment "c"]

/-- A list of one item. -/
def oneItem : Node := .element "ul" [] [.element "li" [] []]

/-- Behind a heading a list starts on a line of its own: a left-out element and a comment in between
write nothing. -/
theorem atLineStart_behind_heading :
    markdown? .default (fill ([mainFrame] ++ [containerFrame]) (headingAndHidden ++ [oneItem])) =
        some (written .default (nodesBefore [containerFrame] headingAndHidden) ++
          nodeMarkdown .default "main" false false oneItem ++
          written .default (nodesAfter [containerFrame] [])) ∧
      atLineStart (written .default (nodesBefore [containerFrame] headingAndHidden)) = true := by
  have hinner : ∀ f ∈ [containerFrame], f.IsPlain .default := by
    intro f hf
    rw [List.mem_singleton.1 hf]
    exact ⟨by decide, by decide⟩
  have hlast : lastWritten .default (nodesBefore [containerFrame] headingAndHidden) =
      some (.element "h2" [] []) := by rfl
  obtain ⟨hpage, hline⟩ :=
    atLineStart_iff_lastWritten leadsToMain_mainFrame hinner headingAndHidden oneItem []
  refine ⟨hpage, hline.2 fun n hn => ?_⟩
  rw [hlast, Option.mem_some_iff] at hn
  subst hn
  exact List.mem_of_elem_eq_true rfl

/-- A heading right behind a code span does not start on a line of its own. -/
theorem heading_inside_line :
    markdown? .default (fill [mainFrame] [.element "code" [] [.text none "T"],
        .element "h2" [] [.element "code" [] [.text none "X"]]]) =
      some ("`T`" ++ nodeMarkdown .default "main" false false
        (.element "h2" [] [.element "code" [] [.text none "X"]])) ∧
      nodeMarkdown .default "main" false false
        (.element "h2" [] [.element "code" [] [.text none "X"]]) = "## `X`\n\n" ∧
      atLineStart "`T`" = false :=
  ⟨by rfl, by rfl, by decide⟩

end CrateBook.Page
