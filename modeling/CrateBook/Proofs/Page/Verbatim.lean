import CrateBook.Proofs.Page.Conservation
import CrateBook.Proofs.Page.LineStarts

/-!
# Preformatted text

Nodes of source text are texts, comments, left-out elements and elements without a rule that hold
such nodes. Where text is verbatim they write the texts that they show, one after another, and
change nothing in them but the no-break spaces (`childrenMarkdown_source`). So a preformatted
element is fenced code with exactly these texts in it, at its place on the page
(`pageMarkdown_preformatted`).
-/

namespace CrateBook.Page

open Html (Node AttrValue)

mutual

/-- A node of source text: a text, a comment, a left-out element or an element without a rule that
holds such nodes. -/
def IsSource (skip : SkipRules) : Node → Prop
  | .text _ _ => True
  | .comment _ => True
  | .cdata _ => True
  | .element name attrs children =>
    skip.skips name attrs = true ∨ ruleFor name = .plain ∧ AreSource skip children

/-- Nodes of source text. -/
def AreSource (skip : SkipRules) : List Node → Prop
  | [] => True
  | n :: ns => IsSource skip n ∧ AreSource skip ns

end

/-- A node of source text, or a code element that holds such nodes. -/
def IsListing (skip : SkipRules) (n : Node) : Prop :=
  IsSource skip n ∨ ∃ attrs children, n = .element "code" attrs children ∧ AreSource skip children

/-- The texts that nodes show, one after another, each with its no-break spaces made spaces. -/
def sourceText (skip : SkipRules) (ns : List Node) : String :=
  String.join ((shownIn skip ns).map breakable)

variable {skip : SkipRules} {path inner : List Frame} {children : List Node} {name : String}
  {attrs : List (String × AttrValue)}

/-! ## Verbatim text -/

theorem sourceText_cons (n : Node) (ns : List Node) :
    sourceText skip (n :: ns) = sourceText skip [n] ++ sourceText skip ns := by
  simp [sourceText, shownIn]

theorem sourceText_element (hkept : skip.skips name attrs = false) (ns : List Node) :
    sourceText skip [.element name attrs ns] = sourceText skip ns := by
  simp [sourceText, shownIn, shownAt, hkept]

mutual

/-- A node of source text writes the texts that it shows, where text is verbatim. -/
theorem nodeMarkdown_source (parent : String) (inline : Bool) : ∀ n : Node, IsSource skip n →
    nodeMarkdown skip parent true inline n = sourceText skip [n]
  | .text _ s, _ => by
    rw [nodeMarkdown, textMarkdown, if_pos rfl]
    simp [sourceText, shownIn, shownAt]
  | .comment _, _ => by
    rw [nodeMarkdown]
    rfl
  | .cdata _, _ => by
    rw [nodeMarkdown]
    rfl
  | .element name attrs children, h => by
    rw [nodeMarkdown]
    cases hskip : skip.skips name attrs with
    | true => simp [sourceText, shownIn, shownAt, hskip]
    | false =>
      rw [IsSource, hskip] at h
      obtain ⟨hplain, hchildren⟩ := h.resolve_left Bool.false_ne_true
      have hinner (inline : Bool) := childrenMarkdown_source name inline children hchildren
      have hspacing : (Spacing.asIs == .squeezed) = false := by decide
      rw [if_neg Bool.false_ne_true, hplain, sourceText_element hskip]
      simp [Rule.plain, hinner, hspacing]

/-- Nodes of source text write the texts that they show, where text is verbatim. -/
theorem childrenMarkdown_source (parent : String) (inline : Bool) : ∀ ns : List Node,
    AreSource skip ns → childrenMarkdown skip parent true inline ns = sourceText skip ns
  | [], _ => by
    rw [childrenMarkdown]
    rfl
  | n :: ns, h => by
    rw [AreSource] at h
    rw [childrenMarkdown, nodeMarkdown_source parent inline n h.1,
      childrenMarkdown_source parent inline ns h.2, ← sourceText_cons]

end

/-- Code directly inside preformatted text has no marks of its own. -/
theorem nodeMarkdown_listing (inline : Bool) {n : Node} (h : IsListing skip n) :
    nodeMarkdown skip "pre" true inline n = sourceText skip [n] := by
  rcases h with h | ⟨attrs, children, rfl, hchildren⟩
  · exact nodeMarkdown_source "pre" inline n h
  · cases hskip : skip.skips "code" attrs with
    | true => exact nodeMarkdown_source "pre" inline _ (.inl hskip)
    | false =>
      have hrule : ruleFor "code" = .code := by decide
      rw [nodeMarkdown, if_neg (by simp [hskip]), hrule, sourceText_element hskip]
      exact childrenMarkdown_source "code" false children hchildren

theorem childrenMarkdown_listing (inline : Bool) {ns : List Node}
    (h : ∀ n ∈ ns, IsListing skip n) :
    childrenMarkdown skip "pre" true inline ns = sourceText skip ns := by
  induction ns with
  | nil =>
    rw [childrenMarkdown]
    rfl
  | cons n ns ih =>
    obtain ⟨hn, hns⟩ := List.forall_mem_cons.1 h
    rw [childrenMarkdown, nodeMarkdown_listing inline hn, ih hns, ← sourceText_cons]

/-- A preformatted element is fenced code, and its parts are verbatim. -/
theorem nodeMarkdown_pre (parent : String) (verbatim inline : Bool)
    (hkept : skip.skips "pre" attrs = false) (children : List Node) :
    nodeMarkdown skip parent verbatim inline (.element "pre" attrs children) =
      "```\n" ++ childrenMarkdown skip "pre" true inline children ++ "\n```\n\n" := by
  have hrule : ruleFor "pre" = .wrap "```\n" "\n```\n\n" .verbatim := by decide
  have hspacing :
      (Spacing.verbatim == .verbatim) = true ∧ (Spacing.verbatim == .squeezed) = false := by
    decide
  rw [nodeMarkdown, if_neg (by simp [hkept]), hrule]
  simp [hspacing]

/-! ## Pages -/

/-- A page is what stands before a place, what stands in it and what stands after it, where only
elements without a rule are around the place. -/
theorem pageMarkdown_fill (hmain : LeadsToMain path) (hinner : ∀ f ∈ inner, f.IsPlain skip)
    (ns : List Node) : markdown? skip (fill (path ++ inner) ns) =
      some (written skip (inner.flatMap Frame.before) ++ written skip ns ++
        written skip (inner.reverse.flatMap Frame.after)) := by
  obtain ⟨name, attrs, hmain⟩ := hmain.mainElement?
  have hname : name ≠ "pre" := by
    rintro rfl
    have hlower : Html.asciiLower "pre" = "main" := name_of_mainElement? (hmain [])
    exact absurd hlower (by decide)
  rw [fill_append, markdown?, hmain, Option.map_some, ← written_fill hinner, written]
  exact congrArg some (childrenMarkdown_parent hname (by decide) false false _)

/-- Preformatted text stands on its page as fenced code that holds the texts of the element as they
are, but for no-break spaces. -/
theorem pageMarkdown_preformatted (hmain : LeadsToMain path) (hinner : ∀ f ∈ inner, f.IsPlain skip)
    (hkept : skip.skips "pre" attrs = false) (hchildren : ∀ n ∈ children, IsListing skip n)
    (before after : List Node) :
    markdown? skip (fill (path ++ inner) (before ++ .element "pre" attrs children :: after)) =
      some (written skip (nodesBefore inner before) ++
        ("```\n" ++ sourceText skip children ++ "\n```\n\n") ++
        written skip (nodesAfter inner after)) := by
  have hfenced := nodeMarkdown_pre "main" false false hkept children
  rw [childrenMarkdown_listing false hchildren] at hfenced
  rw [pageMarkdown_fill hmain hinner, nodesBefore, nodesAfter]
  simp only [written, childrenMarkdown_append, childrenMarkdown, hfenced, String.append_assoc]

/-- Code with indices, blank lines and a no-break space, of which a part is highlighted and a part
is hidden. -/
def highlighted : List Node :=
  [.comment "c", .element "code" [("class", .text "rust")]
    [.element "span" [] [.text none "let\u00A0x", .text none "  "], .text none "= v[i][j];\n\n",
      .element "a" [("class", .text "src")] [.text none "hidden"],
      .element "span" [] [.text none "    f(&nbsp;x)\n"]]]

theorem isListing_highlighted : ∀ n ∈ highlighted, IsListing .default n := by
  have hspan : SkipRules.default.skips "span" [] = false ∧ ruleFor "span" = .plain := by decide
  have hhidden : SkipRules.default.skips "a" [("class", .text "src")] = true := by decide
  intro n hn
  rcases List.mem_cons.1 hn with rfl | hn
  · exact .inl trivial
  · rw [List.mem_singleton.1 hn]
    refine .inr ⟨_, _, rfl, ?_⟩
    simp [AreSource, IsSource, hspan, hhidden]

/-- The blanks and brackets of highlighted code are kept. -/
theorem pageMarkdown_preformatted_highlighted :
    SkipRules.default.skips "pre" [("class", .text "rust")] = false ∧
      (∀ n ∈ highlighted, IsListing .default n) ∧
      markdown? .default (fill ([mainFrame] ++ [containerFrame])
          ([.element "br" [] []] ++ .element "pre" [("class", .text "rust")] highlighted :: [])) =
        some ("\n\n" ++ "```\nlet x  = v[i][j];\n\n    f( x)\n\n```\n\n" ++ "\n\n") := by
  have hkept : SkipRules.default.skips "pre" [("class", .text "rust")] = false := by decide
  have hinner : ∀ f ∈ [containerFrame], f.IsPlain .default := by
    intro f hf
    rw [List.mem_singleton.1 hf]
    exact ⟨by decide, by decide⟩
  have hbefore :
      written .default (nodesBefore [containerFrame] [.element "br" [] []]) = "\n\n" := by
    rfl
  have htext : sourceText .default highlighted = "let x  = v[i][j];\n\n    f( x)\n" := by rfl
  have hafter : written .default (nodesAfter [containerFrame] []) = "\n\n" := by rfl
  have hpage := pageMarkdown_preformatted leadsToMain_mainFrame hinner hkept isListing_highlighted
    [.element "br" [] []] []
  rw [hbefore, htext, hafter] at hpage
  exact ⟨hkept, isListing_highlighted, hpage⟩

end CrateBook.Page
