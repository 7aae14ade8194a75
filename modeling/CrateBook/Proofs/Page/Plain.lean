import CrateBook.Proofs.Page.Conservation
import CrateBook.Proofs.Text.Words

/-!
# What stands in elements without a rule

Where no element has a rule and none is left out, only texts are written, one after another
(`childrenMarkdown_of_plain`). Bare texts are written as they are. So what such nodes say on a
squeezed line is their bare text, when there are only blanks around it
(`squeeze_childrenMarkdown_of_plain`).
-/

namespace CrateBook.Page

open Html (Node Element)

variable {skip : SkipRules} {s : String} {ns : List Node}

/-- The element is not left out and adds nothing to what it holds. -/
def IsPlain (skip : SkipRules) (e : Element) : Prop :=
  ruleFor e.name = .plain ∧ skip.skips e.name e.attrs = false

instance (skip : SkipRules) (e : Element) : Decidable (IsPlain skip e) :=
  inferInstanceAs (Decidable (_ ∧ _))

mutual

theorem nodeMarkdown_of_plain (parent : String) (verbatim inline : Bool) : ∀ n : Node,
    (∀ e ∈ n.elements, IsPlain skip e) → nodeMarkdown skip parent verbatim inline n =
      String.join ((textsAt n).map (textMarkdown verbatim inline))
  | .text home s, _ => by
    rw [nodeMarkdown, textsAt, List.map_singleton, String.join_cons, String.join_nil,
      String.append_empty]
  | .comment _, _ => by
    rw [nodeMarkdown]
    rfl
  | .cdata _, _ => by
    rw [nodeMarkdown]
    rfl
  | .element name attrs inner, h => by
    rw [Html.Node.elements, List.forall_mem_cons] at h
    obtain ⟨⟨hplain, hkept⟩, hinner⟩ := h
    have hcontent := childrenMarkdown_of_plain name verbatim inline inner hinner
    have hspacing : (Spacing.asIs == .verbatim) = false ∧ (Spacing.asIs == .squeezed) = false := by
      decide
    rw [nodeMarkdown, if_neg (by simp [hkept]), hplain, textsAt, ← hcontent]
    simp [Rule.plain, hspacing]

/-- Where no element has a rule and none is left out, only texts are written. -/
theorem childrenMarkdown_of_plain (parent : String) (verbatim inline : Bool) : ∀ ns : List Node,
    (∀ e ∈ Html.elementsOf ns, IsPlain skip e) → childrenMarkdown skip parent verbatim inline ns =
      String.join ((textsIn ns).map (textMarkdown verbatim inline))
  | [], _ => by
    rw [childrenMarkdown]
    rfl
  | n :: ns, h => by
    rw [Html.elementsOf, List.forall_mem_append] at h
    rw [childrenMarkdown, nodeMarkdown_of_plain parent verbatim inline n h.1,
      childrenMarkdown_of_plain parent verbatim inline ns h.2, textsIn, List.map_append,
      String.join_append]

end

/-! ## Blank texts -/

theorem toList_breakable_of_allBlank (h : Text.allBlank s = true) :
    (breakable s).toList = s.toList.map fun c => if c = '\u00A0' then ' ' else c := by
  refine toList_breakable (Bool.eq_false_iff.2 fun hentity => ?_)
  have hmem : '&' ∈ s.toList := Text.mem_of_contains hentity (by decide)
  have hblank : Text.isBlank '&' = true := List.all_eq_true.1 h _ hmem
  exact absurd hblank (by decide)

theorem allBlank_breakable (h : Text.allBlank s = true) : Text.allBlank (breakable s) = true := by
  rw [Text.allBlank, toList_breakable_of_allBlank h, List.all_map, List.all_eq_true]
  intro c hc
  rw [Function.comp_apply]
  split
  · decide
  · exact List.all_eq_true.1 h c hc

/-- Blank text is written as blank text. -/
theorem allBlank_textMarkdown (inline : Bool) (h : Text.allBlank s = true) :
    Text.allBlank (textMarkdown false inline s) = true := by
  rw [textMarkdown, if_neg Bool.false_ne_true, if_pos (allBlank_breakable h)]
  split <;> decide

/-- Blank text with a line feed is not written outside squeezed lines. -/
theorem textMarkdown_of_feed (h : Text.allBlank s = true) (hfeed : '\n' ∈ s.toList) :
    textMarkdown false false s = "" := by
  have hkept : '\n' ∈ (breakable s).toList := by
    rw [toList_breakable_of_allBlank h, List.mem_map]
    exact ⟨'\n', hfeed, by decide⟩
  have hcontains : Text.contains (breakable s) "\n" = true := Text.contains_singleton hkept
  rw [textMarkdown, if_neg Bool.false_ne_true, if_pos (allBlank_breakable h), if_pos]
  simp [hcontains]

/-! ## Bare texts -/

/-- Text that is not blank and has no no-break spaces and nothing that is taken for a link or an
entity is written as it is. -/
theorem textMarkdown_eq_self (inline : Bool) (hblank : Text.allBlank s = false)
    (hbreak : '\u00A0' ∉ s.toList) (hbracket : '[' ∉ s.toList)
    (hentity : Text.contains s "&nbsp;" = false) : textMarkdown false inline s = s := by
  have hbreakable : breakable s = s := by
    have hkept : ∀ c ∈ s.toList, (if c = '\u00A0' then ' ' else c) = c :=
      fun c hc => if_neg fun (he : c = '\u00A0') => hbreak (he ▸ hc)
    rw [← String.toList_inj, toList_breakable hentity, List.map_congr_left hkept, List.map_id']
  rw [textMarkdown, hbreakable, if_neg Bool.false_ne_true, if_neg (by simp [hblank]),
    Markdown.stripReferences, stripRuns_eq_self hbracket, String.ofList_toList]

/-- The text has no blanks in it and nothing that is taken for a link or an entity. -/
structure IsBare (s : String) : Prop where
  blank : ∀ c ∈ s.toList, Text.isBlank c = false
  bracket : '[' ∉ s.toList
  entity : Text.contains s "&nbsp;" = false

instance (s : String) : Decidable (IsBare s) :=
  decidable_of_iff (s.toList.all (fun c => !Text.isBlank c && c != '[') = true ∧
      Text.contains s "&nbsp;" = false) <| by
    simp only [List.all_eq_true, Bool.and_eq_true, Bool.not_eq_true', bne_iff_ne]
    refine ⟨fun ⟨hall, hentity⟩ =>
        ⟨fun c hc => (hall c hc).1, fun hc => (hall _ hc).2 rfl, hentity⟩,
      fun h => ⟨fun c hc => ⟨h.blank c hc, fun he => h.bracket (he ▸ hc)⟩, h.entity⟩⟩

theorem IsBare.textMarkdown (h : IsBare s) (inline : Bool) : textMarkdown false inline s = s := by
  by_cases hs : s = ""
  · rw [hs]
    rfl
  have hbreak : '\u00A0' ∉ s.toList := fun hmem => absurd (h.blank _ hmem) (by decide)
  refine textMarkdown_eq_self inline ?_ hbreak h.bracket h.entity
  obtain ⟨c, hc⟩ := List.exists_mem_of_ne_nil _ fun hnil => hs (String.toList_eq_nil_iff.1 hnil)
  exact List.all_eq_false.2 ⟨c, hc, by simp [h.blank c hc]⟩

/-- What nodes without a rule say on a squeezed line, when it is bare text between blanks. -/
theorem squeeze_childrenMarkdown_of_plain (before own after : List String) (parent : String)
    (hplain : ∀ e ∈ Html.elementsOf ns, IsPlain skip e)
    (htexts : textsIn ns = before ++ own ++ after)
    (hbefore : ∀ s ∈ before, Text.allBlank s = true) (hown : ∀ s ∈ own, IsBare s)
    (hne : String.join own ≠ "") (hafter : ∀ s ∈ after, Text.allBlank s = true) :
    Text.squeeze (childrenMarkdown skip parent false true ns) = String.join own := by
  have hblank {l : List String} (h : ∀ s ∈ l, Text.allBlank s = true) :
      Text.allBlank (String.join (l.map (textMarkdown false true))) = true := by
    induction l with
    | nil => rfl
    | cons s l ih =>
      obtain ⟨hs, hl⟩ := List.forall_mem_cons.1 h
      rw [List.map_cons, String.join_cons, Text.allBlank_append, allBlank_textMarkdown true hs,
        ih hl]
      rfl
  have hbare : own.map (textMarkdown false true) = own := by
    rw [List.map_congr_left fun s hs => (hown s hs).textMarkdown true, List.map_id']
  have hword : ∀ c ∈ (String.join own).toList, Text.isBlank c = false := by
    intro c hc
    rw [String.toList_join, List.mem_flatMap] at hc
    obtain ⟨s, hs, hc⟩ := hc
    exact (hown s hs).blank c hc
  rw [childrenMarkdown_of_plain parent false true ns hplain, htexts, List.map_append,
    List.map_append, String.join_append, String.join_append, hbare,
    Text.squeeze_between_blanks (hblank hbefore) hne hword (hblank hafter)]

end CrateBook.Page
