import CrateBook.Proofs.Markdown.References
import CrateBook.Proofs.Text.Respacing

/-!
# Reference links in respaced texts

Blanks are no brackets. So in respaced texts groups close at the same places
(`closeGroup_respaced`), the same groups have references behind them (`afterReference?_respaced`),
and what is left of the texts without their references is respaced (`stripRuns_respaced`).
-/

namespace CrateBook.Markdown

open Text (Respaced)

/-- The texts in a group, and the texts behind it, are respaced. -/
def RespacedParts (p : Char → Bool) (g g' : List Char × List Char) : Prop :=
  Respaced p g.1 g'.1 ∧ Respaced p g.2 g'.2

variable {p : Char → Bool} {cs ds l l' w : List Char} {g g' : Option (List Char × List Char)}

theorem RespacedParts.append (hl : Respaced p l l') (h : Option.Rel (RespacedParts p) g g') :
    Option.Rel (RespacedParts p) (g.map fun g => (l ++ g.1, g.2))
      (g'.map fun g => (l' ++ g.1, g.2)) := by
  cases h with
  | none => exact .none
  | some hg => exact .some ⟨hl.append hg.1, hg.2⟩

theorem balanced_of_blank : ∀ w : List Char, (∀ c ∈ w, Text.isBlank c = true) → Balanced w
  | [], _ => .nil
  | c :: w, hw => by
    obtain ⟨hc, hw⟩ := List.forall_mem_cons.1 hw
    refine .cons ?_ ?_ (balanced_of_blank w hw)
    · rintro rfl
      exact absurd hc (by decide)
    · rintro rfl
      exact absurd hc (by decide)

variable (hp : ∀ c, p c = true → Text.isBlank c = true)
include hp

theorem closeGroup_respaced (h : Respaced p cs ds) (depth : Nat) :
    Option.Rel (RespacedParts p) (closeGroup depth cs) (closeGroup depth ds) := by
  induction h generalizing depth with
  | nil => exact .none
  | @keep c cs ds h ih =>
    have hc : Respaced p [c] [c] := .refl p [c]
    by_cases hopen : c = '['
    · subst hopen
      rw [closeGroup_open, closeGroup_open]
      exact RespacedParts.append hc (ih (depth + 1))
    by_cases hclose : c = ']'
    · subst hclose
      cases depth with
      | zero => exact .some ⟨.nil, h⟩
      | succ depth =>
        rw [closeGroup_close, closeGroup_close]
        exact RespacedParts.append hc (ih depth)
    rw [closeGroup_other hopen hclose, closeGroup_other hopen hclose]
    exact RespacedParts.append hc (ih depth)
  | @blanks w w' cs ds hne hne' hw hw' _ ih =>
    have hruns := Respaced.blanks hne hne' hw hw' .nil
    rw [List.append_nil, List.append_nil] at hruns
    rw [closeGroup_append (balanced_of_blank w fun c hc => hp c (hw c hc)),
      closeGroup_append (balanced_of_blank w' fun c hc => hp c (hw' c hc))]
    exact RespacedParts.append hruns (ih depth)

theorem afterReference?_respaced (h : Respaced p cs ds) :
    Option.Rel (Respaced p) (afterReference? cs) (afterReference? ds) := by
  have hrest := h.dropWhile hp
  rw [afterReference?, afterReference?]
  generalize cs.dropWhile Text.isBlank = es at hrest
  generalize ds.dropWhile Text.isBlank = fs at hrest
  cases hrest with
  | nil => exact .none
  | @keep c es fs hr =>
    dsimp only
    split
    · have hgroup := closeGroup_respaced hp hr 0
      generalize closeGroup 0 es = g at hgroup
      generalize closeGroup 0 fs = g' at hgroup
      cases hgroup with
      | none => exact .none
      | some hg => exact .some hg.2
    · exact .none
  | blanks hne hne' hw hw' _ =>
    have hnone {c : Char} (hc : p c = true) : c ≠ '[' := by
      rintro rfl
      exact absurd (hp _ hc) (by decide)
    obtain ⟨c, w, rfl⟩ := List.exists_cons_of_ne_nil hne
    obtain ⟨c', w', rfl⟩ := List.exists_cons_of_ne_nil hne'
    dsimp only [List.cons_append]
    rw [if_neg (hnone (hw c List.mem_cons_self)), if_neg (hnone (hw' c' List.mem_cons_self))]
    exact .none

/-- What is left of respaced texts without their references is respaced. -/
theorem stripRuns_respaced (h : Respaced p cs ds) : Respaced p (stripRuns cs) (stripRuns ds) := by
  have hbracket : p '[' = false := Bool.eq_false_iff.2 fun h => absurd (hp _ h) (by decide)
  induction hn : cs.length using Nat.strong_induction_on generalizing cs ds with
  | _ n ih =>
    subst hn
    cases h with
    | nil => exact .refl p _
    | @keep c cs ds h =>
      by_cases hopen : c = '['
      · subst hopen
        have hgroup := closeGroup_respaced hp h 0
        rw [stripRuns_open, stripRuns_open]
        cases hc : closeGroup 0 cs with
        | none =>
          rw [hc] at hgroup
          generalize closeGroup 0 ds = g at hgroup
          cases hgroup
          exact h.keep '['
        | some g =>
          rw [hc] at hgroup
          generalize closeGroup 0 ds = o at hgroup
          cases hgroup with
          | @some _ g' hg =>
          have hshorter := length_of_closeGroup hc
          have hreference := afterReference?_respaced hp hg.2
          dsimp only
          cases hr : afterReference? g.2 with
          | none =>
            rw [hr] at hreference
            generalize afterReference? g'.2 = o at hreference
            cases hreference
            exact .keep '[' (hg.1.append (.keep ']' (ih _ (by simp; omega) hg.2 rfl)))
          | some rest =>
            rw [hr] at hreference
            generalize afterReference? g'.2 = o at hreference
            cases hreference with
            | some hrest =>
            have := length_of_afterReference? hr
            exact hg.1.append (ih _ (by simp; omega) hrest rfl)
      · have hc : '[' ∉ [c] := by simpa using Ne.symm hopen
        have hkeep (cs : List Char) : stripRuns (c :: cs) = c :: stripRuns cs :=
          stripRuns_append hc cs
        rw [hkeep, hkeep]
        exact .keep c (ih _ (by simp) h rfl)
    | @blanks w w' cs ds hne hne' hw hw' h =>
      rw [stripRuns_append (Respaced.not_mem hbracket hw),
        stripRuns_append (Respaced.not_mem hbracket hw')]
      refine .blanks hne hne' hw hw' (ih _ ?_ h rfl)
      have := List.length_pos_of_ne_nil hne
      rw [List.length_append]
      omega

end CrateBook.Markdown
