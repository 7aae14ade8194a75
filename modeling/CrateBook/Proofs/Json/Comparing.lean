import CrateBook.Json.Compare
import CrateBook.Proofs.Rustdoc.Results

/-!
# Which values have an order

Of values that are neither lists nor objects, two can be compared when both are texts or both are
numbers. So several of them can be brought into order when all are of one of the two kinds
(`comparable_scalars_iff`).
-/

namespace CrateBook.Json

variable {v w : Json} {vs : List Json}

/-- The value is neither a list nor an object. -/
def IsScalar : Json → Prop
  | .arr _ | .obj _ => False
  | _ => True

/-- The value is a text. -/
def IsStr (v : Json) : Prop := ∃ s, v = .str s

/-- The value counts as a number. -/
def IsNumber (v : Json) : Prop := ∃ n, v.number? = some n

theorem IsNumber.not_isStr (h : v.IsNumber) : ¬ v.IsStr := by
  rintro ⟨s, rfl⟩
  obtain ⟨n, h⟩ := h
  cases h

theorem less?_eq_of_isNumber (hv : v.IsNumber) (hw : w.IsNumber) :
    ∃ b, v.less? w = .ok b := by
  obtain ⟨m, hm⟩ := hv
  obtain ⟨n, hn⟩ := hw
  cases v <;> cases w <;> cases hm <;> cases hn <;> exact ⟨_, rfl⟩

/-- Two scalars are compared when both are texts or both are numbers. -/
theorem exists_less?_iff (hv : v.IsScalar) (hw : w.IsScalar) :
    (∃ b, v.less? w = .ok b) ↔ v.IsStr ∧ w.IsStr ∨ v.IsNumber ∧ w.IsNumber := by
  constructor
  · rintro ⟨b, h⟩
    cases v <;> cases w <;> first
      | exact hv.elim
      | exact hw.elim
      | exact .inl ⟨⟨_, rfl⟩, _, rfl⟩
      | exact .inr ⟨⟨_, rfl⟩, _, rfl⟩
      | cases h
  · rintro (⟨⟨s, rfl⟩, t, rfl⟩ | ⟨hv, hw⟩)
    · exact ⟨_, rfl⟩
    · exact less?_eq_of_isNumber hv hw

theorem discard_eq_ok_iff {α : Type} {x : Except Fault α} :
    discard x = .ok ⟨⟩ ↔ ∃ a, x = .ok a := by
  cases x with
  | error f => exact iff_of_false (by rintro ⟨⟩) (by rintro ⟨_, ⟨⟩⟩)
  | ok a => exact iff_of_true rfl ⟨a, rfl⟩

theorem comparable_cons_iff : comparable (v :: vs) = .ok () ↔
    (∀ w ∈ vs, ∃ b, w.less? v = .ok b) ∧ comparable vs = .ok () := by
  have hfor : (vs.forM fun w => discard (w.less? v)) = .ok () ↔
      ∀ w ∈ vs, ∃ b, w.less? v = .ok b :=
    Rustdoc.forM_eq_ok_iff.trans (forall₂_congr fun _ _ => discard_eq_ok_iff)
  rw [comparable, ← hfor]
  cases vs.forM fun w => discard (w.less? v) with
  | error f => exact iff_of_false (by rintro ⟨⟩) (by rintro ⟨⟨⟩, _⟩)
  | ok _ => exact (and_iff_right rfl).symm

/-- **Scalars that have an order.** Several scalars can be brought into order when all are texts or
all are numbers. -/
theorem comparable_scalars_iff (h : ∀ v ∈ vs, v.IsScalar) : comparable vs = .ok () ↔
    vs.length ≤ 1 ∨ (∀ v ∈ vs, v.IsStr) ∨ ∀ v ∈ vs, v.IsNumber := by
  induction vs with
  | nil => exact iff_of_true rfl (.inl (Nat.zero_le 1))
  | cons v vs ih =>
    obtain ⟨hv, hvs⟩ := List.forall_mem_cons.1 h
    rw [comparable_cons_iff, ih hvs, List.forall_mem_cons, List.forall_mem_cons]
    have hless : (∀ w ∈ vs, ∃ b, w.less? v = .ok b) ↔
        ∀ w ∈ vs, w.IsStr ∧ v.IsStr ∨ w.IsNumber ∧ v.IsNumber :=
      forall₂_congr fun w hw => exists_less?_iff (hvs w hw) hv
    rw [hless]
    constructor
    · rintro ⟨hhead, -⟩
      by_cases hstr : v.IsStr
      · refine .inr (.inl ⟨hstr, fun w hw => ?_⟩)
        exact (hhead w hw).elim And.left fun hn => (hn.2.not_isStr hstr).elim
      · -- What is no text is compared with numbers only.
        have hnumbers : ∀ w ∈ vs, w.IsNumber ∧ v.IsNumber := fun w hw =>
          (hhead w hw).resolve_left fun hs => hstr hs.2
        cases vs with
        | nil => exact .inl (Nat.le_refl 1)
        | cons w ws =>
          exact .inr (.inr ⟨(hnumbers w List.mem_cons_self).2, fun w hw => (hnumbers w hw).1⟩)
    · rintro (hlen | ⟨hv, hvs⟩ | ⟨hv, hvs⟩)
      · obtain rfl := List.length_eq_zero_iff.1 (Nat.le_zero.1 (Nat.le_of_succ_le_succ hlen))
        exact ⟨by simp, .inl (Nat.zero_le 1)⟩
      · exact ⟨fun w hw => .inl ⟨hvs w hw, hv⟩, .inr (.inl hvs)⟩
      · exact ⟨fun w hw => .inr ⟨hvs w hw, hv⟩, .inr (.inr hvs)⟩

/-- Texts have an order. -/
theorem comparable_of_isStr (h : ∀ v ∈ vs, v.IsStr) : comparable vs = .ok () := by
  refine (comparable_scalars_iff fun v hv => ?_).2 (.inr (.inl h))
  obtain ⟨s, rfl⟩ := h v hv
  trivial

end CrateBook.Json
