import Mathlib
import CrateBook.Error

/-!
# Results of readers

A reader returns a value or a fault. `exists_of_bind_eq_ok` takes a reader apart that has returned a
value, and the lemmas on `mapM` are about readers of one thing after another.
-/

namespace CrateBook.Rustdoc

variable {α β γ : Type}

theorem ok_bind (a : α) (g : α → Except Fault β) : Except.ok a >>= g = g a := rfl

theorem exists_of_bind_eq_ok {x : Except Fault α} {f : α → Except Fault β} {b : β}
    (h : x >>= f = .ok b) : ∃ a, x = .ok a ∧ f a = .ok b := by
  cases x with
  | error e => cases h
  | ok a => exact ⟨a, rfl, h⟩

theorem map_ite (f : α → β) (c : Prop) [Decidable c] (x y : Except Fault α) :
    f <$> (if c then x else y) = if c then f <$> x else f <$> y :=
  apply_ite (f <$> ·) c x y

theorem mapM_map_congr {f : α → β} {g : β → Except Fault γ}
    {h : α → Except Fault γ} (hg : ∀ a, g (f a) = h a) (l : List α) :
    (l.map f).mapM g = l.mapM h := by
  rw [List.mapM_map]
  exact congrArg (l.mapM ·) (funext hg)

theorem mapM_map_result (f : β → γ) (g : α → Except Fault β) (l : List α) :
    l.mapM (fun a => f <$> g a) = List.map f <$> l.mapM g := by
  induction l with
  | nil => rfl
  | cons a l ih =>
    simp only [List.mapM_cons, ih, bind_map_left, map_bind, map_pure, List.map_cons]

theorem forM_cons (f : α → Except Fault PUnit) (a : α) (l : List α) :
    (a :: l).forM f = f a >>= fun _ => l.forM f := rfl

/-- Checks of one thing after another succeed when each of them does. -/
theorem forM_eq_ok_iff {f : α → Except Fault PUnit} {l : List α} :
    l.forM f = .ok ⟨⟩ ↔ ∀ a ∈ l, f a = .ok ⟨⟩ := by
  induction l with
  | nil => exact ⟨fun _ _ h => (List.not_mem_nil h).elim, fun _ => rfl⟩
  | cons a l ih =>
    rw [List.forall_mem_cons, ← ih, forM_cons]
    cases f a with
    | error e => exact iff_of_false (by rintro ⟨⟩) (by rintro ⟨⟨⟩, _⟩)
    | ok u => exact (and_iff_right rfl).symm

theorem forM_eq_mapM (f : α → Except Fault PUnit) (l : List α) :
    l.forM f = l.mapM f >>= fun _ => .ok ⟨⟩ := by
  induction l with
  | nil => rfl
  | cons a l ih =>
    rw [forM_cons, ih, List.mapM_cons]
    cases f a with
    | error e => rfl
    | ok _ => cases l.mapM f <;> rfl

theorem forall₂_of_mapM {f : α → Except Fault β} {l : List α} {r : List β}
    (h : l.mapM f = .ok r) : List.Forall₂ (fun a b => f a = .ok b) l r := by
  induction l generalizing r with
  | nil =>
    cases h
    exact .nil
  | cons a l ih =>
    rw [List.mapM_cons] at h
    obtain ⟨b, hb, h⟩ := exists_of_bind_eq_ok h
    obtain ⟨rest, hrest, h⟩ := exists_of_bind_eq_ok h
    cases h
    exact .cons hb (ih hrest)

theorem exists_mapM_map {R : α → β → Prop} {f : α → Except Fault γ} {g : β → γ} {l : List α}
    (h : ∀ a ∈ l, ∃ b, f a = .ok (g b) ∧ R a b) :
    ∃ r, l.mapM f = .ok (r.map g) ∧ List.Forall₂ R l r := by
  induction l with
  | nil => exact ⟨[], rfl, .nil⟩
  | cons a l ih =>
    obtain ⟨⟨b, hb, hab⟩, hl⟩ := List.forall_mem_cons.1 h
    obtain ⟨r, hr, hlr⟩ := ih hl
    refine ⟨b :: r, ?_, .cons hab hlr⟩
    rw [List.mapM_cons, hb, hr]
    rfl

/-- A reader that returns a value for each thing returns one for all of them. -/
theorem exists_mapM {R : α → β → Prop} {f : α → Except Fault β} {l : List α}
    (h : ∀ a ∈ l, ∃ b, f a = .ok b ∧ R a b) : ∃ r, l.mapM f = .ok r ∧ List.Forall₂ R l r := by
  obtain ⟨r, hr, hlr⟩ := exists_mapM_map (g := id) h
  rw [List.map_id] at hr
  exact ⟨r, hr, hlr⟩

/-- What is read from things that stand for others stands for these others, when this holds of each
of them. -/
theorem exists_mapM_of_forall₂ {R : α → γ → Prop} {S : β → γ → Prop} {f : α → Except Fault β}
    {l : List α} {m : List γ} (h : List.Forall₂ R l m)
    (hf : ∀ a ∈ l, ∀ c ∈ m, R a c → ∃ b, f a = .ok b ∧ S b c) :
    ∃ r, l.mapM f = .ok r ∧ List.Forall₂ S r m := by
  induction h with
  | nil => exact ⟨[], rfl, .nil⟩
  | cons hac _ ih =>
    obtain ⟨b, hb, hbc⟩ := hf _ List.mem_cons_self _ List.mem_cons_self hac
    obtain ⟨r, hr, hrm⟩ :=
      ih fun a ha c hc => hf a (List.mem_cons_of_mem _ ha) c (List.mem_cons_of_mem _ hc)
    refine ⟨b :: r, ?_, .cons hbc hrm⟩
    rw [List.mapM_cons, hb, hr]
    rfl

theorem map_eq_of_forall₂ {f : α → γ} {l m : List α}
    (h : List.Forall₂ (fun a b => f a = f b) l m) : l.map f = m.map f := by
  rwa [← List.forall₂_eq_eq_eq, List.forall₂_map_left_iff, List.forall₂_map_right_iff]

theorem mapM_zipIdx_congr {f : α × Nat → Except Fault γ}
    {g : β × Nat → Except Fault γ} {l : List α} {r : List β}
    (h : List.Forall₂ (fun a b => ∀ place, f (a, place) = g (b, place)) l r) (start : Nat) :
    (l.zipIdx start).mapM f = (r.zipIdx start).mapM g := by
  induction h generalizing start with
  | nil => rfl
  | cons hab _ ih =>
    rw [List.zipIdx_cons, List.zipIdx_cons, List.mapM_cons, List.mapM_cons, hab, ih]

end CrateBook.Rustdoc
