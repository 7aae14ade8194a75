import Mathlib
import CrateBook.Json.Access
import CrateBook.Text.Pieces

/-!
# Members and their order

`setMember` keeps the keys of a member list distinct, and a list with distinct keys is a finite map:
`lookup_eq_some_iff_mem` reads it by membership, so `lookup_perm` lets a list be sorted without
changing what it says. Texts are ordered linearly, so sorting by key gives `pairwise_sorted`. Only
an object has members to read (`exists_obj_of_member`).
-/

namespace CrateBook

namespace Text

theorem le_eq (a b : String) : le a b = decide (a ≤ b) := by
  simp only [le, ← not_lt, decide_not]

theorem le_refl (a : String) : le a a = true := by
  rw [le_eq, decide_eq_true_eq]

theorem le_trans {a b c : String} (h : le a b = true) (h' : le b c = true) : le a c = true := by
  simp only [le_eq, decide_eq_true_eq] at *
  exact h.trans h'

theorem le_total (a b : String) : (le a b || le b a) = true := by
  simp only [le_eq, Bool.or_eq_true, decide_eq_true_eq]
  exact LinearOrder.le_total a b

theorem le_antisymm {a b : String} (h : le a b = true) (h' : le b a = true) : a = b := by
  simp only [le_eq, decide_eq_true_eq] at *
  exact h.antisymm h'

end Text

namespace Json

variable {α : Type _} {k key : String} {v w : α} {l l' : List (String × α)}

/-! ## Lookup in a list with distinct keys -/

theorem lookup_eq_some_iff_mem (hl : (l.map (·.1)).Nodup) :
    l.lookup k = some v ↔ (k, v) ∈ l := by
  induction l with
  | nil => simp
  | cons m l ih =>
    obtain ⟨key, w⟩ := m
    simp only [List.map_cons, List.nodup_cons, List.mem_map, not_exists, not_and] at hl
    rw [List.lookup_cons]
    by_cases hk : k = key
    · subst hk
      simp only [BEq.rfl, List.mem_cons, Prod.mk.injEq, true_and, Option.some.injEq]
      refine ⟨fun h => .inl h.symm, fun h => ?_⟩
      rcases h with rfl | h
      · rfl
      · exact absurd rfl (hl.1 _ h)
    · rw [beq_eq_false_iff_ne.2 hk, ih hl.2]
      simp [hk]

/-- The order of members with distinct keys does not matter to lookups. -/
theorem lookup_perm (hl : (l.map (·.1)).Nodup) (hp : l.Perm l') : l.lookup k = l'.lookup k := by
  have hl' : (l'.map (·.1)).Nodup := (hp.map _).nodup_iff.1 hl
  refine Option.ext fun v => ?_
  rw [lookup_eq_some_iff_mem hl, lookup_eq_some_iff_mem hl', hp.mem_iff]

/-! ## Setting a member -/

theorem setMember_of_not_mem (h : k ∉ l.map (·.1)) : setMember k v l = l ++ [(k, v)] := by
  induction l with
  | nil => rfl
  | cons m l ih =>
    obtain ⟨key, w⟩ := m
    simp only [List.map_cons, List.mem_cons, not_or] at h
    rw [setMember, if_neg (Ne.symm h.1), ih h.2]
    rfl

theorem keys_setMember_of_mem (h : k ∈ l.map (·.1)) :
    (setMember k v l).map (·.1) = l.map (·.1) := by
  induction l with
  | nil => simp at h
  | cons m l ih =>
    obtain ⟨key, w⟩ := m
    rw [setMember]
    split
    · rfl
    · rename_i hne
      simp only [List.map_cons, List.mem_cons] at h
      simp only [List.map_cons, ih (h.resolve_left (Ne.symm hne))]

theorem mem_keys_setMember : key ∈ (setMember k v l).map (·.1) ↔ key = k ∨ key ∈ l.map (·.1) := by
  by_cases h : k ∈ l.map (·.1)
  · rw [keys_setMember_of_mem h]
    refine ⟨.inr, fun h' => ?_⟩
    rcases h' with rfl | h'
    · exact h
    · exact h'
  · rw [setMember_of_not_mem h, List.map_append, List.mem_append]
    simp [or_comm]

theorem mem_setMember {m : String × α} (h : m ∈ setMember k v l) : m = (k, v) ∨ m ∈ l := by
  induction l with
  | nil => exact .inl (List.mem_singleton.1 h)
  | cons first l ih =>
    rw [setMember] at h
    split at h
    · rename_i hfirst
      rcases List.mem_cons.1 h with rfl | h
      · exact .inl (by rw [hfirst])
      · exact .inr (List.mem_cons_of_mem _ h)
    · rcases List.mem_cons.1 h with rfl | h
      · exact .inr List.mem_cons_self
      · exact (ih h).imp_right (List.mem_cons_of_mem _)

theorem nodup_keys_setMember (hl : (l.map (·.1)).Nodup) :
    ((setMember k v l).map (·.1)).Nodup := by
  by_cases h : k ∈ l.map (·.1)
  · rwa [keys_setMember_of_mem h]
  · rw [setMember_of_not_mem h, List.map_append]
    refine List.nodup_append.2 ⟨hl, List.nodup_singleton _, fun a ha b hb e => ?_⟩
    rw [List.mem_singleton.1 hb] at e
    subst e
    exact h ha

theorem lookup_setMember_self : (setMember k v l).lookup k = some v := by
  induction l with
  | nil => simp [setMember]
  | cons m l ih =>
    obtain ⟨key, w⟩ := m
    rw [setMember]
    split
    · simp_all
    · rename_i hne
      rw [List.lookup_cons, beq_eq_false_iff_ne.2 (Ne.symm hne), ih]

theorem lookup_setMember_of_ne (h : key ≠ k) : (setMember k v l).lookup key = l.lookup key := by
  induction l with
  | nil => simp [setMember, h]
  | cons m l ih =>
    obtain ⟨key', w⟩ := m
    rw [setMember]
    split
    · subst_vars
      rw [List.lookup_cons, List.lookup_cons, beq_eq_false_iff_ne.2 h]
    · rw [List.lookup_cons, List.lookup_cons, ih]

/-! ## Setting members one after another -/

/-- The members `done` after the members `l` have been set. -/
def setMembers (l done : List (String × α)) : List (String × α) :=
  l.foldl (fun done m => setMember m.1 m.2 done) done

theorem setMembers_cons (m : String × α) (l done : List (String × α)) :
    setMembers (m :: l) done = setMembers l (setMember m.1 m.2 done) := rfl

theorem nodup_keys_setMembers {done : List (String × α)} (h : (done.map (·.1)).Nodup) :
    ((setMembers l done).map (·.1)).Nodup := by
  induction l generalizing done with
  | nil => exact h
  | cons m l ih => exact ih (nodup_keys_setMember h)

theorem lookup_setMembers_of_not_mem {done : List (String × α)} (h : k ∉ l.map (·.1)) :
    (setMembers l done).lookup k = done.lookup k := by
  induction l generalizing done with
  | nil => rfl
  | cons m l ih =>
    simp only [List.map_cons, List.mem_cons, not_or] at h
    rw [setMembers_cons, ih h.2, lookup_setMember_of_ne h.1]

/-- A key has the value that it was set to if it was set to no other. -/
theorem lookup_setMembers_of_mem {done : List (String × α)} (h : (k, v) ∈ l)
    (hv : ∀ w, (k, w) ∈ l → w = v) : (setMembers l done).lookup k = some v := by
  induction l generalizing done with
  | nil => cases h
  | cons m l ih =>
    rw [setMembers_cons]
    by_cases hk : k ∈ l.map (·.1)
    · obtain ⟨⟨key, w⟩, hmem, rfl⟩ := List.mem_map.1 hk
      obtain rfl := hv w (List.mem_cons_of_mem _ hmem)
      exact ih hmem fun w' h' => hv w' (List.mem_cons_of_mem _ h')
    · rw [lookup_setMembers_of_not_mem hk]
      rcases List.mem_cons.1 h with rfl | h
      · exact lookup_setMember_self
      · exact absurd (List.mem_map_of_mem h) hk

/-- A key has the value that it was set to last. -/
theorem lookup_setMembers_append {done before after : List (String × α)}
    (h : k ∉ after.map (·.1)) :
    (setMembers (before ++ (k, v) :: after) done).lookup k = some v := by
  rw [setMembers, List.foldl_append, List.foldl_cons]
  exact (lookup_setMembers_of_not_mem h).trans lookup_setMember_self

theorem mem_keys_setMembers {done : List (String × α)} :
    key ∈ (setMembers l done).map (·.1) ↔ key ∈ l.map (·.1) ∨ key ∈ done.map (·.1) := by
  induction l generalizing done with
  | nil => simp [setMembers]
  | cons m l ih =>
    rw [setMembers_cons, ih, mem_keys_setMember, List.map_cons, List.mem_cons]
    exact or_left_comm.trans or_assoc.symm

/-- What a key has been set to was set, or was there before and never set. -/
theorem mem_of_lookup_setMembers {done : List (String × α)}
    (h : (setMembers l done).lookup k = some v) :
    (k, v) ∈ l ∨ k ∉ l.map (·.1) ∧ done.lookup k = some v := by
  induction l generalizing done with
  | nil => exact .inr ⟨List.not_mem_nil, h⟩
  | cons m l ih =>
    obtain ⟨key, w⟩ := m
    rw [setMembers_cons] at h
    rcases ih h with h | ⟨hnot, h⟩
    · exact .inl (List.mem_cons_of_mem _ h)
    · by_cases hk : k = key
      · subst hk
        rw [lookup_setMember_self] at h
        cases h
        exact .inl List.mem_cons_self
      · rw [lookup_setMember_of_ne hk] at h
        exact .inr ⟨List.not_mem_cons_of_ne_of_not_mem hk hnot, h⟩

/-- A list with distinct keys is what setting its members one after another gives. -/
theorem lastOfEach_of_nodup (hl : (l.map (·.1)).Nodup) : lastOfEach l = l := by
  suffices ∀ done : List (String × α), ((done ++ l).map (·.1)).Nodup →
      l.foldl (fun done m => setMember m.1 m.2 done) done = done ++ l from this [] hl
  clear hl
  induction l with
  | nil => simp
  | cons m l ih =>
    intro done h
    have hm : m.1 ∉ done.map (·.1) := by
      rw [List.map_append, List.map_cons, List.nodup_append] at h
      exact fun hmem => h.2.2 _ hmem _ List.mem_cons_self rfl
    rw [List.foldl_cons, setMember_of_not_mem hm, ih _ (by simpa using h)]
    simp

theorem setMember_map {α β : Type _} (f : α → β) (key : String) (v : α) (l : List (String × α)) :
    setMember key (f v) (l.map fun m => (m.1, f m.2)) =
      (setMember key v l).map fun m => (m.1, f m.2) := by
  induction l with
  | nil => rfl
  | cons m l ih =>
    rw [List.map_cons, setMember, setMember, ih]
    split <;> rfl

theorem lastOfEach_map {α β : Type _} (f : α → β) (l : List (String × α)) :
    lastOfEach (l.map fun m => (m.1, f m.2)) =
      (lastOfEach l).map fun m => (m.1, f m.2) := by
  suffices ∀ done : List (String × α),
      (l.map fun m => (m.1, f m.2)).foldl (fun done m => setMember m.1 m.2 done)
        (done.map fun m => (m.1, f m.2)) =
      (l.foldl (fun done m => setMember m.1 m.2 done) done).map fun m => (m.1, f m.2) from
    this []
  induction l with
  | nil => exact fun _ => rfl
  | cons m l ih =>
    intro done
    rw [List.map_cons, List.foldl_cons, List.foldl_cons, setMember_map f, ih]

/-! ## Sorting by key -/

/-- The order in which things are sorted by a text. -/
theorem pairwise_mergeSort (f : α → String) (l : List α) :
    (l.mergeSort fun a b => Text.le (f a) (f b)).Pairwise
      fun a b => Text.le (f a) (f b) = true := by
  apply List.pairwise_mergeSort
  · intro a b c h h'
    exact Text.le_trans h h'
  · intro a b
    exact Text.le_total (f a) (f b)

/-- Things with distinct texts have one order. -/
theorem mergeSort_eq {f : α → String} {l l' : List α} (hl : (l.map f).Nodup) (hp : l'.Perm l)
    (hs : l'.Pairwise fun a b => Text.le (f a) (f b) = true) :
    (l.mergeSort fun a b => Text.le (f a) (f b)) = l' := by
  have hperm : (l.mergeSort fun a b => Text.le (f a) (f b)).Perm l' :=
    (List.mergeSort_perm _ _).trans hp.symm
  refine hperm.eq_of_pairwise (fun a b ha hb h h' => ?_) (pairwise_mergeSort f l) hs
  have hkey := Text.le_antisymm h h'
  have hb' := hp.mem_iff.1 hb
  have ha' := hp.mem_iff.1 (hperm.mem_iff.1 ha)
  exact List.inj_on_of_nodup_map hl ha' hb' hkey

/-- The order in which members are sorted. -/
theorem pairwise_sorted (l : List (String × α)) :
    (l.mergeSort fun a b => Text.le a.1 b.1).Pairwise fun a b => Text.le a.1 b.1 = true :=
  pairwise_mergeSort (·.1) l

/-- Members with distinct keys have one order. -/
theorem sorted_eq (hl : (l.map (·.1)).Nodup) (hp : l'.Perm l)
    (hs : l'.Pairwise fun a b => Text.le a.1 b.1 = true) :
    (l.mergeSort fun a b => Text.le a.1 b.1) = l' := mergeSort_eq hl hp hs

theorem lookup_sorted (hl : (l.map (·.1)).Nodup) :
    (l.mergeSort fun a b => Text.le a.1 b.1).lookup k = l.lookup k :=
  (lookup_perm hl (List.mergeSort_perm _ _).symm).symm

theorem nodup_keys_sorted (hl : (l.map (·.1)).Nodup) :
    ((l.mergeSort fun a b => Text.le a.1 b.1).map (·.1)).Nodup :=
  ((List.mergeSort_perm _ _).map _).nodup_iff.2 hl

theorem keys_sorted (l : List (String × α)) :
    (l.mergeSort fun a b => Text.le a.1 b.1).map (·.1) = Text.sort (l.map (·.1)) := by
  rw [Text.sort]
  exact @List.map_mergeSort _ _ (fun a b => Text.le a.1 b.1) Text.le (·.1) l fun _ _ _ _ => rfl

/-! ## Reading a member -/

/-- Only objects have members. -/
theorem exists_obj_of_member {v w : Json} (h : v.member key = .ok w) : ∃ ms, v = .obj ms := by
  cases v with
  | obj ms => exact ⟨ms, rfl⟩
  | _ => cases h

end Json

end CrateBook
