import CrateBook.Proofs.Json.Numbers

/-!
# Reading back what is written on one line

A value without decimal fractions is read back from its compact form: `read?_compact`. Hence the
compact form tells such values apart, `compact_inj`. Up to the order of members, which sorting
removes, values are compared by `SameValue`; `sortKeys_eq_iff` joins the two.
-/

namespace CrateBook.Json

mutual

/-- A value without decimal fractions in which no object has a key twice. -/
def IsIntegral : Json → Prop
  | .null => True
  | .bool _ => True
  | .int _ => True
  | .decimal _ => False
  | .str _ => True
  | .arr items => AllIntegral items
  | .obj members => (members.map (·.1)).Nodup ∧ AllIntegralMembers members

/-- Items that are integral. -/
def AllIntegral : List Json → Prop
  | [] => True
  | v :: vs => IsIntegral v ∧ AllIntegral vs

/-- Members whose values are integral. -/
def AllIntegralMembers : List (String × Json) → Prop
  | [] => True
  | (_, v) :: ms => IsIntegral v ∧ AllIntegralMembers ms

end

theorem allIntegral_iff {vs : List Json} : AllIntegral vs ↔ ∀ v ∈ vs, v.IsIntegral := by
  induction vs with
  | nil => simp [AllIntegral]
  | cons v vs ih => simp [AllIntegral, ih]

theorem allIntegralMembers_iff {ms : List (String × Json)} :
    AllIntegralMembers ms ↔ ∀ m ∈ ms, m.2.IsIntegral := by
  induction ms with
  | nil => simp [AllIntegralMembers]
  | cons m ms ih => simp [AllIntegralMembers, ih]

/-! ## Reading back -/

namespace Reader

theorem spells_bracketed_items {ts : List String} {vs : List Json} (h : List.Forall₂ Spells ts vs) :
    Spells (bracketed "[" "]" ts) (.arr vs) := by
  intro frames
  cases h with
  | nil => exact reads_no_items (by simp [bracketed])
  | cons ht hts =>
    exact reads_items (.cons ht hts) (by simp) (toList_bracketed (by simp) (by simp) _)

theorem spells_bracketed_members {ts : List String} {ms : List (String × Json)}
    (h : List.Forall₂ SpellsMember ts ms) (hms : (ms.map (·.1)).Nodup) :
    Spells (bracketed "\x7b" "\x7d" ts) (.obj ms) := by
  intro frames
  cases h with
  | nil => exact reads_no_members (by simp [bracketed])
  | cons ht hts =>
    exact reads_members (.cons ht hts) hms (by simp) (toList_bracketed (by simp) (by simp) _)

mutual

/-- An integral value is spelled by its compact form. -/
theorem spells_compact : ∀ v : Json, IsIntegral v → Spells (compact v) v
  | .null, _ => fun _ => .word (by simp [compact]; exact ⟨rfl, rfl⟩) rfl rfl rfl
  | .bool true, _ => fun _ => .word (by simp [compact]; exact ⟨rfl, rfl⟩) rfl rfl rfl
  | .bool false, _ => fun _ => .word (by simp [compact]; exact ⟨rfl, rfl⟩) rfl rfl rfl
  | .int n, _ => spells_int n
  | .decimal _, h => h.elim
  | .str t, _ => fun _ => .str t
  | .arr items, h => spells_bracketed_items (spells_compactItems items h)
  | .obj members, h => spells_bracketed_members (spells_compactMembers members h.2) h.1

theorem spells_compactItems : ∀ vs : List Json, AllIntegral vs →
    List.Forall₂ Spells (compactItems vs) vs
  | [], _ => .nil
  | v :: vs, h => .cons (spells_compact v h.1) (spells_compactItems vs h.2)

theorem spells_compactMembers : ∀ ms : List (String × Json), AllIntegralMembers ms →
    List.Forall₂ SpellsMember (compactMembers ms) ms
  | [], _ => .nil
  | (_, v) :: ms, h => .cons ⟨_, rfl, spells_compact v h.1⟩ (spells_compactMembers ms h.2)

end

theorem Ended.finish?_eq {v : Json} {s : State} (h : Ended [] v s) : finish? s = some v := by
  obtain ⟨frames, mode⟩ := s
  obtain ⟨rfl, rfl | ⟨cs, rfl, hcs⟩⟩ := h
  · rfl
  · exact hcs

end Reader

/-- **An integral value is read back** from its compact form. -/
theorem read?_compact {v : Json} (h : v.IsIntegral) : read? v.compact = some v := by
  obtain ⟨s, hs, hend⟩ := (Reader.spells_compact v h []).run_value
  rw [read?, hs]
  exact hend.finish?_eq

/-- The compact form tells integral values apart. -/
theorem compact_inj {v w : Json} (hv : v.IsIntegral) (hw : w.IsIntegral) :
    v.compact = w.compact ↔ v = w := by
  refine ⟨fun h => ?_, congrArg compact⟩
  have hread := read?_compact hv
  rw [h, read?_compact hw] at hread
  exact (Option.some.inj hread).symm

/-! ## Line ends -/

theorem return_not_mem_bracketed {left right : String} {parts : List String}
    (hl : '\r' ∉ left.toList) (hr : '\r' ∉ right.toList) (h : ∀ t ∈ parts, '\r' ∉ t.toList) :
    '\r' ∉ (bracketed left right parts).toList := by
  have joined : '\r' ∉ (", ".intercalate parts).toList := by
    intro hmem
    rcases Text.mem_of_mem_intercalate hmem with hmem | ⟨t, ht, hmem⟩
    · simp at hmem
    · exact h t ht hmem
  rw [bracketed]
  simp only [String.toList_append, List.mem_append, not_or]
  exact ⟨⟨hl, joined⟩, hr⟩

mutual

/-- An integral value is written without carriage returns. -/
theorem return_not_mem_compact : ∀ v : Json, IsIntegral v → '\r' ∉ (compact v).toList
  | .null, _ => by simp [compact]
  | .bool b, _ => by cases b <;> simp [compact]
  | .int n, _ => return_not_mem_toString n
  | .decimal _, h => h.elim
  | .str t, _ => return_not_mem_quoted t
  | .arr items, h =>
    return_not_mem_bracketed (by simp) (by simp) (return_not_mem_compactItems items h)
  | .obj members, h =>
    return_not_mem_bracketed (by simp) (by simp) (return_not_mem_compactMembers members h.2)

theorem return_not_mem_compactItems : ∀ vs : List Json, AllIntegral vs →
    ∀ t ∈ compactItems vs, '\r' ∉ t.toList
  | [], _ => by simp [compactItems]
  | v :: vs, h => by
    simp only [compactItems, List.forall_mem_cons]
    exact ⟨return_not_mem_compact v h.1, return_not_mem_compactItems vs h.2⟩

theorem return_not_mem_compactMembers : ∀ ms : List (String × Json), AllIntegralMembers ms →
    ∀ t ∈ compactMembers ms, '\r' ∉ t.toList
  | [], _ => by simp [compactMembers]
  | (k, v) :: ms, h => by
    simp only [compactMembers, List.forall_mem_cons]
    refine ⟨?_, return_not_mem_compactMembers ms h.2⟩
    simp [return_not_mem_quoted, return_not_mem_compact v h.1]

end

end CrateBook.Json
