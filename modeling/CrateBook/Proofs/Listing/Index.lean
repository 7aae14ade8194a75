import CrateBook.Listing.Index
import CrateBook.Proofs.Json.Members

/-!
# What a listing says

A listing can be read when every link leads somewhere and there is one at all: `index_eq_ok`. Its
entries are then its links, set one after another, so the last link of a name counts
(`mem_entriesOf`), and no two entries have one name (`nodup_indexOf`).
-/

namespace CrateBook

namespace Json

variable {α : Type _} {k : String} {v : α} {l : List (String × α)}

/-- A key has the value that it was set to last. -/
theorem lookup_setMembers_iff : (setMembers l []).lookup k = some v ↔
    ∃ before after, l = before ++ (k, v) :: after ∧ k ∉ after.map (·.1) := by
  refine ⟨fun h => ?_, ?_⟩
  · induction l using List.reverseRecOn with
    | nil => cases h
    | append_singleton l m ih =>
      obtain ⟨key, w⟩ := m
      rw [setMembers, List.foldl_append, List.foldl_cons, List.foldl_nil] at h
      by_cases hk : k = key
      · subst hk
        rw [lookup_setMember_self] at h
        cases h
        exact ⟨l, [], rfl, by simp⟩
      · rw [lookup_setMember_of_ne hk] at h
        obtain ⟨before, after, rfl, hafter⟩ := ih h
        exact ⟨before, after ++ [(key, w)], by simp, by simpa [hk] using hafter⟩
  · rintro ⟨before, after, rfl, hafter⟩
    exact lookup_setMembers_append hafter

end Json

namespace Listing

open Html (Node)

variable {ls : List Link} {doc : List Node} {done found index : List (String × String)}
  {library : String}

/-! ## Entries -/

/-- The links that lead somewhere, as entries. -/
def leading (ls : List Link) : List (String × String) :=
  ls.filterMap fun l => l.fragment.map (l.name, ·)

theorem entriesAfter_eq_ok : entriesAfter done ls = .ok found ↔
    (∀ l ∈ ls, l.fragment ≠ none) ∧ found = Json.setMembers (leading ls) done := by
  induction ls generalizing done with
  | nil =>
    rw [entriesAfter, Except.ok.injEq, eq_comm]
    simp [leading, Json.setMembers]
  | cons l ls ih =>
    obtain ⟨name, fragment⟩ := l
    cases fragment with
    | none => simp [entriesAfter]
    | some fragment =>
      rw [entriesAfter, ih]
      simp [leading, Json.setMembers_cons]

theorem eq_map_leading (h : ∀ l ∈ ls, l.fragment ≠ none) :
    ls = (leading ls).map fun e => ⟨e.1, some e.2⟩ := by
  induction ls with
  | nil => rfl
  | cons l ls ih =>
    obtain ⟨name, fragment⟩ := l
    obtain ⟨hl, hrest⟩ := List.forall_mem_cons.1 h
    cases fragment with
    | none => exact absurd rfl hl
    | some fragment => exact congrArg _ (ih hrest)

/-- The entries of a listing that can be read. -/
def entriesOf (ls : List Link) : List (String × String) := Json.setMembers (leading ls) []

theorem entriesOf_ne_nil (h : ∀ l ∈ ls, l.fragment ≠ none) (hne : ls ≠ []) : entriesOf ls ≠ [] := by
  intro he
  have hleading : leading ls ≠ [] := by
    intro hnil
    rw [eq_map_leading h, hnil] at hne
    exact hne rfl
  obtain ⟨e, es, hcons⟩ := List.exists_cons_of_ne_nil hleading
  have hmem : e.1 ∈ (entriesOf ls).map (·.1) := by
    rw [entriesOf, Json.mem_keys_setMembers, hcons]
    exact .inl List.mem_cons_self
  rw [he] at hmem
  cases hmem

/-- A listing can be read when there are links and all of them lead somewhere. -/
theorem entries_eq_ok : entries doc = .ok found ↔
    (∀ l ∈ links doc, l.fragment ≠ none) ∧ links doc ≠ [] ∧ found = entriesOf (links doc) := by
  rw [entries]
  cases h : entriesAfter [] (links doc) with
  | error p =>
    simp only [bind, Except.bind, reduceCtorEq, false_iff, not_and]
    intro hall
    have hdone : entriesAfter [] (links doc) = .ok (entriesOf (links doc)) :=
      entriesAfter_eq_ok.2 ⟨hall, rfl⟩
    rw [hdone] at h
    cases h
  | ok es =>
    obtain ⟨hall, rfl⟩ := entriesAfter_eq_ok.1 h
    change (if (entriesOf (links doc)).isEmpty then _ else _) = _ ↔ _
    by_cases hne : links doc = []
    · rw [hne]
      simp [entriesOf, leading, Json.setMembers, throw, throwThe, MonadExceptOf.throw, bind,
        Except.bind]
    · rw [if_neg (by simpa using entriesOf_ne_nil hall hne)]
      refine ⟨fun he => ⟨hall, hne, (Except.ok.inj he).symm⟩, ?_⟩
      rintro ⟨-, -, rfl⟩
      rfl

theorem nodup_entriesOf (ls : List Link) : ((entriesOf ls).map (·.1)).Nodup :=
  Json.nodup_keys_setMembers List.nodup_nil

/-- The entry of a name is where its last link leads. -/
theorem mem_entriesOf {name fragment : String} (h : ∀ l ∈ ls, l.fragment ≠ none) :
    (name, fragment) ∈ entriesOf ls ↔ ∃ before after,
      ls = before ++ ⟨name, some fragment⟩ :: after ∧ ∀ l ∈ after, l.name ≠ name := by
  rw [← Json.lookup_eq_some_iff_mem (nodup_entriesOf ls), entriesOf, Json.lookup_setMembers_iff]
  refine ⟨?_, ?_⟩
  · rintro ⟨before, after, hsplit, hafter⟩
    rw [eq_map_leading h, hsplit, List.map_append, List.map_cons]
    refine ⟨_, _, rfl, fun l hl hname => hafter ?_⟩
    obtain ⟨e, he, rfl⟩ := List.mem_map.1 hl
    exact List.mem_map.2 ⟨e, he, hname⟩
  · rintro ⟨before, after, rfl, hafter⟩
    refine ⟨leading before, leading after, by simp [leading], fun hmem => ?_⟩
    obtain ⟨e, he, hname⟩ := List.mem_map.1 hmem
    obtain ⟨l, hl, hfragment⟩ := List.mem_filterMap.1 he
    obtain ⟨fragment', -, rfl⟩ := Option.map_eq_some_iff.1 hfragment
    exact hafter l hl hname

/-! ## Full names -/

/-- The index of a library that a listing gives. -/
def indexOf (library : String) (ls : List Link) : List (String × String) :=
  (entriesOf ls).map fun e => (library ++ "::" ++ e.1, e.2)

theorem indexOf_ne_nil (h : ∀ l ∈ ls, l.fragment ≠ none) (hne : ls ≠ []) :
    indexOf library ls ≠ [] := by
  simpa [indexOf] using entriesOf_ne_nil h hne

theorem index_eq_ok : Listing.index library doc = .ok index ↔
    (∀ l ∈ links doc, l.fragment ≠ none) ∧ links doc ≠ [] ∧
      index = indexOf library (links doc) := by
  rw [Listing.index]
  cases h : entries doc with
  | error p =>
    simp only [bind, Except.bind, reduceCtorEq, false_iff, not_and]
    intro hall hne
    rw [entries_eq_ok.2 ⟨hall, hne, rfl⟩] at h
    cases h
  | ok es =>
    obtain ⟨hall, hne, rfl⟩ := entries_eq_ok.1 h
    refine ⟨fun he => ⟨hall, hne, (Except.ok.inj he).symm⟩, ?_⟩
    rintro ⟨-, -, rfl⟩
    rfl

theorem nodup_indexOf (library : String) (ls : List Link) :
    ((indexOf library ls).map (·.1)).Nodup := by
  have hmap : (indexOf library ls).map (·.1) =
      ((entriesOf ls).map (·.1)).map (library ++ "::" ++ ·) := by
    simp [indexOf]
  rw [hmap]
  refine (nodup_entriesOf ls).map fun a b hab => ?_
  simpa [← String.toList_inj] using hab

theorem mem_indexOf {key fragment : String} (h : ∀ l ∈ ls, l.fragment ≠ none) :
    (key, fragment) ∈ indexOf library ls ↔ ∃ name before after, key = library ++ "::" ++ name ∧
      ls = before ++ ⟨name, some fragment⟩ :: after ∧ ∀ l ∈ after, l.name ≠ name := by
  rw [indexOf, List.mem_map]
  refine ⟨?_, ?_⟩
  · rintro ⟨⟨name, _⟩, he, hpair⟩
    obtain ⟨rfl, rfl⟩ := Prod.mk.inj hpair
    obtain ⟨before, after, hsplit, hafter⟩ := (mem_entriesOf h).1 he
    exact ⟨name, before, after, rfl, hsplit, hafter⟩
  · rintro ⟨name, before, after, rfl, hsplit, hafter⟩
    exact ⟨(name, fragment), (mem_entriesOf h).2 ⟨before, after, hsplit, hafter⟩, rfl⟩

/-- The index has the full names of the links, whatever their order and number. -/
theorem mem_keys_indexOf {key : String} (h : ∀ l ∈ ls, l.fragment ≠ none) :
    key ∈ (indexOf library ls).map (·.1) ↔ ∃ l ∈ ls, key = library ++ "::" ++ l.name := by
  have hkeys (name : String) : name ∈ (entriesOf ls).map (·.1) ↔ ∃ l ∈ ls, l.name = name := by
    rw [entriesOf, Json.mem_keys_setMembers, List.map_nil]
    conv_rhs => rw [eq_map_leading h]
    simp
  rw [indexOf, List.map_map, List.mem_map]
  refine ⟨?_, ?_⟩
  · rintro ⟨e, he, rfl⟩
    obtain ⟨l, hl, hname⟩ := (hkeys e.1).1 (List.mem_map_of_mem he)
    exact ⟨l, hl, by rw [hname]; rfl⟩
  · rintro ⟨l, hl, rfl⟩
    obtain ⟨e, he, hname⟩ := List.mem_map.1 ((hkeys l.name).2 ⟨l, hl, rfl⟩)
    exact ⟨e, he, by rw [← hname]; rfl⟩

/-- The fragments that links lead to. -/
def fragmentsOf (ls : List Link) : List String := ls.filterMap (·.fragment)

theorem mem_fragmentsOf {e : String × String} (h : ∀ l ∈ ls, l.fragment ≠ none)
    (he : e ∈ indexOf library ls) : e.2 ∈ fragmentsOf ls := by
  obtain ⟨name, before, after, -, rfl, -⟩ := (mem_indexOf h).1 he
  exact List.mem_filterMap.2 ⟨⟨name, some e.2⟩, by simp, rfl⟩

theorem elementNotFound_of_entriesAfter {ls : List Link} {done : List (String × String)}
    {problem : Problem} (h : entriesAfter done ls = .error problem) :
    ∃ selector content detail, problem = .elementNotFound selector content detail := by
  induction ls generalizing done with
  | nil => cases h
  | cons l ls ih =>
    obtain ⟨name, _ | fragment⟩ := l
    · exact ⟨_, _, _, (Except.error.inj h).symm⟩
    · exact ih h

/-- What can be wrong with a listing is that something in it is not found. -/
theorem elementNotFound_of_index {library : String} {doc : List Html.Node} {problem : Problem}
    (h : Listing.index library doc = .error problem) :
    ∃ selector content detail, problem = .elementNotFound selector content detail := by
  rw [Listing.index, entries] at h
  cases hentries : entriesAfter [] (links doc) with
  | error p =>
    rw [hentries] at h
    cases h
    exact elementNotFound_of_entriesAfter hentries
  | ok found =>
    rw [hentries] at h
    cases hempty : found.isEmpty with
    | true =>
      simp only [bind, Except.bind, hempty] at h
      exact ⟨_, _, _, (Except.error.inj h).symm⟩
    | false =>
      simp only [bind, Except.bind, hempty] at h
      cases h

end Listing

end CrateBook
