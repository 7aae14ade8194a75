import CrateBook.Proofs.Json.Compact

/-!
# Values up to the order of members

Two values are the same, `SameValue`, when they differ only in the order of the members of their
objects. Sorting the members of every object chooses one value among the same ones
(`sortKeys_eq_iff`), so the compact form of the sorted value says when two values are the same:
`compact_sortKeys_inj`.
-/

namespace CrateBook.Json

variable {v w : Json} {vs ws : List Json} {ms ns : List (String × Json)}

/-- Values that are equal up to the order of members, at every depth. -/
inductive SameValue : Json → Json → Prop
  | refl (v : Json) : SameValue v v
  | arr {vs ws : List Json} (hlength : vs.length = ws.length)
      (h : ∀ (i : Nat) v w, vs[i]? = some v → ws[i]? = some w → SameValue v w) :
      SameValue (.arr vs) (.arr ws)
  | obj {ms ns : List (String × Json)}
      (hkeys : ∀ k, (ms.lookup k).isSome = (ns.lookup k).isSome)
      (h : ∀ k v w, ms.lookup k = some v → ns.lookup k = some w → SameValue v w) :
      SameValue (.obj ms) (.obj ns)

/-- What holds of every value whose parts it holds of holds of every value. -/
theorem induction {P : Json → Prop} (null : P .null) (bool : ∀ b, P (.bool b))
    (int : ∀ n, P (.int n)) (decimal : ∀ t, P (.decimal t)) (str : ∀ s, P (.str s))
    (arr : ∀ vs, (∀ v ∈ vs, P v) → P (.arr vs))
    (obj : ∀ ms, (∀ m ∈ ms, P m.2) → P (.obj ms)) : ∀ v, P v
  | .null => null
  | .bool b => bool b
  | .int n => int n
  | .decimal t => decimal t
  | .str s => str s
  | .arr vs => arr vs fun v _ => induction null bool int decimal str arr obj v
  | .obj ms => obj ms fun m _ => induction null bool int decimal str arr obj m.2
decreasing_by
  · have hlt := List.sizeOf_lt_of_mem ‹v ∈ vs›
    simp only [Json.arr.sizeOf_spec]
    omega
  · have hlt := List.sizeOf_lt_of_mem ‹m ∈ ms›
    have hsnd : sizeOf m = 1 + sizeOf m.1 + sizeOf m.2 := rfl
    simp only [Json.obj.sizeOf_spec]
    omega

/-! ## Members with distinct keys -/

/-- Members with distinct keys that are looked up alike are the same members. -/
theorem perm_of_lookup_eq {α : Type _} {l l' : List (String × α)} (hl : (l.map (·.1)).Nodup)
    (hl' : (l'.map (·.1)).Nodup) (h : ∀ k, l.lookup k = l'.lookup k) : l.Perm l' := by
  refine (List.perm_ext_iff_of_nodup (.of_map _ hl) (.of_map _ hl')).2 fun m => ?_
  obtain ⟨k, v⟩ := m
  rw [← lookup_eq_some_iff_mem hl, ← lookup_eq_some_iff_mem hl', h]

theorem lookup_map_snd {α β : Type _} (f : String → α → β) (l : List (String × α)) (k : String) :
    (l.map fun m => (m.1, f m.1 m.2)).lookup k = (l.lookup k).map (f k) := by
  induction l with
  | nil => rfl
  | cons m l ih =>
    rw [List.map_cons, List.lookup_cons, List.lookup_cons, ih]
    cases hk : k == m.1
    · rfl
    · rw [eq_of_beq hk]
      rfl

theorem lookup_filter_keys {α : Type _} (p : String → Bool) (l : List (String × α)) (k : String) :
    (l.filter fun m => p m.1).lookup k = if p k then l.lookup k else none := by
  induction l with
  | nil => simp
  | cons m l ih =>
    obtain ⟨key, v⟩ := m
    have hfilter : ((key, v) :: l).filter (fun m => p m.1) =
        if p key then (key, v) :: l.filter (fun m => p m.1) else l.filter fun m => p m.1 :=
      List.filter_cons
    rw [hfilter]
    by_cases hk : k = key
    · subst hk
      cases hp : p k <;> simp [hp, ih]
    · rw [List.lookup_cons, beq_eq_false_iff_ne.2 hk]
      split
      · rw [List.lookup_cons, beq_eq_false_iff_ne.2 hk, ih]
      · exact ih

/-! ## Sorting -/

theorem sortItems_eq_map (vs : List Json) : sortItems vs = vs.map sortKeys := by
  induction vs with
  | nil => rfl
  | cons v vs ih => rw [sortItems, ih, List.map_cons]

theorem sortMembers_eq_map (ms : List (String × Json)) :
    sortMembers ms = ms.map fun m => (m.1, sortKeys m.2) := by
  induction ms with
  | nil => rfl
  | cons m ms ih => rw [sortMembers, ih, List.map_cons]

theorem keys_sortMembers (ms : List (String × Json)) :
    (sortMembers ms).map (·.1) = ms.map (·.1) := by
  simp [sortMembers_eq_map, Function.comp_def]

theorem lookup_sortMembers (ms : List (String × Json)) (k : String) :
    (sortMembers ms).lookup k = (ms.lookup k).map sortKeys := by
  rw [sortMembers_eq_map, lookup_map_snd fun _ => sortKeys]

theorem sortKeys_obj (ms : List (String × Json)) :
    sortKeys (.obj ms) = .obj ((sortMembers ms).mergeSort fun a b => Text.le a.1 b.1) := rfl

/-- Sorting keeps what is looked up, sorted. -/
theorem lookup_mergeSort_sortMembers (h : (ms.map (·.1)).Nodup) (k : String) :
    ((sortMembers ms).mergeSort fun a b => Text.le a.1 b.1).lookup k =
      (ms.lookup k).map sortKeys := by
  rw [lookup_sorted (by rwa [keys_sortMembers]), lookup_sortMembers]

/-- Members with distinct keys that are looked up alike once sorted are sorted alike. -/
theorem sortKeys_obj_eq (hms : (ms.map (·.1)).Nodup) (hns : (ns.map (·.1)).Nodup)
    (h : ∀ k, (ms.lookup k).map sortKeys = (ns.lookup k).map sortKeys) :
    sortKeys (.obj ms) = sortKeys (.obj ns) := by
  have hperm : (sortMembers ms).Perm (sortMembers ns) := by
    refine perm_of_lookup_eq (by rwa [keys_sortMembers]) (by rwa [keys_sortMembers]) fun k => ?_
    rw [lookup_sortMembers, lookup_sortMembers, h]
  rw [sortKeys_obj, sortKeys_obj, sorted_eq (by rwa [keys_sortMembers])
    ((List.mergeSort_perm _ _).trans hperm.symm) (pairwise_sorted _)]

theorem IsIntegral.of_lookup {k : String} (h : (Json.obj ms).IsIntegral)
    (hv : ms.lookup k = some v) : v.IsIntegral :=
  allIntegralMembers_iff.1 h.2 _ ((lookup_eq_some_iff_mem h.1).1 hv)

theorem IsIntegral.of_mem (h : (Json.arr vs).IsIntegral) (hv : v ∈ vs) : v.IsIntegral :=
  allIntegral_iff.1 h v hv

/-- Sorting keeps values integral. -/
theorem IsIntegral.sortKeys (h : v.IsIntegral) : v.sortKeys.IsIntegral := by
  induction v using induction with
  | null => exact h
  | bool b => exact h
  | int n => exact h
  | decimal t => exact h
  | str s => exact h
  | arr vs ih =>
    rw [Json.sortKeys, sortItems_eq_map]
    refine allIntegral_iff.2 fun v hv => ?_
    obtain ⟨u, hu, rfl⟩ := List.mem_map.1 hv
    exact ih u hu (h.of_mem hu)
  | obj ms ih =>
    rw [sortKeys_obj]
    refine ⟨nodup_keys_sorted (by rw [keys_sortMembers]; exact h.1), ?_⟩
    refine allIntegralMembers_iff.2 fun m hm => ?_
    rw [List.mem_mergeSort, sortMembers_eq_map] at hm
    obtain ⟨u, hu, rfl⟩ := List.mem_map.1 hm
    exact ih u hu (allIntegralMembers_iff.1 h.2 u hu)

/-! ## The same values -/

/-- Same values are sorted alike. -/
theorem SameValue.sortKeys_eq (h : SameValue v w) (hv : v.IsIntegral) (hw : w.IsIntegral) :
    v.sortKeys = w.sortKeys := by
  induction h with
  | refl v => rfl
  | @arr vs ws hlength _ ih =>
    rw [Json.sortKeys, Json.sortKeys, sortItems_eq_map, sortItems_eq_map]
    congr 1
    refine List.ext_getElem (by simpa using hlength) fun i hi hi' => ?_
    rw [List.length_map] at hi hi'
    rw [List.getElem_map, List.getElem_map]
    exact ih i _ _ (List.getElem?_eq_getElem hi) (List.getElem?_eq_getElem hi')
      (hv.of_mem (List.getElem_mem hi)) (hw.of_mem (List.getElem_mem hi'))
  | @obj ms ns hkeys _ ih =>
    refine sortKeys_obj_eq hv.1 hw.1 fun k => ?_
    have hk := hkeys k
    cases hm : ms.lookup k with
    | none =>
      rw [hm] at hk
      rw [Option.isSome_eq_false_iff.1 hk.symm |> Option.isNone_iff_eq_none.1]
    | some v =>
      rw [hm] at hk
      obtain ⟨w, hn⟩ := Option.isSome_iff_exists.1 hk.symm
      rw [hn, Option.map_some, Option.map_some,
        ih k v w hm hn (hv.of_lookup hm) (hw.of_lookup hn)]

/-- Values that are sorted alike are the same. -/
theorem sameValue_of_sortKeys_eq (hv : v.IsIntegral) (hw : w.IsIntegral)
    (h : v.sortKeys = w.sortKeys) : SameValue v w := by
  induction v using induction generalizing w with
  | null => cases w <;> first | exact .refl _ | cases h
  | bool b => cases w <;> first | (cases h; exact .refl _) | cases h
  | int n => cases w <;> first | (cases h; exact .refl _) | cases h
  | decimal t => exact hv.elim
  | str s => cases w <;> first | (cases h; exact .refl _) | cases h
  | arr vs ih =>
    cases w with
    | arr ws =>
      rw [Json.sortKeys, Json.sortKeys, sortItems_eq_map, sortItems_eq_map, Json.arr.injEq] at h
      refine .arr (by simpa using congrArg List.length h) fun i v w hi hi' => ?_
      have hsorted : some v.sortKeys = some w.sortKeys := by
        simpa [List.getElem?_map, hi, hi'] using congrArg (·[i]?) h
      exact ih v (List.mem_of_getElem? hi) (hv.of_mem (List.mem_of_getElem? hi))
        (hw.of_mem (List.mem_of_getElem? hi')) (Option.some.inj hsorted)
    | _ => cases h
  | obj ms ih =>
    cases w with
    | obj ns =>
      have hlookup (k : String) :
          (ms.lookup k).map Json.sortKeys = (ns.lookup k).map Json.sortKeys := by
        rw [← lookup_mergeSort_sortMembers hv.1, ← lookup_mergeSort_sortMembers hw.1]
        rw [sortKeys_obj, sortKeys_obj, Json.obj.injEq] at h
        rw [h]
      refine .obj (fun k => by simpa using congrArg Option.isSome (hlookup k))
        fun k v w hm hn => ?_
      have hsorted := hlookup k
      rw [hm, hn] at hsorted
      exact ih (k, v) ((lookup_eq_some_iff_mem hv.1).1 hm) (hv.of_lookup hm) (hw.of_lookup hn)
        (Option.some.inj hsorted)
    | _ => cases h

/-- Sorting chooses one value among the same ones. -/
theorem sortKeys_eq_iff (hv : v.IsIntegral) (hw : w.IsIntegral) :
    v.sortKeys = w.sortKeys ↔ SameValue v w :=
  ⟨sameValue_of_sortKeys_eq hv hw, fun h => h.sortKeys_eq hv hw⟩

/-- The compact form of the sorted value says when integral values are the same. -/
theorem compact_sortKeys_inj (hv : v.IsIntegral) (hw : w.IsIntegral) :
    v.sortKeys.compact = w.sortKeys.compact ↔ SameValue v w :=
  (compact_inj hv.sortKeys hw.sortKeys).trans (sortKeys_eq_iff hv hw)

/-! ## The same value, part by part -/

theorem sameValue_str_iff {s t : String} : SameValue (.str s) (.str t) ↔ s = t := by
  refine ⟨fun h => ?_, fun h => h ▸ .refl _⟩
  cases h
  rfl

theorem sameValue_arr_iff : SameValue (.arr vs) (.arr ws) ↔ vs.length = ws.length ∧
    ∀ (i : Nat) v w, vs[i]? = some v → ws[i]? = some w → SameValue v w := by
  refine ⟨fun h => ?_, fun h => .arr h.1 h.2⟩
  cases h with
  | refl =>
    refine ⟨rfl, fun i v w hv hw => ?_⟩
    obtain rfl := Option.some.inj (hv.symm.trans hw)
    exact .refl v
  | arr hlength h => exact ⟨hlength, h⟩

theorem sameValue_obj_iff : SameValue (.obj ms) (.obj ns) ↔
    (∀ k, (ms.lookup k).isSome = (ns.lookup k).isSome) ∧
      ∀ k v w, ms.lookup k = some v → ns.lookup k = some w → SameValue v w := by
  refine ⟨fun h => ?_, fun h => .obj h.1 h.2⟩
  cases h with
  | refl =>
    refine ⟨fun _ => rfl, fun k v w hv hw => ?_⟩
    obtain rfl := Option.some.inj (hv.symm.trans hw)
    exact .refl v
  | obj hkeys h => exact ⟨hkeys, h⟩

/-- Lists of texts are the same only if they are equal. -/
theorem sameValue_texts_iff {ss ts : List String} :
    SameValue (.arr (ss.map .str)) (.arr (ts.map .str)) ↔ ss = ts := by
  refine ⟨fun h => ?_, fun h => h ▸ .refl _⟩
  obtain ⟨hlength, h⟩ := sameValue_arr_iff.1 h
  rw [List.length_map, List.length_map] at hlength
  refine List.ext_getElem hlength fun i hi hi' => sameValue_str_iff.1 (h i _ _ ?_ ?_)
  · rw [List.getElem?_map, List.getElem?_eq_getElem hi, Option.map_some]
  · rw [List.getElem?_map, List.getElem?_eq_getElem hi', Option.map_some]

end CrateBook.Json
