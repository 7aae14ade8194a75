import CrateBook.Config.Basic
import CrateBook.Proofs.Json.Comparing
import CrateBook.Proofs.Json.Order

/-!
# What merging gives

When the keys of new members are distinct, each of them is merged with what the key had before and
all other members stay: `Merged`. Into members that are neither objects nor lists the new ones are
put as they are; a list of texts is brought to one form, in order and without repetition, that only
the set of its entries decides (`union_texts`, `Listing.eq_of_mem_iff`).
-/

namespace CrateBook.Config

open Json (setMember setMembers)

variable {members new : List (String × Json)} {key : String} {v : Json}

/-! ## Merging one value -/

/-- A value that others are merged into. -/
def isContainer : Json → Bool
  | .arr _ => true
  | .obj _ => true
  | _ => false

theorem mergeValue_none : mergeValue key none v = .ok v := by
  cases v <;> rfl

/-- Every value takes the place of one that nothing is merged into. -/
theorem mergeValue_of_not_isContainer {current : Json} (h : isContainer current = false) :
    mergeValue key (some current) v = .ok v := by
  cases current with
  | arr _ => cases h
  | obj _ => cases h
  | _ => cases v <;> rfl

theorem mergeValue_obj : mergeValue key (some (.obj members)) (.obj new) =
    (mergeMembers members new).map .obj := by
  rw [mergeValue]
  cases mergeMembers members new <;> rfl

/-- The list of an additive key is extended by every value. -/
theorem mergeValue_additive {items : List Json} (hkey : additiveKeys.contains key = true) :
    mergeValue key (some (.arr items)) v = (union items (entriesOf v)).map .arr := by
  cases v <;> simp only [mergeValue, hkey, ↓reduceIte, entriesOf] <;>
    cases union items _ <;> rfl

/-! ## Merging members -/

/-- The members `merged` are `members` with `new` merged into them. -/
structure Merged (members new merged : List (String × Json)) : Prop where
  nodup : (merged.map (·.1)).Nodup
  kept : ∀ k, new.lookup k = none → merged.lookup k = members.lookup k
  set : ∀ k v, new.lookup k = some v →
    ∃ w, mergeValue k (members.lookup k) v = .ok w ∧ merged.lookup k = some w

/-- New members with distinct keys are merged independently of each other. -/
theorem exists_merged (hmembers : (members.map (·.1)).Nodup) (hnew : (new.map (·.1)).Nodup)
    (h : ∀ m ∈ new, ∃ w, mergeValue m.1 (members.lookup m.1) m.2 = .ok w) :
    ∃ merged, mergeMembers members new = .ok merged ∧ Merged members new merged := by
  induction new generalizing members with
  | nil =>
    exact ⟨members, rfl, hmembers, fun _ _ => rfl, fun k v hv => by cases hv⟩
  | cons m new ih =>
    obtain ⟨key, v⟩ := m
    obtain ⟨⟨w, hw⟩, h⟩ := List.forall_mem_cons.1 h
    rw [List.map_cons, List.nodup_cons] at hnew
    obtain ⟨hkey, hnew⟩ := hnew
    -- Later keys differ from the first one, so setting it changes nothing for them.
    have hne {k : String} (hk : k ∈ new.map (·.1)) : k ≠ key := fun e => hkey (e ▸ hk)
    obtain ⟨merged, hmerged, hspec⟩ := @ih (setMember key w members)
      (Json.nodup_keys_setMember hmembers) hnew fun m hm => by
        rw [Json.lookup_setMember_of_ne (hne (List.mem_map_of_mem hm))]
        exact h m hm
    have hnone : new.lookup key = none := by
      refine List.lookup_eq_none_iff.2 fun m hm => bne_iff_ne.2 ?_
      exact (hne (List.mem_map_of_mem hm)).symm
    refine ⟨merged, ?_, hspec.nodup, fun k hk => ?_, fun k u hk => ?_⟩
    · rw [mergeMembers]
      simp only [hw]
      exact hmerged
    · rw [List.lookup_cons] at hk
      cases hbeq : k == key with
      | true =>
        rw [hbeq] at hk
        cases hk
      | false =>
        rw [hbeq] at hk
        rw [hspec.kept k hk, Json.lookup_setMember_of_ne (beq_eq_false_iff_ne.1 hbeq)]
    · rw [List.lookup_cons] at hk
      cases hbeq : k == key with
      | true =>
        rw [hbeq] at hk
        obtain rfl := eq_of_beq hbeq
        cases hk
        exact ⟨w, hw, by rw [hspec.kept k hnone, Json.lookup_setMember_self]⟩
      | false =>
        rw [hbeq] at hk
        obtain ⟨w', hw', hlookup⟩ := hspec.set k u hk
        rw [Json.lookup_setMember_of_ne (beq_eq_false_iff_ne.1 hbeq)] at hw'
        exact ⟨w', hw', hlookup⟩

/-- New members can be merged exactly when each of them can. -/
theorem exists_mergeMembers_iff (hnew : (new.map (·.1)).Nodup) :
    (∃ merged, mergeMembers members new = .ok merged) ↔
      ∀ m ∈ new, ∃ w, mergeValue m.1 (members.lookup m.1) m.2 = .ok w := by
  induction new generalizing members with
  | nil => exact iff_of_true ⟨members, rfl⟩ fun m hm => by cases hm
  | cons m new ih =>
    obtain ⟨key, v⟩ := m
    rw [List.map_cons, List.nodup_cons] at hnew
    rw [mergeMembers, List.forall_mem_cons]
    cases hv : mergeValue key (members.lookup key) v with
    | error f => exact iff_of_false (fun ⟨_, h⟩ => by cases h) fun ⟨⟨_, h⟩, _⟩ => by cases h
    | ok w =>
      refine (ih hnew.2).trans ((forall₂_congr fun m hm => ?_).trans
        (and_iff_right ⟨w, rfl⟩).symm)
      -- Setting the first key changes nothing for the later ones.
      rw [Json.lookup_setMember_of_ne]
      rintro rfl
      exact hnew.1 (List.mem_map.2 ⟨m, hm, rfl⟩)

/-- What merging gives is determined by the members. -/
theorem Merged.of_mergeMembers {merged : List (String × Json)}
    (hmembers : (members.map (·.1)).Nodup) (hnew : (new.map (·.1)).Nodup)
    (h : mergeMembers members new = .ok merged) : Merged members new merged := by
  obtain ⟨merged', h', hmerged⟩ :=
    exists_merged hmembers hnew ((exists_mergeMembers_iff hnew).1 ⟨merged, h⟩)
  obtain rfl := Except.ok.inj (h.symm.trans h')
  exact hmerged

/-- A new member is merged with what its key had before. -/
theorem Merged.lookup_eq {merged : List (String × Json)} {w : Json}
    (hmerged : Merged members new merged) (hv : new.lookup key = some v)
    (hw : mergeValue key (members.lookup key) v = .ok w) : merged.lookup key = some w := by
  obtain ⟨w', hw', hset⟩ := hmerged.set key v hv
  obtain rfl := Except.ok.inj (hw.symm.trans hw')
  exact hset

/-- No key is lost. -/
theorem Merged.exists_lookup {merged : List (String × Json)} (hmerged : Merged members new merged)
    (h : members.lookup key = some v) : ∃ w, merged.lookup key = some w := by
  cases hk : new.lookup key with
  | none => exact ⟨v, (hmerged.kept key hk).trans h⟩
  | some u =>
    obtain ⟨w, -, hw⟩ := hmerged.set key u hk
    exact ⟨w, hw⟩

theorem isContainer_of_lookup {d : Json} (h : ∀ m ∈ members, isContainer m.2 = false)
    (hd : members.lookup key = some d) : isContainer d = false := by
  obtain ⟨l, l', rfl, -⟩ := List.lookup_eq_some_iff.1 hd
  exact h (key, d) (List.mem_append_right _ List.mem_cons_self)

/-- Nothing is merged into the value that this key has. -/
theorem mergeValue_lookup (h : ∀ m ∈ members, isContainer m.2 = false) :
    mergeValue key (members.lookup key) v = .ok v := by
  cases hm : members.lookup key with
  | none => exact mergeValue_none
  | some current => exact mergeValue_of_not_isContainer (isContainer_of_lookup h hm)

/-- Members that nothing is merged into stay integral. -/
theorem exists_merged_plain (hmembers : (Json.obj members).IsIntegral)
    (hnew : (Json.obj new).IsIntegral) (h : ∀ m ∈ members, isContainer m.2 = false) :
    ∃ merged, mergeMembers members new = .ok merged ∧ (Json.obj merged).IsIntegral := by
  obtain ⟨merged, hmerged, hspec⟩ :=
    exists_merged hmembers.1 hnew.1 fun m _ => ⟨m.2, mergeValue_lookup h⟩
  refine ⟨merged, hmerged, hspec.nodup, Json.allIntegralMembers_iff.2 fun m hm => ?_⟩
  have hlookup := (Json.lookup_eq_some_iff_mem hspec.nodup).2 hm
  cases hk : new.lookup m.1 with
  | none =>
    rw [hspec.kept m.1 hk] at hlookup
    exact hmembers.of_lookup hlookup
  | some v =>
    have hset := hspec.lookup_eq hk (mergeValue_lookup h)
    obtain rfl := Option.some.inj (hset.symm.trans hlookup)
    exact hnew.of_lookup hk

/-! ## Lists of texts -/

/-- The texts are in order and none stands twice. -/
structure Listing (ts : List String) : Prop where
  nodup : ts.Nodup
  ordered : ts.Pairwise fun a b => Text.le a b = true

/-- A listing is decided by the set of its texts. -/
theorem Listing.eq_of_mem_iff {ss ts : List String} (hs : Listing ss) (ht : Listing ts)
    (h : ∀ t, t ∈ ss ↔ t ∈ ts) : ss = ts :=
  ((List.perm_ext_iff_of_nodup hs.nodup ht.nodup).2 h).eq_of_pairwise
    (fun _ _ _ _ => Text.le_antisymm) hs.ordered ht.ordered

/-- The entries with one more. -/
def addEntry (done : List Json) (e : Json) : Except Fault (List Json) :=
  match e with
  | .arr _ | .obj _ => .error (.typeMismatch ("a value of kind " ++ e.kindName ++ " is no entry"))
  | e => .ok (if done.any e.same then done else done ++ [e])

theorem distinct_eq_foldlM (entries : List Json) : distinct entries = entries.foldlM addEntry [] :=
  rfl

/-- Of the entries one counts as `e`. -/
def Counts (entries : List Json) (e : Json) : Prop := e ∈ entries ∨ entries.any e.same = true

theorem Counts.mono {es es' : List Json} {e : Json} (h : Counts es e) (hes : es ⊆ es') :
    Counts es' e := by
  refine h.imp (fun he => hes he) fun he => ?_
  obtain ⟨e', he', hsame⟩ := List.any_eq_true.1 he
  exact List.any_eq_true.2 ⟨e', hes he', hsame⟩

theorem addEntry_spec {done next : List Json} {e : Json} (h : addEntry done e = .ok next) :
    isContainer e = false ∧ done ⊆ next ∧ next ⊆ e :: done ∧ Counts next e := by
  have hscalar (he : isContainer e = false)
      (h : Except.ok (if done.any e.same then done else done ++ [e]) =
        (.ok next : Except Fault _)) :
      isContainer e = false ∧ done ⊆ next ∧ next ⊆ e :: done ∧ Counts next e := by
    obtain rfl := Except.ok.inj h
    refine ⟨he, ?_⟩
    split
    · exact ⟨List.Subset.refl _, List.subset_cons_self e done, .inr ‹_›⟩
    · refine ⟨List.subset_append_left _ _, ?_, .inl (by simp)⟩
      intro e' he'
      rwa [List.mem_append, List.mem_singleton, or_comm, ← List.mem_cons] at he'
  cases e with
  | arr _ => cases h
  | obj _ => cases h
  | _ => exact hscalar rfl h

/-- Entries in which each counts once: none is a container, and all count. -/
theorem foldlM_addEntry_spec {es done l : List Json} (h : es.foldlM addEntry done = .ok l)
    (hdone : ∀ e ∈ done, isContainer e = false) :
    (∀ e ∈ l, isContainer e = false) ∧ done ⊆ l ∧ ∀ e ∈ es, Counts l e := by
  induction es generalizing done with
  | nil =>
    obtain rfl := Except.ok.inj h
    exact ⟨hdone, List.Subset.refl _, fun e he => by cases he⟩
  | cons e es ih =>
    rw [List.foldlM_cons] at h
    cases hnext : addEntry done e with
    | error f =>
      rw [hnext] at h
      cases h
    | ok next =>
      rw [hnext] at h
      obtain ⟨he, hgrown, hbound, hcounts⟩ := addEntry_spec hnext
      obtain ⟨hl, hkept, hall⟩ := ih h fun e' he' => by
        rcases List.mem_cons.1 (hbound he') with rfl | he'
        · exact he
        · exact hdone e' he'
      exact ⟨hl, List.Subset.trans hgrown hkept, List.forall_mem_cons.2 ⟨hcounts.mono hkept, hall⟩⟩

theorem not_isContainer_of_foldlM {es done l : List Json}
    (h : es.foldlM addEntry done = .ok l) : ∀ e ∈ es, isContainer e = false := by
  induction es generalizing done with
  | nil => simp
  | cons e es ih =>
    rw [List.foldlM_cons] at h
    cases hnext : addEntry done e with
    | error f =>
      rw [hnext] at h
      cases h
    | ok next =>
      rw [hnext] at h
      exact List.forall_mem_cons.2 ⟨(addEntry_spec hnext).1, ih h⟩

theorem sorted_eq_ok_iff {es l : List Json} :
    sorted es = .ok l ↔ Json.comparable es = .ok () ∧ es.mergeSort Json.le = l := by
  rw [sorted]
  cases Json.comparable es with
  | error f => simp
  | ok _ => exact ⟨fun h => ⟨rfl, Except.ok.inj h⟩, fun h => congrArg Except.ok h.2⟩

theorem sorted_perm {es l : List Json} (h : sorted es = .ok l) : l.Perm es :=
  (sorted_eq_ok_iff.1 h).2 ▸ List.mergeSort_perm es Json.le

/-- In a united list no entry is a container, and every entry of both lists counts. -/
theorem union_spec {current entries l : List Json} (h : union current entries = .ok l) :
    (∀ e ∈ l, isContainer e = false) ∧ ∀ e ∈ current ++ entries, Counts l e := by
  rw [union] at h
  cases hd : distinct (current ++ entries) with
  | error f =>
    rw [hd] at h
    cases h
  | ok once =>
    rw [hd] at h
    have hperm : l.Perm once := sorted_perm h
    obtain ⟨hscalar, -, hcounts⟩ := foldlM_addEntry_spec (distinct_eq_foldlM _ ▸ hd) (by simp)
    exact ⟨fun e he => hscalar e (hperm.subset he),
      fun e he => (hcounts e he).mono hperm.symm.subset⟩

/-! ## Entries that can be joined -/

/-- Entries that can be brought into one list: all are texts, all are numbers, or all are null. -/
def AreJoinable (es : List Json) : Prop :=
  (∀ e ∈ es, e.IsStr) ∨ (∀ e ∈ es, e.IsNumber) ∨ ∀ e ∈ es, e = .null

theorem isScalar_of_not_isContainer {e : Json} (h : isContainer e = false) : e.IsScalar := by
  cases e with
  | arr _ => cases h
  | obj _ => cases h
  | _ => trivial

theorem AreJoinable.not_isContainer {es : List Json} (h : AreJoinable es) :
    ∀ e ∈ es, isContainer e = false := by
  intro e he
  obtain h | h | h := h
  · obtain ⟨s, rfl⟩ := h e he
    rfl
  · obtain ⟨n, hn⟩ := h e he
    cases e <;> first | rfl | cases hn
  · rw [h e he]
    rfl

/-- One scalar is a text, a number or null. -/
theorem areJoinable_singleton {e : Json} (h : isContainer e = false) : AreJoinable [e] := by
  simp only [AreJoinable, List.mem_singleton, forall_eq]
  cases e with
  | null => exact .inr (.inr rfl)
  | str s => exact .inl ⟨s, rfl⟩
  | arr _ => cases h
  | obj _ => cases h
  | _ => exact .inr (.inl ⟨_, rfl⟩)

/-- Entries that count as one are of one kind. -/
theorem areJoinable_of_same {e e' : Json} (h : e.same e' = true) (he : isContainer e = false) :
    (e'.IsStr → e.IsStr) ∧ (e'.IsNumber → e.IsNumber) ∧ (e' = .null → e = .null) := by
  refine ⟨?_, ?_, ?_⟩
  · rintro ⟨s, rfl⟩
    cases e with
    | str t => exact ⟨t, rfl⟩
    | arr _ => cases he
    | obj _ => cases he
    | _ => cases h
  · rintro ⟨n, hn⟩
    cases e with
    | null => cases e' <;> cases hn <;> cases h
    | str t => cases e' <;> cases hn <;> cases h
    | arr _ => cases he
    | obj _ => cases he
    | _ => exact ⟨_, rfl⟩
  · rintro rfl
    cases e with
    | null => rfl
    | arr _ => cases he
    | obj _ => cases he
    | _ => cases h

/-- Entries of which each counts are of one kind when those that are kept are. -/
theorem AreJoinable.of_counts {es l : List Json} (h : AreJoinable l)
    (hes : ∀ e ∈ es, isContainer e = false) (hcounts : ∀ e ∈ es, Counts l e) :
    AreJoinable es := by
  have hkept {K : Json → Prop} (hK : ∀ e e' : Json, e.same e' = true → isContainer e = false →
      K e' → K e) (hl : ∀ e ∈ l, K e) : ∀ e ∈ es, K e := by
    intro e he
    rcases hcounts e he with hmem | hsame
    · exact hl e hmem
    · obtain ⟨e', he', hsame⟩ := List.any_eq_true.1 hsame
      exact hK e e' hsame (hes e he) (hl e' he')
  exact h.imp (hkept fun _ _ hsame he => (areJoinable_of_same hsame he).1) fun h =>
    h.imp (hkept fun _ _ hsame he => (areJoinable_of_same hsame he).2.1)
      (hkept fun _ _ hsame he => (areJoinable_of_same hsame he).2.2)

theorem addEntry_of_not_isContainer {done : List Json} {e : Json} (h : isContainer e = false) :
    addEntry done e = .ok (if done.any e.same then done else done ++ [e]) := by
  cases e with
  | arr _ => cases h
  | obj _ => cases h
  | _ => rfl

/-- Scalars are brought together with none that counts as an earlier one. -/
theorem exists_foldlM_addEntry {es done : List Json} (hes : ∀ e ∈ es, isContainer e = false)
    (hdone : done.Pairwise fun a b => b.same a = false) :
    ∃ l, es.foldlM addEntry done = .ok l ∧ l ⊆ done ++ es ∧
      l.Pairwise fun a b => b.same a = false := by
  induction es generalizing done with
  | nil => exact ⟨done, rfl, by simp, hdone⟩
  | cons e es ih =>
    obtain ⟨he, hes⟩ := List.forall_mem_cons.1 hes
    have hnext : (if done.any e.same then done else done ++ [e]).Pairwise
        fun a b => b.same a = false := by
      split
      · exact hdone
      · rename_i hnew
        refine List.pairwise_append.2 ⟨hdone, List.pairwise_singleton _ _, fun a ha b hb => ?_⟩
        rw [List.mem_singleton.1 hb]
        by_contra hsame
        exact hnew (List.any_eq_true.2 ⟨a, ha, by simpa using hsame⟩)
    obtain ⟨l, hl, hsub, hpairs⟩ := ih hes hnext
    refine ⟨l, ?_, fun x hx => ?_, hpairs⟩
    · rw [List.foldlM_cons, addEntry_of_not_isContainer he]
      exact hl
    · have hmem := hsub hx
      split at hmem <;> simp only [List.mem_append, List.mem_cons, List.not_mem_nil, or_false]
        at hmem ⊢ <;> tauto

/-- Entries of one kind, none of which counts as another one, have an order. -/
theorem AreJoinable.comparable {l : List Json} (h : AreJoinable l)
    (hl : l.Pairwise fun a b => b.same a = false) : Json.comparable l = .ok () := by
  have hscalar := fun e he => isScalar_of_not_isContainer (h.not_isContainer e he)
  refine (Json.comparable_scalars_iff hscalar).2 ?_
  obtain h | h | h := h
  · exact .inr (.inl h)
  · exact .inr (.inr h)
  · -- Null counts as null, so it stands once.
    obtain _ | ⟨a, _ | ⟨b, l⟩⟩ := l
    · exact .inl (Nat.zero_le 1)
    · exact .inl (Nat.le_refl 1)
    · have hsame := (List.pairwise_cons.1 hl).1 b List.mem_cons_self
      rw [h a (by simp), h b (by simp)] at hsame
      cases hsame

/-- **Which entries can be brought into one list**: texts, numbers or null alone. -/
theorem exists_union_iff (es : List Json) : (∃ l, union [] es = .ok l) ↔ AreJoinable es := by
  rw [union, List.nil_append, distinct_eq_foldlM]
  constructor
  · rintro ⟨l, hl⟩
    cases hd : es.foldlM addEntry [] with
    | error f =>
      rw [hd] at hl
      cases hl
    | ok once =>
      rw [hd] at hl
      have hcomparable := (sorted_eq_ok_iff.1 hl).1
      obtain ⟨hscalar, -, hcounts⟩ := foldlM_addEntry_spec hd (by simp)
      have hes := not_isContainer_of_foldlM hd
      refine AreJoinable.of_counts ?_ hes hcounts
      rcases (Json.comparable_scalars_iff fun e he =>
        isScalar_of_not_isContainer (hscalar e he)).1 hcomparable with hlen | hstr | hnumber
      · obtain _ | ⟨a, _ | ⟨b, once⟩⟩ := once
        · exact .inl (by simp)
        · exact areJoinable_singleton (hscalar a List.mem_cons_self)
        · simp at hlen
      · exact .inl hstr
      · exact .inr (.inl hnumber)
  · intro h
    obtain ⟨l, hl, hsub, hpairs⟩ := exists_foldlM_addEntry h.not_isContainer .nil
    rw [hl]
    have hjoinable : AreJoinable l :=
      h.imp (fun h e he => h e (hsub he)) fun h =>
        h.imp (fun h e he => h e (hsub he)) fun h e he => h e (hsub he)
    exact ⟨_, sorted_eq_ok_iff.2 ⟨hjoinable.comparable hpairs, rfl⟩⟩

/-! ## Lists of texts, brought into one form -/

theorem addEntry_str (ts : List String) (s : String) :
    addEntry (ts.map .str) (.str s) = .ok ((if s ∈ ts then ts else ts ++ [s]).map .str) := by
  have hany : (ts.map Json.str).any (Json.str s).same = ts.contains s := by
    rw [List.any_map, List.contains_eq_any_beq]
    rfl
  simp only [addEntry, hany, List.contains_iff_mem]
  split <;> simp

theorem foldlM_addEntry (ss : List String) {done : List String} (hdone : done.Nodup) :
    ∃ ts : List String, (ss.map .str).foldlM addEntry (done.map .str) = .ok (ts.map .str) ∧
      ts.Nodup ∧ ∀ t, t ∈ ts ↔ t ∈ done ∨ t ∈ ss := by
  induction ss generalizing done with
  | nil => exact ⟨done, rfl, hdone, by simp⟩
  | cons s ss ih =>
    have hnext : (if s ∈ done then done else done ++ [s]).Nodup := by
      split
      · exact hdone
      · rename_i hs
        exact List.nodup_append.2 ⟨hdone, List.nodup_singleton s, fun a ha b hb e =>
          hs (List.mem_singleton.1 hb ▸ e ▸ ha)⟩
    obtain ⟨ts, hts, hnodup, hmem⟩ := ih hnext
    refine ⟨ts, ?_, hnodup, fun t => ?_⟩
    · rw [List.map_cons, List.foldlM_cons, addEntry_str]
      exact hts
    · rw [hmem, List.mem_cons, ← or_assoc]
      refine or_congr_left ?_
      split
      · rename_i hs
        exact ⟨.inl, fun h => h.elim id fun e => e ▸ hs⟩
      · rw [List.mem_append, List.mem_singleton]

theorem distinct_texts (ss : List String) : ∃ ts : List String,
    distinct (ss.map .str) = .ok (ts.map .str) ∧ ts.Nodup ∧ ∀ t, t ∈ ts ↔ t ∈ ss := by
  obtain ⟨ts, hts, hnodup, hmem⟩ := foldlM_addEntry ss .nil
  exact ⟨ts, (distinct_eq_foldlM _).trans hts, hnodup, fun t => (hmem t).trans (by simp)⟩

theorem sorted_texts (ts : List String) :
    sorted (ts.map .str) = .ok ((Text.sort ts).map .str) := by
  refine sorted_eq_ok_iff.2
    ⟨Json.comparable_of_isStr (List.forall_mem_map.2 fun t _ => ⟨t, rfl⟩), ?_⟩
  rw [Text.sort, List.map_mergeSort]
  exact fun _ _ _ _ => rfl

/-- The listing that a list of texts becomes. -/
theorem union_texts (ss : List String) : ∃ ts : List String,
    union [] (ss.map .str) = .ok (ts.map .str) ∧ Listing ts ∧ ∀ t, t ∈ ts ↔ t ∈ ss := by
  obtain ⟨ts, hts, hnodup, hmem⟩ := distinct_texts ss
  refine ⟨Text.sort ts, ?_, ⟨?_, ?_⟩, fun t => ?_⟩
  · rw [union, List.nil_append, hts]
    exact sorted_texts ts
  · exact (List.mergeSort_perm _ _).nodup_iff.2 hnodup
  · rw [Text.sort]
    apply List.pairwise_mergeSort
    · intro a b c h h'
      exact Text.le_trans h h'
    · exact Text.le_total
  · rw [Text.sort, List.mem_mergeSort, hmem]

end CrateBook.Config
