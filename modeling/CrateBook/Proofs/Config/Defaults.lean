import CrateBook.Proofs.Config.Canonical
import CrateBook.Proofs.Json.Distinct
import CrateBook.Proofs.Page.Extension
import CrateBook.Proofs.Rustdoc.Results
import CrateBook.Workspace

/-!
# What a user leaves of the defaults

The standard configuration has three sections, and what a user writes is merged into them. A section
that the user does not name, or names with a mapping, keeps all its defaults and can be read by
whatever needs it. A section that is named with anything else, nothing at all included, is replaced,
and no default of it can be read any more: `defaults_kept_iff`. Merging itself fails only for lists
whose entries cannot be brought into one list.
-/

namespace CrateBook.Config

open Page (SkipRules)
open Rustdoc (exists_mapM ok_bind)

variable {u c v : Json} {key name : String} {ms ns new merged : List (String × Json)}

section

variable {α β : Type} {x : Except Fault α} {f : α → β}

theorem exists_of_map_eq_ok {b : β} (h : x.map f = .ok b) : ∃ a, x = .ok a ∧ f a = b := by
  cases x with
  | ok a => exact ⟨a, rfl, Except.ok.inj h⟩
  | error e => cases h

theorem exists_map_eq_ok_iff : (∃ b, x.map f = .ok b) ↔ ∃ a, x = .ok a := by
  constructor
  · rintro ⟨b, h⟩
    obtain ⟨a, ha, -⟩ := exists_of_map_eq_ok h
    exact ⟨a, ha⟩
  · rintro ⟨a, rfl⟩
    exact ⟨f a, rfl⟩

end

/-! ## Sections -/

/-- A section of defaults: plain values, and empty lists of what is skipped. -/
def AreDefaults (ms : List (String × Json)) : Prop :=
  ∀ key d, ms.lookup key = some d →
    isContainer d = false ∨ key ∈ additiveKeys ∧ d = .arr []

/-- The section `ns` is the default one, `ms`, with `new` written into it. No key is missing, plain
values are the written or the default ones, lists have the entries of both, and what has no default
is unchanged. -/
structure KeepsDefaults (ms new ns : List (String × Json)) : Prop where
  keys : ∀ key d, ms.lookup key = some d → ∃ v, ns.lookup key = some v
  values : ∀ key d, ms.lookup key = some d → isContainer d = false →
    ns.lookup key = some ((new.lookup key).getD d)
  lists : ∀ key items, ms.lookup key = some (.arr items) → ∃ entries,
    ns.lookup key = some (.arr entries) ∧ (∀ e ∈ entries, isContainer e = false) ∧
      (∀ e ∈ items, Counts entries e) ∧
      ∀ v, new.lookup key = some v → ∀ e ∈ entriesOf v, Counts entries e
  others : ∀ key v, ms.lookup key = none → new.lookup key = some v → ns.lookup key = some v

/-- What is written into a section can be merged exactly when its lists can. -/
theorem exists_mergeMembers_defaults_iff (hms : AreDefaults ms) (hnew : (new.map (·.1)).Nodup) :
    (∃ ns, mergeMembers ms new = .ok ns) ↔ ∀ key ∈ additiveKeys, ms.lookup key = some (.arr []) →
      ∀ v, new.lookup key = some v → AreJoinable (entriesOf v) := by
  rw [exists_mergeMembers_iff hnew]
  constructor
  · intro h key hkey hlist v hv
    obtain ⟨w, hw⟩ := h (key, v) ((Json.lookup_eq_some_iff_mem hnew).1 hv)
    rw [hlist, mergeValue_additive (List.contains_iff_mem.2 hkey)] at hw
    exact (exists_union_iff _).1 (exists_map_eq_ok_iff.1 ⟨w, hw⟩)
  · intro h m hm
    cases hd : ms.lookup m.1 with
    | none => exact ⟨m.2, mergeValue_none⟩
    | some d =>
      rcases hms m.1 d hd with hplain | ⟨hkey, rfl⟩
      · exact ⟨m.2, mergeValue_of_not_isContainer hplain⟩
      · obtain ⟨l, hl⟩ := (exists_union_iff _).2
          (h m.1 hkey hd m.2 ((Json.lookup_eq_some_iff_mem hnew).2 hm))
        rw [mergeValue_additive (List.contains_iff_mem.2 hkey), hl]
        exact ⟨.arr l, rfl⟩

theorem Merged.keepsDefaults (hmerged : Merged ms new ns) (hms : AreDefaults ms) :
    KeepsDefaults ms new ns where
  keys key d hd := hmerged.exists_lookup hd
  values key d hd hplain := by
    cases hv : new.lookup key with
    | none => exact (hmerged.kept key hv).trans hd
    | some v =>
      refine hmerged.lookup_eq hv ?_
      rw [hd, mergeValue_of_not_isContainer hplain]
      rfl
  lists key items hd := by
    obtain h | ⟨hkey, h⟩ := hms key _ hd
    · cases h
    cases h
    cases hv : new.lookup key with
    | none =>
      refine ⟨[], (hmerged.kept key hv).trans hd, by simp, by simp, fun v h => ?_⟩
      cases h
    | some v =>
      obtain ⟨w, hw, hset⟩ := hmerged.set key v hv
      rw [hd, mergeValue_additive (List.contains_iff_mem.2 hkey)] at hw
      obtain ⟨l, hl, rfl⟩ := exists_of_map_eq_ok hw
      obtain ⟨hscalar, hcounts⟩ := union_spec hl
      refine ⟨l, hset, hscalar, by simp, fun v' hv' => ?_⟩
      cases hv'
      exact hcounts
  others key v hd hv := hmerged.lookup_eq hv (by rw [hd, mergeValue_none])

/-- A section into which nothing is written stays as it is. -/
theorem merged_nil (hms : (ms.map (·.1)).Nodup) : Merged ms [] ms :=
  .of_mergeMembers hms .nil rfl

/-! ## The standard sections -/

/-- A section of the standard configuration. -/
theorem section_cases (h : standardSections.lookup key = some v) :
    key = "output" ∧ v = .obj standardOutput ∨ key = "build" ∧ v = .obj standardBuild ∨
      key = "skip" ∧ v = .obj standardSkip := by
  obtain ⟨m, hm, rfl, rfl⟩ : ∃ m ∈ standardSections, m.1 = key ∧ m.2 = v :=
    ⟨(key, v), (Json.lookup_eq_some_iff_mem (by simp [standardSections])).1 h, rfl, rfl⟩
  simp only [standardSections, List.mem_cons, List.not_mem_nil, or_false] at hm
  rcases hm with rfl | rfl | rfl <;> simp

theorem lookup_output : standardSections.lookup "output" = some (.obj standardOutput) := rfl

theorem lookup_build : standardSections.lookup "build" = some (.obj standardBuild) := rfl

theorem lookup_skip : standardSections.lookup "skip" = some (.obj standardSkip) := rfl

theorem areDefaults_of_plain (h : ∀ m ∈ ms, isContainer m.2 = false) : AreDefaults ms :=
  fun _ _ hd => .inl (isContainer_of_lookup h hd)

theorem areDefaults_standardSkip : AreDefaults standardSkip := by
  intro key d hd
  by_cases hkey : key ∈ additiveKeys
  · rw [lookup_standardSkip_of_mem hkey] at hd
    exact .inr ⟨hkey, (Option.some.inj hd).symm⟩
  · rw [lookup_standardSkip_of_not_mem hkey] at hd
    cases hd

/-- The members of a standard section are defaults with distinct keys. -/
theorem areDefaults_of_section (h : standardSections.lookup name = some (.obj ms)) :
    AreDefaults ms ∧ (ms.map (·.1)).Nodup := by
  obtain ⟨-, h⟩ | ⟨-, h⟩ | ⟨-, h⟩ := section_cases h
  · cases h
    exact ⟨areDefaults_of_plain plain_standardOutput, by simp [standardOutput]⟩
  · cases h
    exact ⟨areDefaults_of_plain plain_standardBuild, by simp [standardBuild]⟩
  · cases h
    exact ⟨areDefaults_standardSkip, nodup_standardSkip⟩

/-- Only the section of what is skipped has lists. -/
theorem eq_skip_of_list {items : List Json} (h : standardSections.lookup name = some (.obj ms))
    (hlist : ms.lookup key = some (.arr items)) : name = "skip" := by
  obtain ⟨-, h⟩ | ⟨-, h⟩ | ⟨hname, -⟩ := section_cases h
  · cases h
    cases isContainer_of_lookup plain_standardOutput hlist
  · cases h
    cases isContainer_of_lookup plain_standardBuild hlist
  · exact hname

/-! ## Configurations -/

/-- The configuration does not have the name, or has a mapping under it. -/
def IsMappingIfAny (u : Json) (name : String) : Prop :=
  ∀ v, u.get? name = some v → ∃ new, v = .obj new

/-- The entries that are written for each list of what is skipped are of one kind. -/
def IsJoinable (u : Json) : Prop :=
  ∀ key ∈ additiveKeys, ∀ v, (u.get? "skip").bind (Json.get? key) = some v →
    AreJoinable (entriesOf v)

/-- The members of a mapping that is written under the name. -/
def writtenMembers (u : Json) (name : String) : List (String × Json) :=
  match u.get? name with
  | some (.obj new) => new
  | _ => []

theorem mergeValue_of_not_obj (h : ∀ new, v ≠ .obj new) :
    mergeValue key (some (.obj ms)) v = .ok v := by
  cases v with
  | obj new => exact absurd rfl (h new)
  | _ => rfl

/-- What is written for a standard section can be merged into it, unless it is a mapping with lists
that cannot be joined. -/
theorem exists_mergeValue_section_iff (h : standardSections.lookup name = some (.obj ms))
    (hv : v.HasDistinctKeys) : (∃ w, mergeValue name (some (.obj ms)) v = .ok w) ↔
      ∀ key ∈ additiveKeys, ms.lookup key = some (.arr []) →
        ∀ e, v.get? key = some e → AreJoinable (entriesOf e) := by
  by_cases hobj : ∃ new, v = .obj new
  · obtain ⟨new, rfl⟩ := hobj
    rw [mergeValue_obj, exists_map_eq_ok_iff,
      exists_mergeMembers_defaults_iff (areDefaults_of_section h).1 hv.nodup]
    rfl
  · refine iff_of_true ⟨v, mergeValue_of_not_obj fun new e => hobj ⟨new, e⟩⟩ ?_
    intro key _ _ e he
    cases v with
    | obj new => exact absurd ⟨new, rfl⟩ hobj
    | _ => cases he

theorem merge_standard : merge standard (.obj new) =
    (mergeMembers standardSections new).map .obj := rfl

/-- What a user writes can be merged exactly when its lists can be joined. -/
theorem exists_merge_iff (hu : (Json.obj new).HasDistinctKeys) :
    (∃ c, merge standard (.obj new) = .ok c) ↔ IsJoinable (.obj new) := by
  rw [merge_standard, exists_map_eq_ok_iff, exists_mergeMembers_iff hu.nodup]
  constructor
  · intro h key hkey v hv
    obtain ⟨skip, hskip, hget⟩ := Option.bind_eq_some_iff.1 hv
    have hmem := (Json.lookup_eq_some_iff_mem hu.nodup).1 hskip
    refine (exists_mergeValue_section_iff lookup_skip (hu.of_get? hskip)).1
      (h ("skip", skip) hmem) key hkey (lookup_standardSkip_of_mem hkey) v hget
  · intro h m hm
    have hlookup := (Json.lookup_eq_some_iff_mem hu.nodup).2 hm
    cases hd : standardSections.lookup m.1 with
    | none => exact ⟨m.2, mergeValue_none⟩
    | some d =>
      obtain ⟨ms, rfl⟩ : ∃ ms, d = .obj ms := by
        obtain ⟨-, h⟩ | ⟨-, h⟩ | ⟨-, h⟩ := section_cases hd <;> exact ⟨_, h⟩
      refine (exists_mergeValue_section_iff hd (hu.of_get? hlookup)).2 ?_
      intro key hkey hlist e he
      refine h key hkey e (Option.bind_eq_some_iff.2 ⟨m.2, ?_, he⟩)
      rw [← eq_skip_of_list hd hlist]
      exact hlookup

theorem exists_merged_of_merge (hu : (Json.obj new).HasDistinctKeys)
    (h : merge standard (.obj new) = .ok c) :
    ∃ merged, Merged standardSections new merged ∧ c = .obj merged := by
  rw [merge_standard] at h
  obtain ⟨merged, hmerged, rfl⟩ := exists_of_map_eq_ok h
  exact ⟨merged, .of_mergeMembers (by simp [standardSections]) hu.nodup hmerged, rfl⟩

/-- A section of a merged configuration: one with all defaults, or what is written instead of it. -/
theorem Merged.keeps_or_replaces (hmerged : Merged standardSections new merged)
    (hu : (Json.obj new).HasDistinctKeys) (h : standardSections.lookup name = some (.obj ms)) :
    (IsMappingIfAny (.obj new) name ∧ ∃ ns, merged.lookup name = some (.obj ns) ∧
        KeepsDefaults ms (writtenMembers (.obj new) name) ns) ∨
      ¬ IsMappingIfAny (.obj new) name ∧
        ∃ v, merged.lookup name = some v ∧ ∀ ns, v ≠ .obj ns := by
  obtain ⟨hdefaults, hms⟩ := areDefaults_of_section h
  cases hv : new.lookup name with
  | none =>
    have hget : (Json.obj new).get? name = none := hv
    refine .inl ⟨fun v h => ?_, ms, (hmerged.kept name hv).trans h, ?_⟩
    · rw [hget] at h
      cases h
    · rw [writtenMembers, hget]
      exact (merged_nil hms).keepsDefaults hdefaults
  | some v =>
    have hget : (Json.obj new).get? name = some v := hv
    obtain ⟨w, hw, hset⟩ := hmerged.set name v hv
    rw [h] at hw
    by_cases hobj : ∃ us, v = .obj us
    · obtain ⟨us, rfl⟩ := hobj
      rw [mergeValue_obj] at hw
      obtain ⟨ns, hns, rfl⟩ := exists_of_map_eq_ok hw
      refine .inl ⟨fun v h => ⟨us, ?_⟩, ns, hset, ?_⟩
      · exact Option.some.inj (h.symm.trans hget)
      · rw [writtenMembers, hget]
        exact (Merged.of_mergeMembers hms (hu.of_get? hget).nodup hns).keepsDefaults hdefaults
    · have hne (us : List (String × Json)) : v ≠ .obj us := fun e => hobj ⟨us, e⟩
      rw [mergeValue_of_not_obj hne] at hw
      obtain rfl := Except.ok.inj hw
      exact .inr ⟨fun h => hobj (h v hget), v, hset, hne⟩

/-! ## Reading a merged configuration -/

theorem member_of_lookup (h : ns.lookup key = some v) : (Json.obj ns).member key = .ok v := by
  rw [Json.member, h]

/-- A list of entries none of which is a container can be read. -/
theorem exists_readEntries {entries : List Json} (h : ns.lookup key = some (.arr entries))
    (hscalar : ∀ e ∈ entries, isContainer e = false) :
    ∃ texts, SkipRules.readEntries key (.obj ns) = .ok texts := by
  have hmember : (Json.obj ns).memberOrNull key = .ok (.arr entries) := by
    rw [Json.memberOrNull, Json.member?, h]
    rfl
  simp only [SkipRules.readEntries, hmember, ok_bind, Page.partsIfAny_arr]
  refine (exists_mapM (R := fun _ _ => True) fun e he => ?_).imp fun _ h => h.1
  cases e with
  | arr _ => cases hscalar _ he
  | obj _ => cases hscalar _ he
  | _ => exact ⟨_, rfl, trivial⟩

theorem exists_extendedBy (hs : KeepsDefaults standardSkip new ns) :
    ∃ rules, SkipRules.default.extendedBy (.obj ns) = .ok rules ∧ rules.Covers .default := by
  have hread (key : String) (hkey : key ∈ additiveKeys) :
      ∃ texts, SkipRules.readEntries key (.obj ns) = .ok texts := by
    obtain ⟨entries, hlist, hscalar, -⟩ := hs.lists key [] (lookup_standardSkip_of_mem hkey)
    exact exists_readEntries hlist hscalar
  obtain ⟨tags, htags⟩ := hread "tags" (by simp [additiveKeys])
  obtain ⟨ids, hids⟩ := hread "ids" (by simp [additiveKeys])
  obtain ⟨classParts, hclassParts⟩ := hread "class_substrings" (by simp [additiveKeys])
  rw [SkipRules.extendedBy, htags, hids, hclassParts]
  exact ⟨_, rfl, fun name attrs h => Page.covers_extended _ _ _ _ name attrs h⟩

/-- Skip rules are extended by mappings only. -/
theorem exists_obj_of_extendedBy {rules : SkipRules}
    (h : SkipRules.default.extendedBy v = .ok rules) : ∃ ns, v = .obj ns := by
  cases v with
  | obj ns => exact ⟨ns, rfl⟩
  | _ => cases h

/-- What needs a merged configuration `c` can read a section exactly when the user has not written
anything but a mapping for it. -/
structure ReadsSections (u c : Json) : Prop where
  member : ∀ name ms key d, standard.get? name = some (.obj ms) → ms.lookup key = some d →
    ((∃ v, (do (← c.member name).member key) = Except.ok v) ↔ IsMappingIfAny u name)
  rules : (∃ rules, (do SkipRules.default.extendedBy (← c.member "skip")) = .ok rules ∧
    rules.Covers .default) ↔ IsMappingIfAny u "skip"
  failsFast : (∃ b, Build.failsFast c = .ok b) ↔ IsMappingIfAny u "build"
  outputRoot : IsMappingIfAny u "output" → ∀ p, Build.outputRoot p c =
    Corpus.configuredPath p.target
      (((writtenMembers u "output").lookup "dir_name").getD (.str "docmd"))
  canonicalText : ∃ b s, c.get? "build" = some b ∧ c.get? "skip" = some s ∧
    canonicalText c = (Json.obj [("build", b), ("skip", s)]).sortKeys.compact

theorem Merged.exists_member_iff (hmerged : Merged standardSections new merged)
    (hu : (Json.obj new).HasDistinctKeys) {d : Json}
    (h : standardSections.lookup name = some (.obj ms)) (hd : ms.lookup key = some d) :
    (∃ v, (do (← (Json.obj merged).member name).member key) = Except.ok v) ↔
      IsMappingIfAny (.obj new) name := by
  obtain ⟨hmapping, ns, hns, hkeeps⟩ | ⟨hmapping, v, hv, hne⟩ := hmerged.keeps_or_replaces hu h
  · obtain ⟨v, hv⟩ := hkeeps.keys key d hd
    refine iff_of_true ⟨v, ?_⟩ hmapping
    rw [member_of_lookup hns, ok_bind, member_of_lookup hv]
  · refine iff_of_false (fun ⟨w, hw⟩ => ?_) hmapping
    rw [member_of_lookup hv, ok_bind] at hw
    obtain ⟨ns, rfl⟩ := Json.exists_obj_of_member hw
    exact hne ns rfl

theorem Merged.readsSections (hmerged : Merged standardSections new merged)
    (hu : (Json.obj new).HasDistinctKeys) : ReadsSections (.obj new) (.obj merged) where
  member name ms key d h hd := hmerged.exists_member_iff hu h hd
  rules := by
    obtain ⟨hmapping, ns, hns, hkeeps⟩ | ⟨hmapping, v, hv, hne⟩ :=
      hmerged.keeps_or_replaces hu lookup_skip
    · rw [member_of_lookup hns, ok_bind]
      exact iff_of_true (exists_extendedBy hkeeps) hmapping
    · rw [member_of_lookup hv, ok_bind]
      refine iff_of_false (fun ⟨rules, hrules, _⟩ => ?_) hmapping
      obtain ⟨ns, rfl⟩ := exists_obj_of_extendedBy hrules
      exact hne ns rfl
  failsFast := by
    have hdefault : standardBuild.lookup "fail_fast" = some (.bool false) := rfl
    refine Iff.trans ?_ (hmerged.exists_member_iff hu lookup_build hdefault)
    rw [Build.failsFast, ← bind_assoc]
    exact exists_map_eq_ok_iff
  outputRoot hmapping p := by
    obtain ⟨-, ns, hns, hkeeps⟩ | ⟨hnot, -⟩ := hmerged.keeps_or_replaces hu lookup_output
    · have hdir := hkeeps.values "dir_name" (.str "docmd") rfl rfl
      rw [Build.outputRoot, member_of_lookup hns]
      simp only [ok_bind, member_of_lookup hdir]
    · exact absurd hmapping hnot
  canonicalText := by
    obtain ⟨b, hb⟩ := hmerged.exists_lookup lookup_build
    obtain ⟨s, hs⟩ := hmerged.exists_lookup lookup_skip
    refine ⟨b, s, hb, hs, ?_⟩
    rw [canonicalText, show (Json.obj merged).get? "build" = some b from hb,
      show (Json.obj merged).get? "skip" = some s from hs]
    rfl

/-- **Defaults are kept section by section.** What a user writes is merged into the standard
configuration exactly when its lists can be joined. Then all that has no default is unchanged, and
each section keeps its defaults and can be read exactly when the user has written no other value
than a mapping for it. -/
theorem defaults_kept_iff (hu : (Json.obj new).HasDistinctKeys) :
    ((∃ c, merge standard (.obj new) = .ok c) ↔ IsJoinable (.obj new)) ∧
      ∀ c, merge standard (.obj new) = .ok c →
        (∀ key v, standard.get? key = none → new.lookup key = some v → c.get? key = some v) ∧
        (∀ name ms, standard.get? name = some (.obj ms) →
          ((∃ ns, c.get? name = some (.obj ns) ∧
              KeepsDefaults ms (writtenMembers (.obj new) name) ns) ↔
            IsMappingIfAny (.obj new) name)) ∧
        ReadsSections (.obj new) c := by
  refine ⟨exists_merge_iff hu, fun c hc => ?_⟩
  obtain ⟨merged, hmerged, rfl⟩ := exists_merged_of_merge hu hc
  refine ⟨fun key v hd hv => ?_, fun name ms h => ?_, hmerged.readsSections hu⟩
  · refine hmerged.lookup_eq hv ?_
    rw [show standardSections.lookup key = none from hd, mergeValue_none]
  · obtain ⟨hmapping, hkeeps⟩ | ⟨hmapping, v, hv, hne⟩ := hmerged.keeps_or_replaces hu h
    · exact iff_of_true hkeeps hmapping
    · refine iff_of_false (fun ⟨ns, hns, _⟩ => ?_) hmapping
      exact hne ns (Option.some.inj (hv.symm.trans hns))

/-- What a user writes for a section with defaults, for the lists, and without a default. -/
def ownMembers : List (String × Json) :=
  [("output", .obj [("dir_name", .str "md")]),
    ("skip", .obj [("tags", .arr [.str "nav"]), ("depth", .int 2)]), ("own", .bool true)]

theorem hasDistinctKeys_ownMembers : (Json.obj ownMembers).HasDistinctKeys := by
  have htags : (Json.arr [.str "nav"]).HasDistinctKeys := .arr (by simpa using .str "nav")
  have hskip : (Json.obj [("tags", .arr [.str "nav"]), ("depth", .int 2)]).HasDistinctKeys :=
    .obj (by simp) (by simpa using ⟨htags, .int 2⟩)
  have houtput : (Json.obj [("dir_name", .str "md")]).HasDistinctKeys :=
    .obj (by simp) (by simpa using .str "md")
  exact .obj (by simp [ownMembers]) (by simpa [ownMembers] using ⟨houtput, hskip, .bool true⟩)

/-- All that has no default is unchanged, and the section that is not named has all defaults. -/
theorem defaults_kept_ownMembers : (Json.obj ownMembers).HasDistinctKeys ∧
    ∃ c, merge standard (.obj ownMembers) = .ok c ∧ c.get? "own" = some (.bool true) ∧
      (∃ ns, c.get? "build" = some (.obj ns) ∧ KeepsDefaults standardBuild [] ns) ∧
      (∀ p, Build.outputRoot p c = .ok (p.target.child "md")) ∧
      ∃ rules, (do SkipRules.default.extendedBy (← c.member "skip")) = .ok rules ∧
        rules.Covers .default := by
  obtain ⟨hmerge, hkept⟩ := defaults_kept_iff hasDistinctKeys_ownMembers
  have hjoinable : IsJoinable (.obj ownMembers) := by
    intro key hkey v hv
    simp only [additiveKeys, List.mem_cons, List.not_mem_nil, or_false] at hkey
    rcases hkey with rfl | rfl | rfl
    · obtain rfl := Option.some.inj hv
      exact .inl fun e he => ⟨"nav", List.mem_singleton.1 he⟩
    · cases hv
    · cases hv
  have hbuild : IsMappingIfAny (.obj ownMembers) "build" := by
    intro v hv
    cases hv
  have hmapping {name : String} {us : List (String × Json)}
      (h : (Json.obj ownMembers).get? name = some (.obj us)) :
      IsMappingIfAny (.obj ownMembers) name :=
    fun v hv => ⟨us, Option.some.inj (hv.symm.trans h)⟩
  obtain ⟨c, hc⟩ := hmerge.2 hjoinable
  obtain ⟨hothers, hsections, hreads⟩ := hkept c hc
  refine ⟨hasDistinctKeys_ownMembers, c, hc, hothers "own" _ rfl rfl, ?_, ?_, ?_⟩
  · exact (hsections "build" standardBuild rfl).2 hbuild
  · exact hreads.outputRoot (hmapping rfl)
  · exact hreads.rules.2 (hmapping rfl)

/-- A section that is named and left empty takes all its defaults away, and no page can be
converted. -/
theorem defaults_lost : ∃ c, merge standard (.obj [("skip", .null)]) = .ok c ∧
    c.get? "skip" = some .null ∧
    (do SkipRules.default.extendedBy (← c.member "skip")) = .error (Json.null.lacks "get") :=
  ⟨_, rfl, rfl, rfl⟩

end CrateBook.Config
