import CrateBook.Proofs.Config.Merge

/-!
# What the digest of a configuration covers

The text behind the digest is the compact form of two sorted sections, so it says when the sections
are the same up to the order of members. In the skip section of a merged configuration the lists of
texts have one form for each set of entries (`exists_merge`); therefore two configurations that
users write have one canonical text exactly when they agree on the merged build section, on what
else stands in the merged skip section, and on the set of entries of each list:
`canonicalText_eq_iff`.
-/

namespace CrateBook.Config

open Json (SameValue)

variable {u u' c c' : Json} {key : String} {v : Json} {new : List (String × Json)}

/-! ## What users write -/

/-- A text or a list of texts. -/
def IsTexts : Json → Prop
  | .str _ => True
  | .arr items => ∀ v ∈ items, ∃ s, v = .str s
  | _ => False

/-- The entry as text, if it is one. -/
def text? : Json → Option String
  | .str s => some s
  | _ => none

/-- The texts of a text or a list of texts. -/
def textsOf (v : Json) : List String := (entriesOf v).filterMap text?

theorem entriesOf_eq (h : IsTexts v) : entriesOf v = (textsOf v).map .str := by
  cases v with
  | str s => rfl
  | arr items =>
    change items = (items.filterMap text?).map .str
    induction items with
    | nil => rfl
    | cons v items ih =>
      obtain ⟨⟨s, rfl⟩, hitems⟩ := List.forall_mem_cons.1 h
      exact congrArg (Json.str s :: ·) (ih hitems)
  | _ => exact h.elim

/-- A configuration as a user writes it: an object whose sections for building and skipping are
objects and whose lists of what is skipped are texts or lists of texts. -/
structure IsWritten (u : Json) : Prop where
  integral : u.IsIntegral
  object : ∃ ms, u = .obj ms
  section_object : ∀ name ∈ ["build", "skip"], ∀ v, u.get? name = some v → ∃ ms, v = .obj ms
  texts : ∀ skip, u.get? "skip" = some skip →
    ∀ key ∈ additiveKeys, ∀ v, skip.get? key = some v → IsTexts v

/-- The entries that a user has written for one of the lists of what is skipped. -/
def written (u : Json) (key : String) : List String :=
  (((u.get? "skip").bind (Json.get? key)).map textsOf).getD []

/-! ## Merging them -/

/-- The skip section of the standard configuration. -/
def standardSkip : List (String × Json) := additiveKeys.map fun key => (key, .arr [])

theorem lookup_standardSkip_of_mem (h : key ∈ additiveKeys) :
    standardSkip.lookup key = some (.arr []) := by
  simp only [additiveKeys, List.mem_cons, List.not_mem_nil, or_false] at h
  rcases h with rfl | rfl | rfl <;> rfl

theorem lookup_standardSkip_of_not_mem (h : key ∉ additiveKeys) :
    standardSkip.lookup key = none := by
  refine List.lookup_eq_none_iff.2 fun m hm => bne_iff_ne.2 ?_
  obtain ⟨key', hkey', rfl⟩ := List.mem_map.1 hm
  exact fun e => h (e ▸ hkey')

theorem nodup_standardSkip : (standardSkip.map (·.1)).Nodup := by
  simp [standardSkip, additiveKeys]

/-- A section whose members nothing is merged into takes every value. -/
theorem exists_mergeValue_plain {members : List (String × Json)}
    (hmembers : (Json.obj members).IsIntegral) (hplain : ∀ m ∈ members, isContainer m.2 = false)
    (hv : v.IsIntegral) : ∃ w, mergeValue key (some (.obj members)) v = .ok w ∧ w.IsIntegral := by
  cases v with
  | obj new =>
    obtain ⟨merged, hmerged, hintegral⟩ := exists_merged_plain hmembers hv hplain
    exact ⟨.obj merged, by rw [mergeValue_obj, hmerged]; rfl, hintegral⟩
  | _ => exact ⟨_, rfl, hv⟩

theorem allIntegral_texts (ts : List String) : (Json.arr (ts.map .str)).IsIntegral := by
  refine Json.allIntegral_iff.2 fun v hv => ?_
  obtain ⟨t, -, rfl⟩ := List.mem_map.1 hv
  trivial

/-- In a skip section each list has its entries as a listing. -/
def HasListings (s : List (String × Json)) (entries : String → List String) : Prop :=
  ∀ key ∈ additiveKeys, ∃ ts, s.lookup key = some (.arr (ts.map .str)) ∧ Listing ts ∧
    ∀ t, t ∈ ts ↔ t ∈ entries key

/-- The texts that are written for a list become its listing. -/
theorem exists_mergeValue_list (hkey : key ∈ additiveKeys) (hv : IsTexts v) :
    ∃ ts : List String, mergeValue key (standardSkip.lookup key) v = .ok (.arr (ts.map .str)) ∧
      Listing ts ∧ ∀ t, t ∈ ts ↔ t ∈ textsOf v := by
  obtain ⟨ts, hts, hlisting, hmem⟩ := union_texts (textsOf v)
  refine ⟨ts, ?_, hlisting, hmem⟩
  rw [lookup_standardSkip_of_mem hkey, mergeValue_additive (List.contains_iff_mem.2 hkey),
    entriesOf_eq hv, hts]
  rfl

/-- Besides the lists the standard skip section has no members. -/
theorem mergeValue_of_not_mem (hkey : key ∉ additiveKeys) (v : Json) :
    mergeValue key (standardSkip.lookup key) v = .ok v := by
  rw [lookup_standardSkip_of_not_mem hkey, mergeValue_none]

section

variable {merged : List (String × Json)} (hmerged : Merged standardSkip new merged)

include hmerged

theorem Merged.hasListings
    (htexts : ∀ key ∈ additiveKeys, ∀ v, new.lookup key = some v → IsTexts v) :
    HasListings merged fun key => ((new.lookup key).map textsOf).getD [] := by
  intro key hkey
  cases hk : new.lookup key with
  | none =>
    refine ⟨[], ?_, ⟨.nil, .nil⟩, fun t => by simp [hk]⟩
    rw [hmerged.kept key hk, lookup_standardSkip_of_mem hkey]
    rfl
  | some v =>
    obtain ⟨ts, hts, hlisting, hmem⟩ := exists_mergeValue_list hkey (htexts key hkey v hk)
    exact ⟨ts, hmerged.lookup_eq hk hts, hlisting, fun t => by rw [hmem]; simp [hk]⟩

theorem Merged.isIntegral_skip {entries : String → List String}
    (hnew : (Json.obj new).IsIntegral) (hlistings : HasListings merged entries) :
    (Json.obj merged).IsIntegral := by
  refine ⟨hmerged.nodup, Json.allIntegralMembers_iff.2 fun m hm => ?_⟩
  have hlookup := (Json.lookup_eq_some_iff_mem hmerged.nodup).2 hm
  by_cases hkey : m.1 ∈ additiveKeys
  · obtain ⟨ts, hts, -⟩ := hlistings m.1 hkey
    rw [Option.some.inj (hlookup.symm.trans hts)]
    exact allIntegral_texts ts
  · cases hk : new.lookup m.1 with
    | none =>
      rw [hmerged.kept m.1 hk, lookup_standardSkip_of_not_mem hkey] at hlookup
      cases hlookup
    | some v =>
      have hset := hmerged.lookup_eq hk (mergeValue_of_not_mem hkey v)
      rw [Option.some.inj (hlookup.symm.trans hset)]
      exact hnew.of_lookup hk

end

/-- Skip entries that are texts are merged into the standard ones. -/
theorem exists_mergeSkip (hnew : (Json.obj new).IsIntegral)
    (htexts : ∀ key ∈ additiveKeys, ∀ v, new.lookup key = some v → IsTexts v) :
    ∃ merged, mergeMembers standardSkip new = .ok merged ∧ (Json.obj merged).IsIntegral ∧
      HasListings merged fun key => ((new.lookup key).map textsOf).getD [] := by
  obtain ⟨merged, hok, hmerged⟩ := exists_merged nodup_standardSkip hnew.1 fun m hm => by
    by_cases hkey : m.1 ∈ additiveKeys
    · have hlookup := (Json.lookup_eq_some_iff_mem hnew.1).2 hm
      obtain ⟨ts, hts, -⟩ := exists_mergeValue_list hkey (htexts m.1 hkey m.2 hlookup)
      exact ⟨_, hts⟩
    · exact ⟨_, mergeValue_of_not_mem hkey m.2⟩
  have hlistings := hmerged.hasListings htexts
  exact ⟨merged, hok, hmerged.isIntegral_skip hnew hlistings, hlistings⟩

/-! ## Merged configurations -/

/-- The output section of the standard configuration. -/
def standardOutput : List (String × Json) := [("dir_name", .str "docmd"),
  ("metadata_file", .str "metadata.json"), ("report_file", .str "build-report.json")]

/-- The build section of the standard configuration. -/
def standardBuild : List (String × Json) := [("format", .str "html"), ("fail_fast", .bool false)]

/-- The sections of the standard configuration. -/
def standardSections : List (String × Json) :=
  [("output", .obj standardOutput), ("build", .obj standardBuild), ("skip", .obj standardSkip)]

theorem standard_eq : standard = .obj standardSections := rfl

theorem plain_standardOutput : ∀ m ∈ standardOutput, isContainer m.2 = false := by
  simp [standardOutput, isContainer]

theorem plain_standardBuild : ∀ m ∈ standardBuild, isContainer m.2 = false := by
  simp [standardBuild, isContainer]

theorem exists_mergeValue_output (hv : v.IsIntegral) :
    ∃ w, mergeValue key (some (.obj standardOutput)) v = .ok w ∧ w.IsIntegral :=
  exists_mergeValue_plain
    (by simp [standardOutput, Json.IsIntegral, Json.AllIntegralMembers])
    plain_standardOutput hv

theorem exists_mergeValue_build (hv : v.IsIntegral) :
    ∃ w, mergeValue key (some (.obj standardBuild)) v = .ok w ∧ w.IsIntegral :=
  exists_mergeValue_plain
    (by simp [standardBuild, Json.IsIntegral, Json.AllIntegralMembers])
    plain_standardBuild hv

variable {us merged : List (String × Json)}

theorem exists_mergeValue_skip (h : IsWritten (.obj us)) (hv : us.lookup "skip" = some v) :
    ∃ s, mergeValue "skip" (some (.obj standardSkip)) v = .ok (.obj s) ∧
      (Json.obj s).IsIntegral ∧ HasListings s (written (.obj us)) := by
  obtain ⟨new, rfl⟩ := h.section_object "skip" (by simp) v hv
  obtain ⟨s, hs, hintegral, hlistings⟩ := exists_mergeSkip (h.integral.of_lookup hv)
    fun key hkey w hw => h.texts _ hv key hkey w hw
  refine ⟨s, by rw [mergeValue_obj, hs]; rfl, hintegral, ?_⟩
  have hwritten : written (.obj us) = fun key => ((new.lookup key).map textsOf).getD [] := by
    funext key
    rw [written, show Json.get? "skip" (.obj us) = some (.obj new) from hv]
    rfl
  rwa [hwritten]

/-- Whatever a user writes for a key can be merged into the standard configuration. -/
theorem exists_mergeValue_standard (h : IsWritten (.obj us)) (hv : us.lookup key = some v) :
    ∃ w, mergeValue key (standardSections.lookup key) v = .ok w := by
  have hintegral := h.integral.of_lookup hv
  by_cases houtput : key = "output"
  · subst houtput
    exact (exists_mergeValue_output hintegral).imp fun w hw => hw.1
  by_cases hbuild : key = "build"
  · subst hbuild
    exact (exists_mergeValue_build hintegral).imp fun w hw => hw.1
  by_cases hskip : key = "skip"
  · subst hskip
    obtain ⟨s, hs, -⟩ := exists_mergeValue_skip h hv
    exact ⟨_, hs⟩
  have hnone : standardSections.lookup key = none := by
    simp [standardSections, List.lookup_cons, beq_eq_false_iff_ne.2 houtput,
      beq_eq_false_iff_ne.2 hbuild, beq_eq_false_iff_ne.2 hskip]
  exact ⟨v, by rw [hnone, mergeValue_none]⟩

theorem Merged.exists_build (h : IsWritten (.obj us))
    (hmerged : Merged standardSections us merged) :
    ∃ b, merged.lookup "build" = some b ∧ b.IsIntegral := by
  cases hk : us.lookup "build" with
  | none =>
    refine ⟨_, hmerged.kept _ hk, ?_⟩
    simp [standardBuild, Json.IsIntegral, Json.AllIntegralMembers]
  | some v =>
    obtain ⟨w, hw, hintegral⟩ := exists_mergeValue_build (h.integral.of_lookup hk)
    exact ⟨w, hmerged.lookup_eq hk hw, hintegral⟩

theorem Merged.exists_skip (h : IsWritten (.obj us))
    (hmerged : Merged standardSections us merged) :
    ∃ s, merged.lookup "skip" = some (.obj s) ∧ (Json.obj s).IsIntegral ∧
      HasListings s (written (.obj us)) := by
  cases hk : us.lookup "skip" with
  | none =>
    -- Nothing written is an empty section written.
    obtain ⟨s, hs, hintegral, hlistings⟩ := @exists_mergeSkip [] ⟨.nil, trivial⟩ (by simp)
    obtain rfl := Except.ok.inj hs
    have hwritten : written (.obj us) = fun _ => [] := by
      funext key
      rw [written, show Json.get? "skip" (.obj us) = none from hk]
      rfl
    rw [hwritten]
    exact ⟨standardSkip, hmerged.kept _ hk, hintegral, hlistings⟩
  | some v =>
    obtain ⟨s, hs, hspec⟩ := exists_mergeValue_skip h hk
    exact ⟨s, hmerged.lookup_eq hk hs, hspec⟩

/-- The sections of a merged configuration that its canonical text covers. -/
structure Sections (u c b : Json) (s : List (String × Json)) : Prop where
  build : c.get? "build" = some b
  skip : c.get? "skip" = some (.obj s)
  build_integral : b.IsIntegral
  skip_integral : (Json.obj s).IsIntegral
  listings : HasListings s (written u)

/-- What a user writes is merged into the standard configuration. -/
theorem exists_merge (h : IsWritten u) :
    ∃ c b s, merge standard u = .ok c ∧ Sections u c b s := by
  obtain ⟨us, rfl⟩ := h.object
  have hnodup := h.integral.1
  obtain ⟨merged, hok, hmerged⟩ :=
    @exists_merged standardSections us (by simp [standardSections]) hnodup fun m hm =>
      exists_mergeValue_standard h ((Json.lookup_eq_some_iff_mem hnodup).2 hm)
  obtain ⟨b, hb, hbuild⟩ := hmerged.exists_build h
  obtain ⟨s, hs, hskip, hlistings⟩ := hmerged.exists_skip h
  refine ⟨.obj merged, b, s, ?_, hb, hs, hbuild, hskip, hlistings⟩
  rw [merge, standard_eq]
  change (mergeMembers _ us).map Json.obj = _
  rw [hok]
  rfl

/-! ## Canonical texts -/

/-- The section of a configuration. -/
def sectionOf (name : String) (c : Json) : Json := (c.get? name).getD .null

/-- The members of a skip section that are not lists of what is skipped. -/
def withoutLists : Json → Json
  | .obj s => .obj (s.filter fun m => !additiveKeys.contains m.1)
  | v => v

variable {b b' w : Json} {s s' : List (String × Json)} {entries entries' : String → List String}

theorem sameValue_sections_iff : SameValue (.obj [("build", b), ("skip", v)])
    (.obj [("build", b'), ("skip", w)]) ↔ SameValue b b' ∧ SameValue v w := by
  rw [Json.sameValue_obj_iff]
  constructor
  · rintro ⟨-, h⟩
    exact ⟨h "build" _ _ rfl rfl, h "skip" _ _ rfl rfl⟩
  · rintro ⟨hb, hv⟩
    refine ⟨fun k => ?_, fun k x y hx hy => ?_⟩
    · simp only [List.lookup_cons]
      cases k == "build" <;> cases k == "skip" <;> rfl
    · simp only [List.lookup_cons] at hx hy
      cases hbuild : k == "build" <;> cases hskip : k == "skip" <;>
        simp only [hbuild, hskip] at hx hy <;> cases hx <;> cases hy <;> assumption

theorem lookup_withoutLists (s : List (String × Json)) (k : String) :
    (s.filter fun m => !additiveKeys.contains m.1).lookup k =
      if additiveKeys.contains k then none else s.lookup k := by
  rw [Json.lookup_filter_keys fun k => !additiveKeys.contains k]
  cases additiveKeys.contains k <;> rfl

/-- Skip sections with listings are the same when their lists have the same entries and all else in
them is the same. -/
theorem sameValue_skip_iff (hs : HasListings s entries) (hs' : HasListings s' entries') :
    SameValue (.obj s) (.obj s') ↔ SameValue (withoutLists (.obj s)) (withoutLists (.obj s')) ∧
      ∀ key ∈ additiveKeys, ∀ t, t ∈ entries key ↔ t ∈ entries' key := by
  simp only [withoutLists, Json.sameValue_obj_iff, lookup_withoutLists]
  constructor
  · rintro ⟨hkeys, h⟩
    refine ⟨⟨fun k => ?_, fun k v w hv hw => ?_⟩, fun key hkey t => ?_⟩
    · split
      · rfl
      · exact hkeys k
    · split at hv
      · cases hv
      · rw [if_neg ‹_›] at hw
        exact h k v w hv hw
    · obtain ⟨ts, hts, -, hmem⟩ := hs key hkey
      obtain ⟨ts', hts', -, hmem'⟩ := hs' key hkey
      rw [← hmem, ← hmem', Json.sameValue_texts_iff.1 (h key _ _ hts hts')]
  · rintro ⟨⟨hkeys, h⟩, hentries⟩
    refine ⟨fun k => ?_, fun k v w hv hw => ?_⟩
    · by_cases hk : k ∈ additiveKeys
      · obtain ⟨ts, hts, -⟩ := hs k hk
        obtain ⟨ts', hts', -⟩ := hs' k hk
        rw [hts, hts']
        rfl
      · simpa [hk] using hkeys k
    · by_cases hk : k ∈ additiveKeys
      · obtain ⟨ts, hts, hlisting, hmem⟩ := hs k hk
        obtain ⟨ts', hts', hlisting', hmem'⟩ := hs' k hk
        obtain rfl := Option.some.inj (hts.symm.trans hv)
        obtain rfl := Option.some.inj (hts'.symm.trans hw)
        refine Json.sameValue_texts_iff.2 (hlisting.eq_of_mem_iff hlisting' fun t => ?_)
        rw [hmem, hmem', hentries k hk]
      · exact h k v w (by simpa [hk] using hv) (by simpa [hk] using hw)

theorem Sections.canonicalText_eq (h : Sections u c b s) :
    canonicalText c = (Json.obj [("build", b), ("skip", .obj s)]).sortKeys.compact := by
  rw [canonicalText, h.build, h.skip]
  rfl

theorem Sections.isIntegral (h : Sections u c b s) :
    (Json.obj [("build", b), ("skip", .obj s)]).IsIntegral :=
  ⟨by simp, h.build_integral, h.skip_integral, trivial⟩

/-- **The canonical text is exact.** Configurations that users write can be merged into the standard
one, and then have one canonical text exactly when the merged build sections are the same up to the
order of members, so is what stands in the merged skip sections besides the lists, and each list has
the same set of entries. -/
theorem canonicalText_eq_iff (h : IsWritten u) (h' : IsWritten u') :
    ∃ c c', merge standard u = .ok c ∧ merge standard u' = .ok c' ∧
      (canonicalText c = canonicalText c' ↔
        SameValue (sectionOf "build" c) (sectionOf "build" c') ∧
        SameValue (withoutLists (sectionOf "skip" c)) (withoutLists (sectionOf "skip" c')) ∧
        ∀ key ∈ additiveKeys, ∀ entry, entry ∈ written u key ↔ entry ∈ written u' key) := by
  obtain ⟨c, b, s, hc, hsections⟩ := exists_merge h
  obtain ⟨c', b', s', hc', hsections'⟩ := exists_merge h'
  refine ⟨c, c', hc, hc', ?_⟩
  rw [hsections.canonicalText_eq, hsections'.canonicalText_eq,
    Json.compact_sortKeys_inj hsections.isIntegral hsections'.isIntegral, sameValue_sections_iff,
    sameValue_skip_iff hsections.listings hsections'.listings]
  simp only [sectionOf, hsections.build, hsections'.build, hsections.skip, hsections'.skip,
    Option.getD_some]

/-- A configuration with one tag as a text. -/
def oneTag : Json := .obj [("skip", .obj [("tags", .str "nav")])]

/-- A configuration with one tag twice and without an output section. -/
def repeatedTag : Json :=
  .obj [("output", .null), ("skip", .obj [("tags", .arr [.str "nav", .str "nav"])])]

theorem isWritten_oneTag : IsWritten oneTag where
  integral := by simp [oneTag, Json.IsIntegral, Json.AllIntegralMembers]
  object := ⟨_, rfl⟩
  section_object := by simp [oneTag, Json.get?, List.lookup_cons]
  texts := by simp [oneTag, Json.get?, List.lookup_cons, additiveKeys, IsTexts]

theorem isWritten_repeatedTag : IsWritten repeatedTag where
  integral := by simp [repeatedTag, Json.IsIntegral, Json.AllIntegralMembers, Json.AllIntegral]
  object := ⟨_, rfl⟩
  section_object := by simp [repeatedTag, Json.get?, List.lookup_cons]
  texts := by simp [repeatedTag, Json.get?, List.lookup_cons, additiveKeys, IsTexts]

/-- The two configurations have one canonical text. -/
theorem canonicalText_eq_iff_oneTag :
    IsWritten oneTag ∧ IsWritten repeatedTag ∧ ∃ c c', merge standard oneTag = .ok c ∧
      merge standard repeatedTag = .ok c' ∧ canonicalText c = canonicalText c' := by
  refine ⟨isWritten_oneTag, isWritten_repeatedTag, ?_⟩
  obtain ⟨c, c', hc, hc', hiff⟩ := canonicalText_eq_iff isWritten_oneTag isWritten_repeatedTag
  refine ⟨c, c', hc, hc', hiff.2 ?_⟩
  obtain rfl := Except.ok.inj (hc.symm.trans rfl)
  obtain rfl := Except.ok.inj (hc'.symm.trans rfl)
  refine ⟨.refl _, .refl _, ?_⟩
  simp [written, oneTag, repeatedTag, additiveKeys, Json.get?, List.lookup_cons, textsOf, entriesOf,
    text?]

end CrateBook.Config
