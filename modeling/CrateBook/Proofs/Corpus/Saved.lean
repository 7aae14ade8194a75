import CrateBook.Config.Basic
import CrateBook.Proofs.Corpus.Saving
import CrateBook.Proofs.Json.RoundTrip
import CrateBook.Proofs.Path.Written

/-!
# What a build leaves on disk

A configuration names two files beside the pages of a corpus, the sidecar and the report
(`BesidePages`). When the changes of a build are made, each page holds its text unless a later one
has the same place (`find_page`), the sidecar is read back with its map in order (`load_sidecar`),
and there is a report just when there are failures (`find_report`, `has_report`).
-/

namespace CrateBook.Corpus

open Json

/-! ## Reading a sidecar back -/

theorem Sidecar.allTextualMembers_iff {ms : List (String × Json)} :
    AllTextualMembers ms ↔ ∀ m ∈ ms, IsTextual m.2 := by
  induction ms with
  | nil => simp [AllTextualMembers]
  | cons m ms ih => simp [AllTextualMembers, ih]

namespace Sidecar

/-- The sidecar with its map in order of paths. -/
def sorted (s : Sidecar) : Sidecar :=
  { s with itemMap := s.itemMap.mergeSort fun a b => Text.le a.1 b.1 }

/-- All values of the sidecar are textual and no path has two pages. -/
structure IsTextual (s : Sidecar) : Prop where
  declared : s.declared.IsTextual
  canonical : s.canonical.IsTextual
  itemMap : ∀ m ∈ s.itemMap, Json.IsTextual m.2
  keys : (s.itemMap.map (·.1)).Nodup
  format : s.format.IsTextual
  digest : s.digest.IsTextual

variable {s : Sidecar}

theorem IsTextual.toJson (hs : s.IsTextual) : s.toJson.IsTextual := by
  have hmap : AllTextualMembers (s.itemMap.mergeSort fun a b => Text.le a.1 b.1) :=
    allTextualMembers_iff.2 fun m hm =>
      hs.itemMap m ((List.mergeSort_perm _ _).mem_iff.1 hm)
  exact ⟨by simp, hs.declared, hs.canonical, ⟨nodup_keys_sorted hs.keys, hmap⟩, hs.format,
    hs.digest, trivial⟩

theorem ofJson_toJson (s : Sidecar) : ofJson s.toJson = .ok s.sorted := by
  have hmap (l : List (String × Json)) : readMap (.obj l) = .ok l := by
    cases l with
    | nil => rfl
    | cons m l => rfl
  simp only [toJson, ofJson, member, memberOrNull, member?, List.lookup, String.reduceBEq, bind,
    Except.bind, pure, Except.pure, Option.getD_some, hmap]
  rfl

theorem ofText_text (hs : s.IsTextual) : ofText s.text = .ok s.sorted := by
  rw [ofText, text, read?_pretty hs.toJson]
  exact ofJson_toJson s

/-- A sidecar that was saved is loaded with its map in order. -/
theorem load_of_find {disk : Disk} {p : Path} (hs : s.IsTextual)
    (h : disk.find p = .ok (.file (Text.Utf8.encode s.text))) : load disk p = .ok s.sorted := by
  have hread := Disk.read_of_find h (return_not_mem_pretty hs.toJson)
  have htext : (disk.read p >>= ofText) = .ok s.sorted := by
    simp only [hread, bind, Except.bind, ofText_text hs]
  rw [load, htext]

end Sidecar

/-! ## Where things are saved -/

/-- The configuration names the files of the sidecar and of the report. -/
def Names (config : Json) (sidecar report : String) : Prop :=
  ∃ output, config.member "output" = .ok output ∧
    output.member "metadata_file" = .ok (.str sidecar) ∧
    output.member "report_file" = .ok (.str report)

theorem Names.unique {sidecar report sidecar' report' : String} (h : Names config sidecar report)
    (h' : Names config sidecar' report') : sidecar = sidecar' ∧ report = report' := by
  obtain ⟨output, houtput, hsidecar, hreport⟩ := h
  obtain ⟨output', houtput', hsidecar', hreport'⟩ := h'
  obtain rfl := Except.ok.inj (houtput.symm.trans houtput')
  exact ⟨Json.str.inj (Except.ok.inj (hsidecar.symm.trans hsidecar')),
    Json.str.inj (Except.ok.inj (hreport.symm.trans hreport'))⟩

/-- The configuration names the files of the sidecar and of the report: two plain names that are
not those of pages. -/
structure BesidePages (config : Json) (sidecar report : String) : Prop where
  named : Names config sidecar report
  sidecar_plain : Path.IsPlain sidecar
  report_plain : Path.IsPlain report
  sidecar_ne_report : sidecar ≠ report
  sidecar_ext : ¬".md".toList <:+ sidecar.toList
  report_ext : ¬".md".toList <:+ report.toList

theorem besidePages_standard :
    BesidePages Config.standard "metadata.json" "build-report.json" where
  named := ⟨_, rfl, rfl, rfl⟩
  sidecar_plain := by decide
  report_plain := by decide
  sidecar_ne_report := by decide
  sidecar_ext := by decide
  report_ext := by decide

/-- The text names a place in a directory whose last name has the extension `.md`. -/
def IsPageIn (out : Path) (page : String) : Prop :=
  ∃ place s, (out.child page).place = place ++ [s ++ ".md"]

variable {config : Json} {sidecar report page : String} {out : Path}

theorem place_page_ne (hpage : IsPageIn out page) {name : String} (hname : Path.IsPlain name)
    (hext : ¬".md".toList <:+ name.toList) : (out.child page).place ≠ (out.child name).place := by
  obtain ⟨place, s, hplace⟩ := hpage
  rw [hplace, Path.place_child_name hname]
  intro he
  obtain ⟨-, hs⟩ := List.append_inj' he rfl
  rw [← List.singleton_inj.1 hs, String.toList_append] at hext
  exact hext (List.suffix_append _ _)

theorem BesidePages.place_ne (h : BesidePages config sidecar report) (out : Path) :
    (out.child sidecar).place ≠ (out.child report).place := by
  rw [Path.place_child_name h.sidecar_plain, Path.place_child_name h.report_plain]
  intro he
  obtain ⟨-, hs⟩ := List.append_inj' he rfl
  exact h.sidecar_ne_report (List.singleton_inj.1 hs)

theorem BesidePages.sidecar_place_ne (h : BesidePages config sidecar report)
    (hpage : IsPageIn out page) : (out.child sidecar).place ≠ (out.child page).place :=
  (place_page_ne hpage h.sidecar_plain h.sidecar_ext).symm

theorem BesidePages.report_place_ne (h : BesidePages config sidecar report)
    (hpage : IsPageIn out page) : (out.child report).place ≠ (out.child page).place :=
  (place_page_ne hpage h.report_plain h.report_ext).symm

/-! ## What is saved -/

variable {b : Built} {library : LibraryName} {format : String} {d : Disk}

theorem changes_eq (h : Names config sidecar report) :
    b.changes library out format config = fileChanges out b.files ++
      [.write (out.child sidecar) (b.sidecar library format).text,
        .report (.written b.files.length out)] ++ reportChanges (out.child report) b.report := by
  obtain ⟨output, houtput, hsidecar, hreport⟩ := h
  rw [Built.changes, houtput]
  dsimp only
  rw [hsidecar, hreport, List.append_assoc]
  rfl

/-- The changes of a build write its pages, the sidecar and the report, or remove the report. -/
theorem mem_changes (h : Names config sidecar report) {c : Change}
    (hc : c ∈ b.changes library out format config) :
    (∃ s t, (s ∈ b.files.map (·.1) ∨ s = sidecar ∨ s = report) ∧ c = .write (out.child s) t) ∨
      c = .remove (out.child report) ∨ ∃ n, c = .report n := by
  rw [changes_eq h] at hc
  rcases List.mem_append.1 hc with hc | hc
  · rcases List.mem_append.1 hc with hc | hc
    · rcases mem_fileChanges hc with ⟨file, hfile, rfl⟩ | hn
      · exact .inl ⟨_, _, .inl (List.mem_map_of_mem hfile), rfl⟩
      · exact .inr (.inr hn)
    · simp only [List.mem_cons, List.not_mem_nil, or_false] at hc
      rcases hc with rfl | rfl
      · exact .inl ⟨_, _, .inr (.inl rfl), rfl⟩
      · exact .inr (.inr ⟨_, rfl⟩)
  · rw [reportChanges] at hc
    split at hc
    · exact .inr (.inl (List.mem_singleton.1 hc))
    · simp only [List.mem_cons, List.not_mem_nil, or_false] at hc
      rcases hc with rfl | rfl
      · exact .inl ⟨_, _, .inr (.inr rfl), rfl⟩
      · exact .inr (.inr ⟨_, rfl⟩)

/-- A failure among changes at a path that a configuration names is that it names none, when
there is none among the changes themselves. -/
theorem fault_of_fail_mem_changesAt {path : Except Fault Path} {changes : Path → List Change}
    {f : Failure} (h : .fail f ∈ changesAt path changes)
    (hchanges : ∀ p, .fail f ∈ changes p → ∃ fault, f = .fault fault) :
    ∃ fault, f = .fault fault := by
  cases path with
  | ok p => exact hchanges p h
  | error fault => exact ⟨fault, Change.fail.inj (List.mem_singleton.1 h)⟩

/-- The only failure among the changes of a build is that the configuration names no file. -/
theorem fault_of_fail_mem_changes {f : Failure}
    (h : .fail f ∈ b.changes library out format config) : ∃ fault, f = .fault fault := by
  rw [Built.changes] at h
  split at h
  · exact ⟨_, Change.fail.inj (List.mem_singleton.1 h)⟩
  · rcases List.mem_append.1 h with h | h
    · rcases mem_fileChanges h with ⟨_, _, hc⟩ | ⟨_, hc⟩ <;> cases hc
    · refine fault_of_fail_mem_changesAt h fun p h => ?_
      rcases List.mem_append.1 h with h | h
      · simp at h
      · refine fault_of_fail_mem_changesAt h fun p h => ?_
        rw [reportChanges] at h
        split at h <;> simp at h

theorem touches_reportChanges {path : Path} {r : Report} {c : Change} {place : List String}
    (hc : c ∈ reportChanges path r) (ht : c.Touches place) : path.place = place := by
  rw [reportChanges] at hc
  split at hc
  · rw [List.mem_singleton.1 hc] at ht
    exact ht
  · rcases List.mem_cons.1 hc with rfl | hc
    · exact ht
    · rw [List.mem_singleton.1 hc] at ht
      exact ht.elim

/-- The disk when the changes of a build have been made or one of them has failed. -/
abbrev Built.applied (b : Built) (d : Disk) (library : LibraryName) (out : Path) (format : String)
    (config : Json) : Applied :=
  applyAll d (b.changes library out format config)

/-- A page holds its text unless a later one has the same place. -/
theorem find_page (h : Names config sidecar report)
    (hok : (b.applied d library out format config).failure = none)
    {before after : List (String × String)} {file : String × String}
    (hsort : (b.files.mergeSort fun a b => Text.le a.1 b.1) = before ++ file :: after)
    (hsidecar : (out.child sidecar).place ≠ (out.child file.1).place)
    (hreport : (out.child report).place ≠ (out.child file.1).place)
    (hafter : ∀ file' ∈ after, (out.child file'.1).place ≠ (out.child file.1).place) :
    (b.applied d library out format config).disk.find (out.child file.1) =
      .ok (.file (Text.Utf8.encode file.2)) := by
  obtain ⟨cs, ds, hsplit, htouch⟩ :=
    fileChanges_split out (out.child file.1).place hsort
  rw [Built.applied, changes_eq h, hsplit, List.append_assoc, List.append_assoc,
    List.cons_append] at hok ⊢
  refine find_of_write hok fun c hc ht => ?_
  rcases List.mem_append.1 hc with hc | hc
  · obtain ⟨file', hmem, hplace⟩ := htouch c hc ht
    exact hafter file' hmem hplace
  · rcases List.mem_cons.1 hc with rfl | hc
    · exact hsidecar ht
    · rcases List.mem_cons.1 hc with rfl | hc
      · exact ht
      · exact hreport (touches_reportChanges hc ht)

/-- A page that has its place to itself holds its text. -/
theorem find_page_of_lookup (h : Names config sidecar report)
    (hok : (b.applied d library out format config).failure = none)
    (hkeys : (b.files.map (·.1)).Nodup) {text : String} (hfile : b.files.lookup page = some text)
    (hsidecar : (out.child sidecar).place ≠ (out.child page).place)
    (hreport : (out.child report).place ≠ (out.child page).place)
    (hplace : ∀ file ∈ b.files,
      (out.child file.1).place = (out.child page).place → file.1 = page) :
    (b.applied d library out format config).disk.find (out.child page) =
      .ok (.file (Text.Utf8.encode text)) := by
  have hperm : (b.files.mergeSort fun a b => Text.le a.1 b.1).Perm b.files :=
    List.mergeSort_perm _ _
  have hmem := hperm.mem_iff.2 ((lookup_eq_some_iff_mem hkeys).1 hfile)
  obtain ⟨before, after, hsort⟩ := List.append_of_mem hmem
  have hfind := find_page h hok hsort hsidecar hreport
  refine hfind fun file hfile he => ?_
  have hin : file ∈ b.files := by
    rw [← hperm.mem_iff, hsort]
    exact List.mem_append_right _ (List.mem_cons_of_mem _ hfile)
  have hnodup := nodup_keys_sorted hkeys
  rw [hsort, List.map_append, List.map_cons, List.nodup_append, List.nodup_cons] at hnodup
  have hkey : file.1 ∈ after.map (·.1) := List.mem_map_of_mem hfile
  rw [hplace file hin he] at hkey
  exact hnodup.2.1.1 hkey

/-- At the place of a page stands the last page, in the order of names, that leads there. -/
theorem find_last_page (h : BesidePages config sidecar report)
    (hok : (b.applied d library out format config).failure = none)
    (hpage : IsPageIn out page) (hmem : page ∈ b.files.map (·.1)) :
    ∃ file ∈ b.files, (out.child file.1).place = (out.child page).place ∧
      (∀ file' ∈ b.files, (out.child file'.1).place = (out.child page).place →
        Text.le file'.1 file.1 = true) ∧
      (b.applied d library out format config).disk.find (out.child page) =
        .ok (.file (Text.Utf8.encode file.2)) := by
  have hperm : (b.files.mergeSort fun a b => Text.le a.1 b.1).Perm b.files :=
    List.mergeSort_perm _ _
  have hsorted := pairwise_sorted b.files
  obtain ⟨first, hfirst, rfl⟩ := List.mem_map.1 hmem
  have hin := hperm.mem_iff.2 hfirst
  have hsome : ∃ file ∈ b.files.mergeSort fun a b => Text.le a.1 b.1,
      (out.child file.1).place = (out.child first.1).place := ⟨first, hin, rfl⟩
  obtain ⟨before, file, after, hsort, hplace, hafter⟩ := exists_last hsome
  rw [hsort] at hperm hsorted
  refine ⟨file, hperm.mem_iff.1 (by simp), hplace, fun file' hfile' he => ?_, ?_⟩
  · rcases List.mem_append.1 (hperm.mem_iff.2 hfile') with hin | hin
    · exact (List.pairwise_append.1 hsorted).2.2 file' hin file List.mem_cons_self
    · rcases List.mem_cons.1 hin with rfl | hin
      · exact Text.le_refl _
      · exact absurd he (hafter file' hin)
  · have hpage' : IsPageIn out file.1 := by
      obtain ⟨place, s, hs⟩ := hpage
      exact ⟨place, s, hplace.trans hs⟩
    have hfind := find_page h.named hok hsort (h.sidecar_place_ne hpage') (h.report_place_ne hpage')
    have hfound := hfind fun file' hfile' he => hafter file' hfile' (he.trans hplace)
    have hwritten : Change.write (out.child first.1) first.2 ∈
        b.changes library out format config := by
      rw [changes_eq h.named]
      exact List.mem_append_left _ (List.mem_append_left _ (write_mem_fileChanges out hfirst))
    refine Disk.find_eq_file.2 ⟨walk_of_write hok hwritten, ?_⟩
    rw [← hplace]
    exact (Disk.find_eq_file.1 hfound).2

/-- A failure among changes ends them. -/
theorem failure_ne_none_of_fail_mem {f : Failure} {cs : List Change} (h : .fail f ∈ cs) :
    (applyAll d cs).failure ≠ none := by
  induction cs generalizing d with
  | nil => cases h
  | cons c cs ih =>
    rcases ha : c.apply d with ⟨d', f' | ns⟩
    · rw [applyAll_cons_error ha]
      simp
    · rw [applyAll_cons_ok ha]
      rcases List.mem_cons.1 h with rfl | h
      · cases ha
      · exact ih h

/-- When all changes of a build are made, the configuration names the files of the sidecar and of
the report. -/
theorem exists_names (hok : (b.applied d library out format config).failure = none) :
    ∃ sidecar report, Names config sidecar report := by
  have hnone : ∀ f, .fail f ∉ b.changes library out format config := fun f hf =>
    failure_ne_none_of_fail_mem hf hok
  rw [Built.changes] at hnone
  cases houtput : config.member "output" with
  | error f => simp [houtput] at hnone
  | ok output =>
    simp only [houtput, List.mem_append, not_or] at hnone
    have hpath {key : String} {changes : Path → List Change}
        (h : ∀ f, .fail f ∉ changesAt (do configuredPath out (← output.member key)) changes) :
        ∃ name, output.member key = .ok (.str name) ∧ ∀ f, .fail f ∉ changes (out.child name) := by
      cases hmember : output.member key with
      | error f => simp [hmember, changesAt, bind, Except.bind] at h
      | ok v =>
        rw [hmember] at h
        cases v with
        | str name => exact ⟨name, rfl, h⟩
        | _ => exact absurd List.mem_cons_self (h _)
    obtain ⟨sidecar, hsidecar, hrest⟩ := hpath fun f => (hnone f).2
    obtain ⟨report, hreport, -⟩ := hpath fun f hf => hrest f (List.mem_append_right _ hf)
    exact ⟨sidecar, report, output, houtput, hsidecar, hreport⟩

/-- The sidecar is found where it was written. -/
theorem find_sidecar (h : Names config sidecar report)
    (hne : (out.child sidecar).place ≠ (out.child report).place)
    (hok : (b.applied d library out format config).failure = none) :
    (b.applied d library out format config).disk.find (out.child sidecar) =
      .ok (.file (Text.Utf8.encode (b.sidecar library format).text)) := by
  rw [Built.applied, changes_eq h, List.append_assoc, List.cons_append] at hok ⊢
  refine find_of_write hok fun c hc ht => ?_
  rcases List.mem_cons.1 hc with rfl | hc
  · exact ht
  · exact hne (touches_reportChanges hc ht).symm

theorem isTextual_sidecar (hkeys : (b.itemMap.map (·.1)).Nodup) :
    (b.sidecar library format).IsTextual where
  declared := trivial
  canonical := trivial
  itemMap := by
    intro m hm
    obtain ⟨m', -, rfl⟩ := List.mem_map.1 hm
    trivial
  keys := by simpa [Built.sidecar, Function.comp_def] using hkeys
  format := trivial
  digest := trivial

/-- The sidecar is loaded from where it was written. -/
theorem load_sidecar (h : Names config sidecar report)
    (hne : (out.child sidecar).place ≠ (out.child report).place)
    (hok : (b.applied d library out format config).failure = none)
    (hkeys : (b.itemMap.map (·.1)).Nodup) :
    Sidecar.load (b.applied d library out format config).disk (out.child sidecar) =
      .ok (b.sidecar library format).sorted :=
  Sidecar.load_of_find (isTextual_sidecar hkeys) (find_sidecar h hne hok)

/-- The page of a path in the sidecar that is loaded. -/
theorem lookup_sidecar_sorted (hkeys : (b.itemMap.map (·.1)).Nodup) (k : String) :
    (b.sidecar library format).sorted.itemMap.lookup k = (b.itemMap.lookup k).map .str := by
  have hkeys' : ((b.sidecar library format).itemMap.map (·.1)).Nodup := by
    simpa [Built.sidecar, Function.comp_def] using hkeys
  rw [Sidecar.sorted, lookup_sorted hkeys', Built.sidecar]
  dsimp only
  induction b.itemMap with
  | nil => rfl
  | cons m l ih =>
    rw [List.map_cons, List.lookup_cons, List.lookup_cons, ih]
    split <;> rfl

/-- A report on failures is found where it was written. -/
theorem find_report (h : Names config sidecar report)
    (hok : (b.applied d library out format config).failure = none)
    (hr : b.report.isComplete = false) :
    (b.applied d library out format config).disk.find (out.child report) =
      .ok (.file (Text.Utf8.encode b.report.text)) := by
  rw [Built.applied, changes_eq h, reportChanges, hr, if_neg Bool.false_ne_true] at hok ⊢
  refine find_of_write hok fun c hc ht => ?_
  rw [List.mem_singleton.1 hc] at ht
  exact ht

/-- No report is left when there are no failures. -/
theorem has_report (h : Names config sidecar report)
    (hok : (b.applied d library out format config).failure = none)
    (hr : b.report.isComplete = true) :
    (b.applied d library out format config).disk.has (out.child report) = .ok false := by
  rw [Built.applied, changes_eq h, reportChanges, hr, if_pos rfl] at hok ⊢
  obtain ⟨hdisk, hfailure⟩ := applyAll_append [.remove (out.child report)]
    (failure_of_append hok)
  rw [hfailure] at hok
  rw [hdisk]
  generalize (applyAll d _).disk = d' at hok ⊢
  rcases ha : (Change.remove (out.child report)).apply d' with ⟨d'', f | ns⟩
  · rw [applyAll_cons_error ha] at hok
    cases hok
  · rw [applyAll_cons_ok ha]
    obtain ⟨_, hremove, happly⟩ | ⟨_, _, happly⟩ := apply_remove_cases d' (out.child report) <;>
      rw [happly] at ha <;> cases ha
    exact Disk.has_remove hremove

/-- What can go wrong when a build is saved although every file can be written: a path has a null
character, or the report of an earlier build can be neither looked up nor removed. -/
inductive SavingEnds (out : Path) (sidecar report : String) (d : Disk) : Fault → Prop
  | null (h : ∃ p ∈ [out, Path.ofString sidecar, Path.ofString report], p.hasNull = true) :
    SavingEnds out sidecar report d .nullInPath
  | tooLong (h : ¬Disk.Takes (out.child report)) :
    SavingEnds out sidecar report d (.nameTooLong (out.child report).toString)
  | directory (h : d.find (out.child report) = .ok .directory) :
    SavingEnds out sidecar report d (.isDirectory (out.child report).toString)

/-- No failure stands among the changes of a build that names its files. -/
theorem fail_not_mem_changes (h : Names config sidecar report) (f : Failure) :
    .fail f ∉ b.changes library out format config := by
  intro hfail
  rcases mem_changes h hfail with ⟨_, _, -, hc⟩ | hc | ⟨_, hc⟩ <;> cases hc

theorem eq_of_remove_mem_changes (h : Names config sidecar report)
    (hremove : .remove p ∈ b.changes library out format config) : p = out.child report := by
  rcases mem_changes h hremove with ⟨_, _, -, hc⟩ | hc | ⟨_, hc⟩
  · cases hc
  · exact Change.remove.inj hc
  · cases hc

/-- What can fail when a build is saved is a write, or else what `SavingEnds` says. -/
theorem failure_cases (h : Names config sidecar report)
    (hpages : ∀ page ∈ b.files.map (·.1), (Path.ofString page).hasNull = false) {f : Failure}
    (hf : (b.applied d library out format config).failure = some f) :
    (∃ p reason, f = .problem (.writeFailed p reason)) ∨
      ∃ fault, f = .fault fault ∧
        SavingEnds out sidecar report (b.applied d library out format config).disk fault := by
  obtain ⟨done, c, rest, hsplit, -, hfails, happly⟩ := exists_failsWith hf
  have hmem : c ∈ b.changes library out format config := by simp [hsplit]
  cases hfails with
  | write p t =>
    rcases Disk.writeFailure_cases (applyAll d done).disk p with hwrite | ⟨hnull, hwrite⟩
    · exact .inl ⟨_, _, hwrite⟩
    refine .inr ⟨_, hwrite, .null ?_⟩
    rcases mem_changes h hmem with ⟨name, _, hname, hc⟩ | hc | ⟨_, hc⟩
    · obtain rfl := (Change.write.inj hc).1
      rcases Path.hasNull_child hnull with hout | hin
      · exact ⟨_, by simp, hout⟩
      rcases hname with hpage | rfl | rfl
      · rw [hpages name hpage] at hin
        cases hin
      · exact ⟨_, by simp, hin⟩
      · exact ⟨_, by simp, hin⟩
    · cases hc
    · cases hc
  | fail => exact absurd hmem (fail_not_mem_changes h f)
  | tooLong hfind =>
    obtain rfl := eq_of_remove_mem_changes h hmem
    exact .inr ⟨_, rfl, .tooLong fun htaken => htaken.find_ne_tooLong hfind⟩
  | directory hfind =>
    obtain rfl := eq_of_remove_mem_changes h hmem
    exact .inr ⟨_, rfl, .directory ((find_of_remove_error happly _).trans hfind)⟩

/-- Nothing makes the place of the report a directory: it is none, and what is written does not lead
through it. -/
structure IsClear (d : Disk) (out : Path) (report : String) (pages : List String) : Prop where
  place : d.entry? (out.child report).place ≠ some .directory
  way : (out.child report).place ∉ Disk.visited (Disk.start out) out.parts
  pages : ∀ page ∈ pages, report ∉ (Path.ofString page).parts.dropLast

/-- Where the place of the report is clear, no directory is in it when a build has been saved. -/
theorem IsClear.not_directory (hclear : IsClear d out report (b.files.map (·.1)))
    (h : BesidePages config sidecar report) :
    (b.applied d library out format config).disk.find (out.child report) ≠ .ok .directory := by
  intro hfind
  -- The directory was one before, or a change has made it on its way.
  rcases directory_applyAll (Disk.find_directory hfind) with hdir | ⟨c, hc, hvisited⟩
  · exact hclear.place hdir
  · rcases mem_changes h.named hc with ⟨s, t, hs, rfl⟩ | rfl | ⟨_, rfl⟩
    · refine Path.place_not_mem_visited h.report_plain hclear.way ?_ hvisited
      rcases hs with hs | rfl | rfl
      · exact hclear.pages s hs
      · rw [Path.ofString_name h.sidecar_plain.1]
        exact List.not_mem_nil
      · rw [Path.ofString_name h.report_plain.1]
        exact List.not_mem_nil
    · cases hvisited
    · cases hvisited

end CrateBook.Corpus
