import CrateBook.Proofs.Browse.Current
import CrateBook.Proofs.Build.Stopping
import CrateBook.Proofs.Corpus.Reported

/-!
# Histories of builds

Below one directory builds are run one after another, each for a library and with a configuration of
its own, and the system may stop each of them at any write. What a file holds in the end is what was
last written there (`History.file?_of_some`). A sidecar that can be loaded was written by one of the
builds, after all of its pages, and no later one has come to write its own (`History.recorded`).
-/

namespace CrateBook.Build

open Corpus (Built Change Names Reaches Report Sidecar lastText writes)
open Text.Utf8 (encode)

/-- A build that was run: from what, for which library, with which configuration, what it decided on
and which changes have been made, all of them or the first ones. -/
structure Attempt where
  source : Source
  library : LibraryName
  config : Json
  built : Built
  made : List Change

/-- A configuration names a file of each directory for the sidecar. -/
def NamesSidecar (config : Json) : Prop :=
  ∃ sidecar report, Names config sidecar report ∧ Path.IsPlain sidecar

namespace Attempt

/-- The changes that the build decided on, for the directory of its library. -/
def changes (a : Attempt) (root : Path) : List Change :=
  a.built.changes a.library (root.child a.library.canonical) a.source.format a.config

def record (a : Attempt) : Sidecar := a.built.sidecar a.library a.source.format

/-- The name of the page that the build has made for an item, or for the library itself. -/
def page? (a : Attempt) (path : ItemPath) : Option String :=
  if path.item?.isNone then some Corpus.Resolver.overviewName
  else a.built.itemMap.lookup (path.qualified a.library.canonical)

/-- The build is run on one disk and leaves the other one. -/
structure Runs (a : Attempt) (root : Path) (d d' : Disk) : Prop where
  library : Path.IsPlain a.library.canonical
  config : NamesSidecar a.config
  decides : a.source.Decides d a.library a.config a.built
  reaches : ∃ o, Reaches d (a.changes root) a.made o d'

end Attempt

/-- What has been written by builds, in this order. -/
def writesOf (as : List Attempt) : List (Path × String) := as.flatMap fun a => writes a.made

/-- Builds are run below the directory, one after another, from the first disk to the last one. What
else happens between them changes no file at a place that is kept. -/
inductive History (root : Path) (kept : List String → Prop) (d₀ : Disk) :
    List Attempt → Disk → Prop
  | start : History root kept d₀ [] d₀
  | elsewhere {as : List Attempt} {d d' : Disk} (h : History root kept d₀ as d)
      (hkept : ∀ r, kept r → d'.file? r = d.file? r) : History root kept d₀ as d'
  | attempt {as : List Attempt} {a : Attempt} {d d' : Disk} (h : History root kept d₀ as d)
      (ha : a.Runs root d d') : History root kept d₀ (as ++ [a]) d'

variable {root p : Path} {kept : List String → Prop} {d₀ d d' : Disk} {as : List Attempt}
  {a : Attempt} {r : List String} {t name sidecar : String} {path : ItemPath}

/-! ## Pages of one build -/

theorem Source.Decides.nodup_files {s : Source} {library : LibraryName} {config : Json} {b : Built}
    (h : s.Decides d library config b) : (b.files.map (·.1)).Nodup := by
  obtain ⟨overview, listing, os, rfl, -⟩ := h.builtFrom
  exact nodup_files_builtFrom

theorem Source.Decides.digest {s : Source} {library : LibraryName} {config : Json} {b : Built}
    (h : s.Decides d library config b) : b.report.digest = Config.digest config := by
  obtain ⟨overview, listing, os, rfl, -⟩ := h.builtFrom
  exact Browse.digest_addAll

namespace Attempt.Runs

/-- The page that the build has made for an item has a text. -/
theorem exists_text (h : a.Runs root d d') (hpage : a.page? path = some name) :
    ∃ text, a.built.files.lookup name = some text := by
  have hin : name ∈ a.built.files.map (·.1) := by
    rw [page?] at hpage
    split at hpage
    · rw [← Option.some.inj hpage]
      exact h.decides.overview_mem
    · have hentry := (Json.lookup_eq_some_iff_mem h.decides.nodup_itemMap).1 hpage
      exact (h.decides.mem_itemMap hentry).2
  obtain ⟨file, hfile, rfl⟩ := List.mem_map.1 hin
  exact ⟨file.2, (Json.lookup_eq_some_iff_mem h.decides.nodup_files).2 hfile⟩

/-- What the build has written at the place of a sidecar is its own, if it is not a report, and all
pages have been written before. -/
theorem record_cases (h : a.Runs root d d') (hname : Path.IsPlain name)
    (hsidecar : Path.IsPlain sidecar) (hpage : ¬Corpus.IsPageIn (root.child name) sidecar)
    (hwritten : (p, t) ∈ writes a.made)
    (hplace : p.place = ((root.child name).child sidecar).place) :
    (a.library.canonical = name ∧ t = a.record.text ∨ t = a.built.report.text) ∧
      ∀ file ∈ a.built.files,
        .write ((root.child a.library.canonical).child file.1) file.2 ∈ a.made := by
  obtain ⟨sidecar', report, hnames, hplain⟩ := h.config
  obtain ⟨o, hreach⟩ := h.reaches
  obtain ⟨rest, hsplit⟩ := hreach.split
  rcases Corpus.write_cases hnames hsplit (Corpus.mem_writes.1 hwritten) with
    ⟨file, hfile, rfl, rfl⟩ | ⟨hbehind, hpages⟩
  · -- A page has the extension of one, also when its path leads to another directory.
    obtain ⟨place, s, hs⟩ :=
      h.decides.isPageIn (List.mem_map_of_mem hfile) (root.child a.library.canonical)
    exact absurd ⟨place, s, hplace.symm.trans hs⟩ hpage
  · refine ⟨?_, hpages⟩
    rcases hbehind with ⟨rfl, rfl⟩ | ⟨rfl, rfl⟩
    · rw [Path.place_child_name hplain, Path.place_child_name h.library,
        Path.place_child_name hsidecar, Path.place_child_name hname] at hplace
      have hdirectory := List.append_inj_left' hplace rfl
      have hlast := List.append_cancel_left hdirectory
      exact .inl ⟨List.singleton_inj.1 hlast, rfl⟩
    · exact .inr rfl

end Attempt.Runs

/-! ## What was written last -/

theorem writesOf_append (as bs : List Attempt) : writesOf (as ++ bs) = writesOf as ++ writesOf bs :=
  List.flatMap_append

theorem writesOf_cons (a : Attempt) (as : List Attempt) :
    writesOf (a :: as) = writes a.made ++ writesOf as :=
  List.flatMap_cons

theorem lastText_writesOf_eq_none (h : ∀ a ∈ as, lastText r (writes a.made) = none) :
    lastText r (writesOf as) = none := by
  induction as with
  | nil => rfl
  | cons a as ih =>
    obtain ⟨ha, hrest⟩ := List.forall_mem_cons.1 h
    rw [writesOf_cons, Corpus.lastText_append, ih hrest, ha]
    rfl

/-- Of builds that have written at a place, one was the last. -/
theorem exists_last_writer (h : lastText r (writesOf as) = some t) :
    ∃ before a after, as = before ++ a :: after ∧ lastText r (writes a.made) = some t ∧
      ∀ b ∈ after, lastText r (writes b.made) = none := by
  have hsome : ∃ a ∈ as, lastText r (writes a.made) ≠ none := by
    by_contra hnone
    push Not at hnone
    rw [lastText_writesOf_eq_none hnone] at h
    cases h
  obtain ⟨before, a, after, rfl, ha, hafter⟩ := Corpus.exists_last hsome
  have hafter : ∀ b ∈ after, lastText r (writes b.made) = none :=
    fun b hb => not_not.1 (hafter b hb)
  obtain ⟨t', ht'⟩ := Option.ne_none_iff_exists'.1 ha
  rw [writesOf_append, writesOf_cons, Corpus.lastText_append, Corpus.lastText_append,
    lastText_writesOf_eq_none hafter, ht'] at h
  obtain rfl := Option.some.inj h
  exact ⟨before, a, after, rfl, ht', hafter⟩

namespace History

theorem exists_runs (h : History root kept d₀ as d) (ha : a ∈ as) : ∃ d₁ d₂, a.Runs root d₁ d₂ := by
  induction h with
  | start => cases ha
  | elsewhere _ _ ih => exact ih ha
  | attempt _ hlast ih =>
    rcases List.mem_append.1 ha with ha | ha
    · exact ih ha
    · rw [List.mem_singleton.1 ha]
      exact ⟨_, _, hlast⟩

/-- A file at a kept place holds what was last written there, or it was there from the start. -/
theorem file?_of_some (h : History root kept d₀ as d) (hr : kept r) {bytes : ByteArray}
    (hfile : d.file? r = some bytes) :
    (∃ t, lastText r (writesOf as) = some t ∧ bytes = encode t) ∨
      lastText r (writesOf as) = none ∧ d₀.file? r = some bytes := by
  induction h with
  | start => exact .inr ⟨rfl, hfile⟩
  | elsewhere _ hkept ih => exact ih ((hkept r hr).symm.trans hfile)
  | @attempt as a d d' _ ha ih =>
    have hsplit : writesOf (as ++ [a]) = writesOf as ++ writes a.made := by
      rw [writesOf_append, writesOf_cons, show writesOf [] = [] from rfl, List.append_nil]
    rw [hsplit, Corpus.lastText_append]
    obtain ⟨o, hreach⟩ := ha.reaches
    rcases hreach.file?_of_some hfile with ⟨t, ht, hbytes⟩ | ⟨hnone, hbefore⟩
    · rw [ht]
      exact .inl ⟨t, rfl, hbytes⟩
    · rw [hnone]
      exact ih hbefore

/-- A sidecar that is loaded is that of one of the builds, which has written it after its pages, and
no later build has written anything in its place. -/
theorem recorded (h : History root kept d₀ as d) (hname : Path.IsPlain name)
    (hsidecar : Path.IsPlain sidecar) (hpage : ¬Corpus.IsPageIn (root.child name) sidecar)
    (hkept : kept ((root.child name).child sidecar).place)
    (hstart : d₀.file? ((root.child name).child sidecar).place = none) {s : Sidecar}
    (hload : Sidecar.load d ((root.child name).child sidecar) = .ok s) :
    ∃ before a after, as = before ++ a :: after ∧ a.library.canonical = name ∧ s = a.record.sorted ∧
      lastText ((root.child name).child sidecar).place (writes a.made) = some a.record.text ∧
      (∀ file ∈ a.built.files,
        .write ((root.child a.library.canonical).child file.1) file.2 ∈ a.made) ∧
      ∀ b ∈ after, lastText ((root.child name).child sidecar).place (writes b.made) = none := by
  obtain ⟨bytes, hfind⟩ := Browse.find_of_load hload
  have hbytes := (Disk.find_eq_file.1 hfind).2
  rcases h.file?_of_some hkept hbytes with ⟨t, ht, rfl⟩ | ⟨-, hbefore⟩
  · obtain ⟨before, a, after, rfl, hlast, hafter⟩ := exists_last_writer ht
    obtain ⟨d₁, d₂, ha⟩ := h.exists_runs (a := a) (by simp)
    obtain ⟨p, hp, hplace⟩ := Corpus.mem_of_lastText hlast
    obtain ⟨hrecord, hpages⟩ := ha.record_cases hname hsidecar hpage hp hplace
    rcases hrecord with ⟨hlibrary, rfl⟩ | rfl
    · have htextual : a.record.IsTextual := Corpus.isTextual_sidecar ha.decides.nodup_itemMap
      have hsaved := Sidecar.load_of_find htextual hfind
      exact ⟨before, a, after, rfl, hlibrary, Except.ok.inj (hload.symm.trans hsaved), hlast,
        hpages, hafter⟩
    · -- The report of another build may stand there, but it is not loaded.
      exact absurd hload (Report.load_report hfind s)
  · rw [hstart] at hbefore
    cases hbefore

end History

end CrateBook.Build
