import CrateBook.Browse
import CrateBook.Proofs.Build.Dump
import CrateBook.Proofs.Build.Pages
import CrateBook.Proofs.Path.Siblings

/-!
# Sidecars that stay current

The sidecar of a library is current when it was written with the configuration at hand. A build of
any library with that configuration leaves it so, whether the build ends well or not: the pages and
reports of a build have other places, and what a build writes at the place of the sidecar is a
current one (`holdsCurrent_changes`).
-/

namespace CrateBook.Browse

open Corpus (Built Change Names Sidecar)

variable {d d' : Disk} {p : Path} {config : Json} {s : Sidecar} {c : Change} {cs : List Change}

/-! ## Loading from a changed disk -/

theorem read_of_load (h : Sidecar.load d p = .ok s) :
    ∃ text, d.read p = .ok text ∧ Sidecar.ofText text = .ok s := by
  rw [Sidecar.load] at h
  cases hread : d.read p with
  | error f =>
    rw [hread] at h
    cases h
  | ok text =>
    rw [hread] at h
    simp only [bind, Except.bind] at h
    cases htext : Sidecar.ofText text with
    | error f =>
      rw [htext] at h
      cases h
    | ok s' =>
      rw [htext] at h
      obtain rfl : s' = s := Except.ok.inj h
      exact ⟨text, rfl, htext⟩

theorem find_of_load (h : Sidecar.load d p = .ok s) : ∃ bytes, d.find p = .ok (.file bytes) := by
  obtain ⟨text, hread, -⟩ := read_of_load h
  obtain ⟨bytes, t, hfind, -⟩ := Disk.find_of_read hread
  exact ⟨bytes, hfind⟩

/-- A sidecar is loaded from wherever the same file is found. -/
theorem load_eq_of_find {e : Entry} (hfind : d.find p = .ok e) (hfind' : d'.find p = .ok e) :
    Sidecar.load d' p = Sidecar.load d p := by
  rw [Sidecar.load, Sidecar.load, Disk.read, Disk.read, hfind, hfind']

theorem load_of_keeps (hkeeps : d.KeepsDirectories d')
    (hfile : d'.file? p.place = d.file? p.place) (h : Sidecar.load d p = .ok s) :
    Sidecar.load d' p = .ok s := by
  obtain ⟨bytes, hfind⟩ := find_of_load h
  obtain ⟨hwalk, hbytes⟩ := Disk.find_eq_file.1 hfind
  have hfind' : d'.find p = .ok (.file bytes) :=
    Disk.find_eq_file.2 ⟨hkeeps.walk hwalk, hfile.trans hbytes⟩
  rw [load_eq_of_find hfind hfind', h]

/-! ## Current sidecars -/

/-- The sidecar at the path was written with the configuration. -/
def HoldsCurrent (config : Json) (d : Disk) (p : Path) : Prop :=
  ∃ s, Sidecar.load d p = .ok s ∧ isCurrent s config = true

/-- The change writes a sidecar with the digest of the configuration. -/
def WritesCurrent (config : Json) (c : Change) : Prop :=
  ∃ q s, c = .write q s.text ∧ s.IsTextual ∧ isCurrent s config = true

theorem HoldsCurrent.keeps (h : HoldsCurrent config d p) (hkeeps : d.KeepsDirectories d')
    (hfile : d'.file? p.place = d.file? p.place) : HoldsCurrent config d' p := by
  obtain ⟨s, hs, hcurrent⟩ := h
  exact ⟨s, load_of_keeps hkeeps hfile hs, hcurrent⟩

theorem HoldsCurrent.apply (h : HoldsCurrent config d p)
    (hc : c.Touches p.place → WritesCurrent config c) : HoldsCurrent config (c.apply d).1 p := by
  by_cases ht : c.Touches p.place
  · obtain ⟨q, s, rfl, htextual, hcurrent⟩ := hc ht
    have hq : q.place = p.place := ht
    rw [Corpus.apply_write]
    dsimp only
    have hkeeps := Disk.keeps_writeBytes d q (Text.Utf8.encode s.text)
    have hfile := Disk.file?_writeBytes d q (Text.Utf8.encode s.text) p.place
    cases hw : (d.writeBytes q (Text.Utf8.encode s.text)).2 with
    | false =>
      rw [hw, if_neg (by simp)] at hfile
      exact h.keeps hkeeps hfile
    | true =>
      rw [hw, if_pos ⟨rfl, hq⟩] at hfile
      obtain ⟨s', hs', -⟩ := h
      obtain ⟨bytes, hfind⟩ := find_of_load hs'
      have hwalk := hkeeps.walk (Disk.find_eq_file.1 hfind).1
      exact ⟨s.sorted, Sidecar.load_of_find htextual (Disk.find_eq_file.2 ⟨hwalk, hfile⟩), hcurrent⟩
  · exact h.keeps (Corpus.keeps_apply d c) (Corpus.file?_apply ht)

theorem HoldsCurrent.applyAll (h : HoldsCurrent config d p)
    (hcs : ∀ c ∈ cs, c.Touches p.place → WritesCurrent config c) :
    HoldsCurrent config (Corpus.applyAll d cs).disk p := by
  apply Corpus.applyAll_keeps (P := fun d => HoldsCurrent config d p)
  · intro c hc d hd
    exact hd.apply (hcs c hc)
  · exact h

/-- Writing files elsewhere keeps a sidecar current. -/
theorem HoldsCurrent.writeBytes {q : Path} (h : HoldsCurrent config d p) (hq : q.place ≠ p.place)
    (bytes : ByteArray) : HoldsCurrent config (d.writeBytes q bytes).1 p := by
  refine h.keeps (Disk.keeps_writeBytes d q bytes) ?_
  rw [Disk.file?_writeBytes, if_neg fun hw => hq hw.2]

/-! ## What builds write -/

/-- The report has the digest of the configuration, no path has two pages in the item map, and every
page is written to a file with the extension of one. -/
structure IsSound (config : Json) (b : Built) : Prop where
  digest : b.report.digest = Config.digest config
  keys : (b.itemMap.map (·.1)).Nodup
  pages : ∀ out, ∀ page ∈ b.files.map (·.1), Corpus.IsPageIn out page

section

variable {library : LibraryName} {overview listing : String} {os : List Build.Outcome} {b : Built}

theorem digest_addAll : (Build.Outcome.addAll b os).report.digest = b.report.digest := by
  induction os generalizing b with
  | nil => rfl
  | cons o os ih =>
    refine (ih (b := o.add b)).trans ?_
    cases o <;> rfl

theorem isSound_builtFrom
    (h : ∀ e ∈ Build.pages os, ∀ out, Corpus.IsPageIn out e.2.1) :
    IsSound config (Build.builtFrom library config overview listing os) where
  digest := digest_addAll
  keys := Build.nodup_itemMap_builtFrom
  pages out page hpage := by
    rcases Build.mem_keys_files.1 hpage with ⟨e, he, rfl⟩ | rfl | rfl
    · exact h e he out
    · exact Corpus.isPageIn_append_md out "index" (by decide)
    · exact Corpus.isPageIn_append_md out "all" (by decide)

variable {docs dump : Path} {ns ns' : List Notice} {built : Built}

theorem isSound_of_run_fromPages
    (h : (Build.fromPages d library docs config).run ns = (.ok built, ns')) :
    IsSound config built := by
  obtain ⟨skip, index, page, all, -, rfl⟩ := Build.of_run_fromPages h
  refine isSound_builtFrom fun e he out => ?_
  obtain ⟨entry, -, -, hpath, -⟩ := Build.mem_pages_entries.1 he
  exact Listing.place_child_markdownPath out hpath

theorem isSound_of_run_fromDump
    (h : (Build.fromDump d library dump config).run ns = (.ok built, ns')) :
    IsSound config built := by
  obtain ⟨crate, items, overview, listing, -, -, -, rfl⟩ := Build.of_run_fromDump h
  refine isSound_builtFrom fun e he out => ?_
  obtain ⟨item, -, text, -, rfl⟩ := Build.mem_pages_items.1 he
  exact Corpus.isPageIn_pageName out _

/-! ## Sidecars among builds -/

/-- In the directory of every library, the sidecar has another place than the report, and its name
has not the extension of a page. -/
structure SetApart (config : Json) (root : Path) (sidecar report : String) : Prop where
  named : Names config sidecar report
  report : ∀ l, Path.IsPlain l →
    ((root.child l).child sidecar).place ≠ ((root.child l).child report).place
  page : ∀ l, Path.IsPlain l → ¬Corpus.IsPageIn (root.child l) sidecar

variable {root : Path} {sidecar report name : String} {format : String}

/-- Plain names of which neither is the other one or that of a page set a sidecar apart. -/
theorem SetApart.of_besidePages (h : Corpus.BesidePages config sidecar report) (root : Path) :
    SetApart config root sidecar report where
  named := h.named
  report l _ := h.place_ne (root.child l)
  page _ _ hpage := h.sidecar_place_ne hpage rfl

/-- A build of one library writes at the place of the sidecar of another one at most a sidecar. -/
theorem writesCurrent_changes (h : SetApart config root sidecar report) (hb : IsSound config b)
    (hlibrary : Path.IsPlain library.canonical) (hname : Path.IsPlain name)
    (hc : c ∈ b.changes library (root.child library.canonical) format config)
    (ht : c.Touches ((root.child name).child sidecar).place) : WritesCurrent config c := by
  rw [Corpus.changes_eq h.named, List.append_assoc, List.mem_append, List.mem_append] at hc
  rcases hc with hpage | hsidecar | hreport
  · rcases Corpus.mem_fileChanges hpage with ⟨file, hfile, rfl⟩ | ⟨n, rfl⟩
    · obtain ⟨place, s, hplace⟩ :=
        hb.pages (root.child library.canonical) file.1 (List.mem_map_of_mem hfile)
      exact absurd ⟨place, s, Eq.trans ht.symm hplace⟩ (h.page name hname)
    · exact ht.elim
  · rcases List.mem_cons.1 hsidecar with rfl | hsidecar
    · refine ⟨_, _, rfl, Corpus.isTextual_sidecar hb.keys, ?_⟩
      rw [isCurrent, Built.sidecar, hb.digest]
      exact beq_self_eq_true _
    · rw [List.mem_singleton.1 hsidecar] at ht
      exact ht.elim
  · have hplace := Corpus.touches_reportChanges hreport ht
    exact absurd hplace.symm (Path.place_siblings_ne h.report hname hlibrary)

/-- A build of any library keeps the sidecar of every library current. -/
theorem holdsCurrent_changes (h : SetApart config root sidecar report) (hb : IsSound config b)
    (hlibrary : Path.IsPlain library.canonical) (hname : Path.IsPlain name)
    (hcurrent : HoldsCurrent config d ((root.child name).child sidecar)) :
    HoldsCurrent config (b.applied d library (root.child library.canonical) format config).disk
      ((root.child name).child sidecar) :=
  hcurrent.applyAll fun _ hc ht => writesCurrent_changes h hb hlibrary hname hc ht

end

end CrateBook.Browse
