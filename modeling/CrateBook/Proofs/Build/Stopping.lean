import CrateBook.Proofs.Build.Dump
import CrateBook.Proofs.Build.Pages
import CrateBook.Proofs.Corpus.Stopping

/-!
# Builds that stop

A build reads pages or a dump and decides on its changes before it makes the first one. It may fail
on the way there, and then the disk is as it was; or it stops at one of the changes, which the
system may refuse. `Source.Ends` says how a build can end and what it leaves, and the run of a build
is one of its cases (`Source.ends_run`).
-/

namespace CrateBook.Build

open Corpus (Built Names Reaches Report lastText)
open Text.Utf8 (encode)

/-- What a library is built from: the pages in a directory, or a dump. -/
inductive Source where
  | pages (docs : Path)
  | dump (path : Path)

namespace Source

def format : Source → String
  | pages _ => "html"
  | dump _ => "json"

def built (d : Disk) (library : LibraryName) (config : Json) : Source → Reported Built
  | pages docs => fromPages d library docs config
  | dump path => fromDump d library path config

/-- Builds the corpus of a library in the directory `out`. -/
def build (library : LibraryName) (out : Path) (config : Json) : Source → Work Report
  | pages docs => buildFromPages library docs out config
  | dump path => buildFromDump library path out config

/-- The build has decided on what to save. -/
def Decides (s : Source) (d : Disk) (library : LibraryName) (config : Json) (b : Built) : Prop :=
  ∃ ns, (s.built d library config).run [] = (.ok b, ns)

/-- The page is one that the source gives an item. -/
def Yields (d : Disk) : Source → String → Prop
  | pages docs, page => ∃ markup fragment, d.read (docs.child "all.html") = .ok markup ∧
      fragment ∈ Listing.fragmentsOf (Listing.links (Html.parse markup)) ∧
      Listing.markdownPath fragment = .ok page
  | dump _, page => ∃ itemPath, page = pageName itemPath

/-- A build ends in one of three ways: it fails before it has decided on its changes, all of them
are made, or it stops at one of them. -/
inductive Ends (s : Source) (library : LibraryName) (out : Path) (config : Json) (d : Disk) :
    Except Failure Report → Disk → Prop
  | undecided {f : Failure} {ns : List Notice}
      (h : (s.built d library config).run [] = (.error f, ns)) :
      Ends s library out config d (.error f) d
  | saved {b : Built} {d' : Disk} (h : s.Decides d library config b)
      (hreach : Reaches d (b.changes library out s.format config)
        (b.changes library out s.format config) none d') :
      Ends s library out config d (.ok b.report) d'
  | stopped {b : Built} {done : List Corpus.Change} {f : Failure} {d' : Disk}
      (h : s.Decides d library config b)
      (hreach : Reaches d (b.changes library out s.format config) done (some f) d') :
      Ends s library out config d (.error f) d'

variable {s : Source} {d d' : Disk} {library : LibraryName} {out : Path} {config : Json} {b : Built}
  {page : String} {w : Workspace} {f : Failure} {ns : List Notice}

/-! ## What is decided -/

theorem Yields.ends (h : s.Yields d page) : ∃ base, page = base ++ ".md" := by
  cases s with
  | pages docs =>
    obtain ⟨_, _, -, -, hpath⟩ := h
    exact Listing.markdownPath_ends hpath
  | dump path =>
    obtain ⟨itemPath, rfl⟩ := h
    obtain ⟨base, hbase, -⟩ := pageName_ends itemPath
    exact ⟨base, hbase⟩

theorem Yields.isPageIn (h : s.Yields d page) (out : Path) : Corpus.IsPageIn out page := by
  cases s with
  | pages docs =>
    obtain ⟨_, _, -, -, hpath⟩ := h
    exact Listing.place_child_markdownPath out hpath
  | dump path =>
    obtain ⟨itemPath, rfl⟩ := h
    exact Corpus.isPageIn_pageName out itemPath

/-- What is built is built from outcomes, whose pages are those that the source gives. -/
theorem Decides.builtFrom (h : s.Decides d library config b) : ∃ overview listing os,
    b = Build.builtFrom library config overview listing os ∧
      ∀ e ∈ Build.pages os, s.Yields d e.2.1 := by
  obtain ⟨ns, hrun⟩ := h
  cases s with
  | pages docs =>
    rw [built] at hrun
    obtain ⟨skip, index, page, all, hopen, rfl⟩ := of_run_fromPages hrun
    obtain ⟨markup, hread, hindex⟩ := hopen.index
    have hlisting := Listing.index_eq_ok.1 hindex
    obtain ⟨hleads, _, hentries⟩ := hlisting
    refine ⟨_, _, _, rfl, fun e he => ?_⟩
    obtain ⟨entry, hentry, -, hpath, -⟩ := mem_pages_entries.1 he
    have hin := (List.mergeSort_perm _ _).mem_iff.1 hentry
    rw [hentries] at hin
    exact ⟨markup, entry.2, hread, Listing.mem_fragmentsOf hleads hin, hpath⟩
  | dump path =>
    rw [built] at hrun
    obtain ⟨crate, items, overview, listing, -, -, -, rfl⟩ := of_run_fromDump hrun
    refine ⟨_, _, _, rfl, fun e he => ?_⟩
    obtain ⟨item, -, text, -, rfl⟩ := mem_pages_items.1 he
    exact ⟨_, rfl⟩

theorem Decides.unique {b' : Built} (h : s.Decides d library config b)
    (h' : s.Decides d library config b') : b = b' := by
  obtain ⟨ns, hrun⟩ := h
  obtain ⟨ns', hrun'⟩ := h'
  rw [hrun] at hrun'
  exact Except.ok.inj (Prod.mk.inj hrun').1

theorem Decides.mem_files (h : s.Decides d library config b) (hpage : page ∈ b.files.map (·.1)) :
    s.Yields d page ∨ page = Corpus.Resolver.overviewName ∨ page = Corpus.Resolver.listingName := by
  obtain ⟨overview, listing, os, rfl, hyields⟩ := h.builtFrom
  refine (mem_keys_files.1 hpage).imp_left ?_
  rintro ⟨e, he, rfl⟩
  exact hyields e he

theorem Decides.isPageIn (h : s.Decides d library config b) (hpage : page ∈ b.files.map (·.1))
    (out : Path) : Corpus.IsPageIn out page := by
  rcases h.mem_files hpage with hyields | rfl | rfl
  · exact hyields.isPageIn out
  · exact Corpus.isPageIn_append_md out "index" (by decide)
  · exact Corpus.isPageIn_append_md out "all" (by decide)

theorem Decides.not_hasNull (h : s.Decides d library config b) (hpage : page ∈ b.files.map (·.1)) :
    (Path.ofString page).hasNull = false := by
  obtain ⟨ns, hrun⟩ := h
  cases s with
  | pages docs =>
    rw [built] at hrun
    obtain ⟨_, _, _, _, -, rfl⟩ := of_run_fromPages hrun
    exact not_hasNull_builtPages hpage
  | dump path =>
    rw [built] at hrun
    obtain ⟨_, _, _, _, -, -, -, rfl⟩ := of_run_fromDump hrun
    exact not_hasNull_files hpage

theorem Decides.nodup_itemMap (h : s.Decides d library config b) :
    (b.itemMap.map (·.1)).Nodup := by
  obtain ⟨overview, listing, os, rfl, -⟩ := h.builtFrom
  exact nodup_itemMap_builtFrom

theorem Decides.mem_itemMap (h : s.Decides d library config b) {m : String × String}
    (hm : m ∈ b.itemMap) : s.Yields d m.2 ∧ m.2 ∈ b.files.map (·.1) := by
  have hnodup := h.nodup_itemMap
  obtain ⟨overview, listing, os, rfl, hyields⟩ := h.builtFrom
  have hlookup := (Json.lookup_eq_some_iff_mem hnodup).2 hm
  rw [itemMap_builtFrom] at hlookup
  rcases Json.mem_of_lookup_setMembers hlookup with hpage | ⟨-, hnil⟩
  · obtain ⟨e, he, heq⟩ := List.mem_map.1 hpage
    obtain ⟨-, hsnd⟩ := Prod.mk.inj heq
    rw [← hsnd]
    exact ⟨hyields e he, mem_keys_files.2 (.inl ⟨e, he, rfl⟩)⟩
  · cases hnil

theorem Decides.overview_mem (h : s.Decides d library config b) :
    Corpus.Resolver.overviewName ∈ b.files.map (·.1) := by
  obtain ⟨overview, listing, os, rfl, -⟩ := h.builtFrom
  exact mem_keys_files.2 (.inr (.inl rfl))

end Source

/-! ## What goes wrong before anything is written -/

/-- The failure is that a file could not be written. -/
def IsWriteFailure (f : Failure) : Prop := ∃ p reason, f = .problem (.writeFailed p reason)

/-- The failure comes of what is read: it is a fault, or a problem with the documentation. -/
def IsReadFailure : Failure → Prop
  | .fault _ => True
  | .problem (.elementNotFound ..) | .problem (.docsMissing ..) | .problem (.badPage ..) => True
  | _ => False

/-- The work fails in a certain way, if it fails. -/
def FailsOnly {α : Type} (P : Failure → Prop) (x : Reported α) : Prop :=
  ∀ ns f ns', x.run ns = (.error f, ns') → P f

namespace FailsOnly

variable {α β : Type} {P : Failure → Prop} {x : Reported α} {g : α → Reported β}

/-- What comes after a value may fail in ways that depend on how the value came about. -/
theorem bind_of_run (hx : FailsOnly P x)
    (hg : ∀ a ns ns', x.run ns = (.ok a, ns') → FailsOnly P (g a)) : FailsOnly P (x >>= g) := by
  intro ns f ns' h
  rcases hrun : x.run ns with ⟨f' | a, ns₁⟩
  · rw [run_bind_error hrun] at h
    cases h
    exact hx ns f _ hrun
  · rw [run_bind hrun] at h
    exact hg a ns ns₁ hrun ns₁ f ns' h

theorem bind (hx : FailsOnly P x) (hg : ∀ a, FailsOnly P (g a)) : FailsOnly P (x >>= g) :=
  hx.bind_of_run fun a _ _ _ => hg a

theorem pure (a : α) : FailsOnly P (pure a) := by
  intro ns f ns' h
  cases h

theorem report (n : Notice) : FailsOnly P (report n) := by
  intro ns f ns' h
  cases h

theorem throw {f : Failure} (hf : P f) : FailsOnly P (throw f : Reported α) := by
  intro ns f' ns' h
  cases h
  exact hf

theorem orFault {r : Except Fault α} (hr : ∀ f, r = .error f → P (.fault f)) :
    FailsOnly P (orFault r) := by
  cases r with
  | ok a => exact pure a
  | error f => exact throw (hr f rfl)

theorem orFailure {r : Except Failure α} (hr : ∀ f, r = .error f → P f) :
    FailsOnly P (orFailure r) := by
  cases r with
  | ok a => exact pure a
  | error f => exact throw (hr f rfl)

theorem orProblem {r : Except Problem α} (hr : ∀ p, r = .error p → P (.problem p)) :
    FailsOnly P (orProblem r) := by
  cases r with
  | ok a => exact pure a
  | error p => exact throw (hr p rfl)

end FailsOnly

theorem isReadFailure_of_convertPage {d : Disk} {skip : Page.SkipRules} {p : Path} {f : Failure}
    (h : convertPage d skip p = .error f) : IsReadFailure f := by
  cases f with
  | fault f => exact trivial
  | problem problem =>
    obtain ⟨cause, rfl⟩ := badPage_of_convertPage h
    exact trivial

theorem failsOnly_requirePage {P : Failure → Prop} (d : Disk) (library : LibraryName) (p : Path)
    (h : P (.problem (.docsMissing library.declared p.toString)))
    (hlook : ∀ f, d.has p = .error f → P (.fault f)) : FailsOnly P (requirePage d library p) := by
  refine (FailsOnly.orFault hlook).bind fun there => ?_
  cases there with
  | true => exact .pure ()
  | false => exact .throw h

theorem failsOnly_convertItems (d : Disk) (skip : Page.SkipRules) (docs : Path) (failFast : Bool)
    (entries : List (String × String)) (b : Built) :
    FailsOnly IsReadFailure (convertItems d skip docs failFast entries b) := by
  induction entries generalizing b with
  | nil => exact .pure b
  | cons entry rest ih =>
    obtain ⟨itemPath, fragment⟩ := entry
    rw [convertItems]
    split
    · exact (FailsOnly.orFault fun _ _ => trivial).bind fun page => ih _
    · exact .throw trivial
    · rename_i problem herror
      cases failFast with
      | true => exact .throw (isReadFailure_of_convertPage herror)
      | false => exact (FailsOnly.report _).bind fun _ => ih _

theorem failsOnly_writeItems (library : LibraryName) (crate : Rustdoc.Crate) (failFast : Bool)
    (items : List Rustdoc.Item) (b : Built) :
    FailsOnly IsReadFailure (writeItems library crate failFast items b) := by
  induction items generalizing b with
  | nil => exact .pure b
  | cons item rest ih =>
    rw [writeItems]
    dsimp only
    split
    · exact ih _
    · rename_i fault _
      cases failFast || !isOfItem fault with
      | true => exact .throw trivial
      | false => exact (FailsOnly.report _).bind fun _ => ih _

theorem failsOnly_fromPages (d : Disk) (library : LibraryName) (docs : Path) (config : Json) :
    FailsOnly IsReadFailure (fromPages d library docs config) := by
  refine (FailsOnly.orFault fun _ _ => trivial).bind fun skip =>
    (FailsOnly.orFault fun _ _ => trivial).bind fun failFast =>
    (failsOnly_requirePage _ _ _ trivial fun _ _ => trivial).bind fun _ =>
    (failsOnly_requirePage _ _ _ trivial fun _ _ => trivial).bind fun _ =>
    (FailsOnly.report _).bind fun _ => (FailsOnly.orFault fun _ _ => trivial).bind fun markup => ?_
  refine FailsOnly.bind ?_ fun _ => ?_
  · intro ns f ns' h
    rw [run_reportAll] at h
    cases h
  · refine (FailsOnly.orProblem fun p h => ?_).bind fun index => (FailsOnly.report _).bind fun _ =>
      (FailsOnly.orFailure fun _ h => isReadFailure_of_convertPage h).bind fun page =>
      (FailsOnly.orFailure fun _ h => isReadFailure_of_convertPage h).bind fun all =>
      failsOnly_convertItems _ _ _ _ _ _
    obtain ⟨_, _, _, rfl⟩ := Listing.elementNotFound_of_index h
    exact trivial

theorem failsOnly_fromDump (d : Disk) (library : LibraryName) (dump : Path) (config : Json) :
    FailsOnly IsReadFailure (fromDump d library dump config) :=
  (FailsOnly.orFault fun _ _ => trivial).bind fun _ =>
    (FailsOnly.orFault fun _ _ => trivial).bind fun _ =>
    (FailsOnly.orFault fun _ _ => trivial).bind fun _ =>
    (FailsOnly.orFault fun _ _ => trivial).bind fun _ =>
    (FailsOnly.orFault fun _ _ => trivial).bind fun _ => failsOnly_writeItems _ _ _ _ _

namespace Source

variable {s : Source} {d d' : Disk} {library : LibraryName} {out : Path} {config : Json} {b : Built}
  {w : Workspace} {f : Failure} {ns : List Notice} {sidecar report : String}

/-- What goes wrong before a build has decided on its changes comes of what it reads. -/
theorem isReadFailure (h : (s.built d library config).run [] = (.error f, ns)) :
    IsReadFailure f := by
  cases s with
  | pages docs => exact failsOnly_fromPages d library docs config [] f ns h
  | dump path => exact failsOnly_fromDump d library path config [] f ns h

theorem not_isWriteFailure (h : (s.built d library config).run [] = (.error f, ns)) :
    ¬IsWriteFailure f := by
  rintro ⟨p, reason, rfl⟩
  exact isReadFailure h

/-! ## How a build ends -/

theorem run_build (out : Path) (h : (s.built w.disk library config).run [] = (.ok b, ns)) :
    (s.build library out config).run w =
      (match (b.applied w.disk library out s.format config).failure with
        | none => .ok b.report
        | some f => .error f,
        saved w ns b library out s.format config) := by
  cases s with
  | pages docs => exact run_buildFromPages out h
  | dump path => exact run_buildFromDump out h

theorem run_build_error (out : Path) (h : (s.built w.disk library config).run [] = (.error f, ns)) :
    (s.build library out config).run w = (.error f, { w with notices := w.notices ++ ns }) := by
  cases s with
  | pages docs => exact run_buildFromPages_error out h
  | dump path => exact run_buildFromDump_error out h

theorem ends_run (s : Source) (library : LibraryName) (out : Path) (config : Json) (w : Workspace) :
    s.Ends library out config w.disk ((s.build library out config).run w).1
      ((s.build library out config).run w).2.disk := by
  rcases hbuilt : (s.built w.disk library config).run [] with ⟨f | b, ns⟩
  · rw [run_build_error out hbuilt]
    exact .undecided hbuilt
  · rw [run_build out hbuilt]
    obtain ⟨done, hreach, hall⟩ :=
      Corpus.reaches_applyAll w.disk (b.changes library out s.format config)
    cases hfailure : (b.applied w.disk library out s.format config).failure with
    | none =>
      rw [hfailure] at hreach hall
      rw [hall rfl] at hreach
      exact .saved ⟨ns, hbuilt⟩ hreach
    | some f =>
      rw [hfailure] at hreach
      exact .stopped ⟨ns, hbuilt⟩ hreach

end Source

/-! ## What a failed build leaves -/

/-- On the way to what a path names there is a place. -/
def LeadsThrough (p : Path) (place : List String) : Prop :=
  place ∈ Disk.visited (Disk.start p) p.parent.parts

theorem prefix_of_mem_visited {place names q : List String} (h : ".." ∉ names)
    (hq : q ∈ Disk.visited place names) : q <+: place ++ names := by
  induction names generalizing place with
  | nil => cases hq
  | cons name names ih =>
    rw [List.mem_cons, not_or] at h
    have hstep : Disk.step place name = place ++ [name] := Path.step_plain place (Ne.symm h.1)
    rw [Disk.visited, hstep] at hq
    rw [List.append_cons]
    rcases List.mem_cons.1 hq with rfl | hq
    · exact List.prefix_append _ _
    · exact ih h.2 hq

/-- A path without parent references leads only through places above its own. -/
theorem not_leadsThrough {p : Path} {place : List String} (hdots : ".." ∉ p.parts)
    (h : ¬place <+: p.place) : ¬LeadsThrough p place := by
  intro hmem
  have hparent : ".." ∉ p.parts.dropLast := fun hd => hdots (List.mem_of_mem_dropLast hd)
  refine h ((prefix_of_mem_visited hparent hmem).trans ?_)
  rw [Path.place, Path.foldl_step_plain _ fun n hn he => hdots (he ▸ hn)]
  exact (List.prefix_append_right_inj _).2 (List.dropLast_prefix _)

variable {s : Source} {d d' : Disk} {library : LibraryName} {out : Path} {config : Json} {b : Built}
  {done : List Corpus.Change} {f : Failure} {sidecar report : String}

/-- No page of a build from a dump lies below the report. -/
theorem not_leadsThrough_page (hfiles : Corpus.BesidePages config sidecar report)
    (hdots : ".." ∉ out.parts) {crate : Rustdoc.Crate} {items : List Rustdoc.Item}
    {overview listing page : String} (hpage : page ∈
      (builtItems library crate items config overview listing).files.map (·.1)) :
    ¬LeadsThrough (out.child page) (out.child report).place := by
  obtain ⟨hplain, hin⟩ := plain_files out hpage
  refine not_leadsThrough ?_ fun hbelow => ?_
  · rw [Path.child_name hplain.1]
    simpa [hdots] using hplain.2.symm
  · refine hfiles.report_place_ne hin (hbelow.eq_of_length ?_)
    rw [Path.place_child_name hplain, Path.place_child_name hfiles.report_plain]
    simp

/-- Files of one directory are written on the same way. -/
theorem leadsThrough_child {name other : String} {place : List String} (hname : Path.IsName name)
    (hother : Path.IsName other) :
    LeadsThrough (out.child name) place ↔ LeadsThrough (out.child other) place := by
  have hstart (names : List String) : Disk.start ⟨out.root, names⟩ = Disk.start out := rfl
  rw [LeadsThrough, LeadsThrough, Path.child_name hname, Path.child_name hother]
  simp [Path.parent, hstart]

/-- No change of a build makes the place of the report a directory: the sidecar and the report are
written on the same way as the overview. -/
theorem report_ne_directory {o : Option Failure} (hnames : Names config sidecar report)
    (hsidecar : Path.IsPlain sidecar) (hreport : Path.IsPlain report)
    (h : s.Decides d library config b)
    (hclear : d.entry? (out.child report).place ≠ some .directory)
    (hway : ∀ page ∈ b.files.map (·.1), ¬LeadsThrough (out.child page) (out.child report).place)
    (hreach : Reaches d (b.changes library out s.format config) done o d') :
    d'.entry? (out.child report).place ≠ some .directory := by
  have hoverview := hway _ h.overview_mem
  have hbeside {name : String} (hname : Path.IsPlain name) :
      ¬LeadsThrough (out.child name) (out.child report).place :=
    mt (leadsThrough_child hname.1 (by decide)).1 hoverview
  intro hdirectory
  rcases hreach.directory hdirectory with hbefore | ⟨c, hc, hvisited⟩
  · exact hclear hbefore
  · rcases Corpus.mem_changes hnames hc with ⟨name, t, hname, rfl⟩ | rfl | ⟨_, rfl⟩
    · rcases hname with hpage | rfl | rfl
      · exact hway name hpage hvisited
      · exact hbeside hsidecar hvisited
      · exact hbeside hreport hvisited
    · cases hvisited
    · cases hvisited

/-- The changes of a build stop only at a write, or when everything is written and the name of the
report is too long to be looked up. -/
theorem stops_at (hnames : Names config sidecar report) (hsidecar : Path.IsPlain sidecar)
    (hreport : Path.IsPlain report) (h : s.Decides d library config b)
    (hclear : d.entry? (out.child report).place ≠ some .directory)
    (hway : ∀ page ∈ b.files.map (·.1), ¬LeadsThrough (out.child page) (out.child report).place)
    (hreach : Reaches d (b.changes library out s.format config) done (some f) d') :
    (∃ p text rest, b.changes library out s.format config = done ++ .write p text :: rest ∧
      ((∃ reason, f = .problem (.writeFailed p.toString reason)) ∨
        f = .fault .nullInPath ∧ p.hasNull = true)) ∨
    ∃ rest, b.changes library out s.format config = done ++ .remove (out.child report) :: rest ∧
      f = .fault (.nameTooLong (out.child report).toString) ∧ ¬Disk.Takes (out.child report) := by
  obtain ⟨c, rest, d₁, hsplit, hbefore, hfails | ⟨p, text, reason, rfl, rfl⟩⟩ := hreach.stop
  · have hmem : c ∈ b.changes library out s.format config := by simp [hsplit]
    cases hfails with
    | write p text =>
      refine .inl ⟨p, text, rest, hsplit, ?_⟩
      rcases d₁.writeFailure_cases p with hf | ⟨hnull, hf⟩
      · exact .inl ⟨_, hf⟩
      · exact .inr ⟨hf, hnull⟩
    | fail => exact absurd hmem (Corpus.fail_not_mem_changes hnames f)
    | tooLong hfind =>
      obtain rfl := Corpus.eq_of_remove_mem_changes hnames hmem
      exact .inr ⟨rest, hsplit, rfl, fun htaken => htaken.find_ne_tooLong hfind⟩
    | directory hfind =>
      obtain rfl := Corpus.eq_of_remove_mem_changes hnames hmem
      exact absurd (Disk.find_directory hfind)
        (report_ne_directory hnames hsidecar hreport h hclear hway hbefore)
  · exact .inl ⟨p, text, rest, hsplit, .inl ⟨reason, rfl⟩⟩

/-- The files at all places are those of a disk with some texts written over them. -/
def IsOverwritten (d : Disk) (texts : List (Path × String)) (d' : Disk) : Prop :=
  ∀ r, d'.file? r = ((lastText r texts).map encode).or (d.file? r)

/-- What a failed build leaves of a disk `d`. -/
inductive Leaves (s : Source) (library : LibraryName) (out : Path) (config : Json)
    (sidecar report : String) (d : Disk) : Failure → Disk → Prop
  /-- Nothing is written, and no write has failed. -/
  | untouched {f : Failure} (h : ¬IsWriteFailure f) :
      Leaves s library out config sidecar report d f d
  /-- A write has failed. Of the files that are written, those before it hold their new texts. -/
  | refused {b : Built} {before after : List (Path × String)} {path : Path} {text reason : String}
      {d' : Disk} (h : s.Decides d library config b)
      (hsplit : b.texts library out s.format sidecar report = before ++ (path, text) :: after)
      (hfiles : IsOverwritten d before d') : Leaves s library out config sidecar report d
        (.problem (.writeFailed path.toString reason)) d'
  /-- A path with a null character was to be written. -/
  | null {b : Built} {before after : List (Path × String)} {path : Path} {text : String} {d' : Disk}
      (h : s.Decides d library config b)
      (hsplit : b.texts library out s.format sidecar report = before ++ (path, text) :: after)
      (hnull : path.hasNull = true) (hfiles : IsOverwritten d before d') :
      Leaves s library out config sidecar report d (.fault .nullInPath) d'
  /-- All is written, nothing is to be reported, and the name of the report is too long for it to be
  looked up. -/
  | unnamed {b : Built} {d' : Disk} (h : s.Decides d library config b)
      (hcomplete : b.report.isComplete = true) (hlong : ¬Disk.Takes (out.child report))
      (hfiles : IsOverwritten d (b.texts library out s.format sidecar report) d') :
      Leaves s library out config sidecar report d
        (.fault (.nameTooLong (out.child report).toString)) d'

theorem Leaves.written {p reason : String}
    (h : Leaves s library out config sidecar report d (.problem (.writeFailed p reason)) d') :
    ∃ b before path text after, s.Decides d library config b ∧
      b.texts library out s.format sidecar report = before ++ (path, text) :: after ∧
      p = path.toString ∧ IsOverwritten d before d' := by
  generalize hf : Failure.problem (.writeFailed p reason) = f at h
  cases h with
  | untouched hnot => exact absurd ⟨p, reason, hf.symm⟩ hnot
  | @refused b before after path text _ _ hdecides hsplit hfiles =>
    cases hf
    exact ⟨b, before, path, text, after, hdecides, hsplit, rfl, hfiles⟩
  | null | unnamed => cases hf

/-- **What a failed build leaves.** The run of a build is one of the ways in which it can end. When
it ends with a failure other than that of a write, the disk is as it was, unless a path cannot even
be named. When it ends with a write that failed, then of the files that it writes, in their order,
those before that one hold their new texts, and every other file is as it was. -/
theorem left_by_failed_build (hnames : Names config sidecar report)
    (hsidecar : Path.IsPlain sidecar) (hreport : Path.IsPlain report) (s : Source)
    (library : LibraryName) (out : Path) :
    (∀ w : Workspace, s.Ends library out config w.disk ((s.build library out config).run w).1
      ((s.build library out config).run w).2.disk) ∧
    ∀ d f d', s.Ends library out config d (.error f) d' →
      d.entry? (out.child report).place ≠ some .directory →
      (∀ b, s.Decides d library config b → ∀ page ∈ b.files.map (·.1),
        ¬LeadsThrough (out.child page) (out.child report).place) →
      Leaves s library out config sidecar report d f d' := by
  refine ⟨s.ends_run library out config, fun d f d' hends hclear hway => ?_⟩
  generalize hresult : (Except.error f : Except Failure Report) = result at hends
  cases hends with
  | saved _ _ => cases hresult
  | undecided hbuilt =>
    obtain rfl := Except.error.inj hresult
    exact .untouched (Source.not_isWriteFailure hbuilt)
  | @stopped b done _ _ h hreach =>
    obtain rfl := Except.error.inj hresult
    -- The changes made before the one that failed remove nothing.
    have hfiles {c : Corpus.Change} {rest : List Corpus.Change}
        (hsplit : b.changes library out s.format config = done ++ c :: rest) :
        IsOverwritten d (Corpus.writes done) d' := fun r =>
      hreach.file?_eq fun q hq => absurd hq (Corpus.remove_not_mem hnames hsplit q)
    rcases stops_at hnames hsidecar hreport h hclear (hway b h) hreach with
      ⟨path, text, rest, hsplit, hf⟩ | ⟨rest, hsplit, rfl, hlong⟩
    · have htexts : b.texts library out s.format sidecar report =
          Corpus.writes done ++ (path, text) :: Corpus.writes rest := by
        rw [← Corpus.writes_changes hnames, hsplit, Corpus.writes_append]
        rfl
      rcases hf with ⟨reason, rfl⟩ | ⟨rfl, hnull⟩
      · exact .refused h htexts (hfiles hsplit)
      · exact .null h htexts hnull (hfiles hsplit)
    · obtain ⟨-, hcomplete, htexts⟩ := Corpus.writes_before_remove hnames hsplit
      exact .unnamed h hcomplete hlong (htexts ▸ hfiles hsplit)

namespace TwoItems

variable {text : String} (htext : Rustdoc.itemPage crate good = .ok text)
  (overview listing : String)

/-- What is built from the two items. -/
abbrev twoBuilt (overview listing : String) : Built :=
  builtItems ⟨"a"⟩ crate [good, bad] Config.standard overview listing

include htext

theorem sorted_files : ((twoBuilt overview listing).files.mergeSort fun x y => Text.le x.1 y.1) =
    [("a-S.md", text), ("all.md", listing), ("index.md", overview)] := by
  have hgood : itemOutcome ⟨"a"⟩ crate good = .made "a::S" "a-S.md" text := by
    rw [itemOutcome, htext]
    rfl
  have hbad : itemOutcome ⟨"a"⟩ crate bad = .omitted ⟨"a::T", "2", "'type'"⟩ := by
    rw [itemOutcome, itemPage_bad]
    rfl
  have hfiles : (twoBuilt overview listing).files =
      [("index.md", overview), ("all.md", listing), ("a-S.md", text)] := by
    rw [twoBuilt, builtItems, List.map_cons, List.map_singleton, hgood, hbad]
    rfl
  have hnames : ["index.md", "all.md", "a-S.md"].Nodup := by decide
  have horder : ["a-S.md", "all.md", "index.md"].Pairwise fun s t => Text.le s t = true := by decide
  rw [hfiles]
  exact Json.sorted_eq hnames (List.reverse_perm [_, _, _])
    ((List.pairwise_map (f := Prod.fst) (R := fun s t => Text.le s t = true)).1 horder)

theorem changes_twoBuilt : ∃ rest, (twoBuilt overview listing).changes ⟨"a"⟩ (root.child "a") "json"
      Config.standard =
    [.write ((root.child "a").child "a-S.md") text] ++
      .write ((root.child "a").child "all.md") listing :: rest := by
  rw [Corpus.changes_eq Corpus.besidePages_standard.named, Corpus.fileChanges]
  dsimp only
  rw [sorted_files htext]
  exact ⟨_, rfl⟩

omit htext in
theorem decides : ∃ overview listing, Source.Decides (.dump dump) workspace.disk ⟨"a"⟩
    Config.standard (twoBuilt overview listing) := by
  obtain ⟨overview, hoverview⟩ := exists_overview
  obtain ⟨listing, hlisting⟩ := exists_listing
  have hfast : failsFast Config.standard = .ok false := rfl
  obtain ⟨ns, hfrom⟩ := run_fromDump ⟨"a"⟩ [] hfast loadCrate_dump hoverview hlisting
    publicItems_crate isOfItem_of_error
  exact ⟨overview, _, ns, hfrom⟩

omit htext in
theorem clear_report :
    workspace.disk.entry? ((root.child "a").child "build-report.json").place ≠ some .directory := by
  have hnone : workspace.disk.entry? ((root.child "a").child "build-report.json").place = none :=
    rfl
  simp [hnone]

/-- Of what is written, only the page of `S` comes before the listing. -/
theorem texts_twoBuilt : ∃ rest, (twoBuilt overview listing).texts ⟨"a"⟩ (root.child "a") "json"
      "metadata.json" "build-report.json" =
    [((root.child "a").child "a-S.md", text)] ++
      ((root.child "a").child "all.md", listing) :: rest ∧
    ∀ file ∈ rest, file.1.toString ≠ "out/a/all.md" := by
  have hother : ∀ name ∈ ["index.md", "metadata.json", "build-report.json"],
      ((root.child "a").child name).toString ≠ "out/a/all.md" := by decide
  simp only [List.forall_mem_cons] at hother
  obtain ⟨hoverview, hsidecar, hreport, -⟩ := hother
  rw [Built.texts, sorted_files htext]
  refine ⟨_, rfl, fun file hfile => ?_⟩
  rcases List.mem_cons.1 hfile with rfl | hfile
  · exact hoverview
  · rcases List.mem_cons.1 hfile with rfl | hfile
    · exact hsidecar
    · split at hfile
      · cases hfile
      · rw [List.mem_singleton.1 hfile]
        exact hreport

/-- The second write of the build is refused. -/
theorem ends_refused (h : Source.Decides (.dump dump) workspace.disk ⟨"a"⟩ Config.standard
      (twoBuilt overview listing)) :
    ∃ d', Source.Ends (.dump dump) ⟨"a"⟩ (root.child "a") Config.standard workspace.disk
      (.error (.problem (.writeFailed "out/a/all.md" "No space left on device"))) d' := by
  obtain ⟨rest, hchanges⟩ := changes_twoBuilt htext overview listing
  have hwithin : ∀ c ∈ [Corpus.Change.write ((root.child "a").child "a-S.md") text],
      c.IsWithin (root.child "a") := by
    intro c hc
    rw [List.mem_singleton.1 hc]
    exact ⟨"a-S.md", by decide, by decide, rfl⟩
  obtain ⟨d', hreach⟩ := Corpus.reaches_unobstructed unobstructed hwithin
  have hstop :=
    hreach.refuse ((root.child "a").child "all.md") listing "No space left on device" rest
  rw [← hchanges] at hstop
  exact ⟨d', .stopped h hstop⟩

end TwoItems

/-- When the listing of the two items cannot be written, only the page of `S` is on disk. -/
theorem left_by_refused_listing : ∃ text d',
    Rustdoc.itemPage TwoItems.crate TwoItems.good = .ok text ∧
    Source.Ends (.dump TwoItems.dump) ⟨"a"⟩ (TwoItems.root.child "a") Config.standard
      TwoItems.workspace.disk
      (.error (.problem (.writeFailed "out/a/all.md" "No space left on device"))) d' ∧
    d'.file? ["out", "a", "a-S.md"] = some (encode text) ∧
    ∀ name ∈ ["all.md", "index.md", "metadata.json", "build-report.json"],
      d'.file? ["out", "a", name] = none := by
  obtain ⟨text, htext⟩ := TwoItems.itemPage_good
  obtain ⟨overview, listing, hdecides⟩ := TwoItems.decides
  obtain ⟨d', hends⟩ := TwoItems.ends_refused htext overview listing hdecides
  have hbeside := Corpus.besidePages_standard
  have hleaves := (left_by_failed_build hbeside.named hbeside.sidecar_plain
    hbeside.report_plain (.dump TwoItems.dump) ⟨"a"⟩ (TwoItems.root.child "a")).2 _ _ _ hends
    TwoItems.clear_report fun b hb page hpage => by
      obtain rfl := hb.unique hdecides
      exact not_leadsThrough_page hbeside (by decide) hpage
  obtain ⟨b, before, path, later, after, hb, hsplit, hpath, hfiles⟩ := hleaves.written
  obtain rfl := hb.unique hdecides
  obtain ⟨rest, htexts, hrest⟩ := TwoItems.texts_twoBuilt htext overview listing
  have hfirst : (path, later) ∉ [((TwoItems.root.child "a").child "a-S.md", text)] := by
    intro hmem
    obtain ⟨rfl, -⟩ := Prod.mk.inj (List.mem_singleton.1 hmem)
    exact absurd hpath (by decide)
  rw [show Source.format (.dump TwoItems.dump) = "json" from rfl, htexts,
    List.append_cons_inj_of_notMem hfirst fun hmem => hrest _ hmem hpath.symm] at hsplit
  obtain ⟨rfl, -, -⟩ := hsplit
  refine ⟨text, d', htext, hends, hfiles _, fun name hname => ?_⟩
  rw [hfiles, Corpus.lastText_eq_none]
  · revert name
    simp only [List.forall_mem_cons]
    exact ⟨rfl, rfl, rfl, rfl, fun _ hname => by cases hname⟩
  · intro w hw
    have hplace : ∀ name ∈ ["all.md", "index.md", "metadata.json", "build-report.json"],
        ((TwoItems.root.child "a").child "a-S.md").place ≠ ["out", "a", name] := by decide
    rw [List.mem_singleton.1 hw]
    exact hplace name hname

namespace LongReport

open TwoItems (root)

/-- A dump of a crate with no items. -/
def value : Json := .obj [("root", .str "0"),
  ("index", .obj [("0", .obj [("id", .str "0"), ("name", .str "a"), ("visibility", .str "public"),
    ("inner", .obj [("module", .obj [("items", .arr [])])])])]),
  ("paths", .obj [])]

def crate : Rustdoc.Crate where
  root := "0"
  items := [("0", ⟨"0", .str "a", .pub, .null, "module", .obj [("items", .arr [])], true⟩)]
  paths := []
  pathKinds := []
  version := .null
  formatVersion := .null

/-- A workspace that holds the dump. -/
def workspace : Workspace where
  disk := ⟨[(["a.json"], .file (encode (value.pretty ++ "\n")))]⟩

/-- The standard configuration with another name for the report. -/
def settings (report : String) : Json := .obj [
  ("output", .obj [("dir_name", .str "docmd"), ("metadata_file", .str "metadata.json"),
    ("report_file", .str report)]),
  ("build", .obj [("format", .str "html"), ("fail_fast", .bool false)]),
  ("skip", .obj [("tags", .arr []), ("ids", .arr []), ("class_substrings", .arr [])])]

/-- A name of so many letters. -/
def name (length : Nat) : String := String.ofList (List.replicate length 'r')

section

variable {length : Nat} {c : Char} {text : String}

theorem not_mem_name (h : c ≠ 'r') : c ∉ (name length).toList := by
  rw [name, String.toList_ofList]
  exact fun hc => h (List.eq_of_mem_replicate hc)

theorem name_ne (hc : c ≠ 'r') (h : c ∈ text.toList) : name length ≠ text := by
  rintro rfl
  exact not_mem_name hc h

theorem utf8ByteSize_name (length : Nat) : (name length).utf8ByteSize = length := by
  induction length with
  | zero => rfl
  | succ length ih =>
    rw [name] at ih ⊢
    rw [List.replicate_succ', String.ofList_append, String.utf8ByteSize_append, ih]
    rfl

theorem isPlain_name (h : 0 < length) : Path.IsPlain (name length) := by
  have hdot : '.' ≠ 'r' := by decide
  refine ⟨⟨?_, name_ne hdot (by decide), not_mem_name (by decide)⟩, name_ne hdot (by decide)⟩
  intro hempty
  have hsize := utf8ByteSize_name length
  rw [hempty, String.utf8ByteSize_empty] at hsize
  omega

theorem besidePages (h : 0 < length) :
    Corpus.BesidePages (settings (name length)) "metadata.json" (name length) where
  named := ⟨_, rfl, rfl, rfl⟩
  sidecar_plain := by decide
  report_plain := isPlain_name h
  sidecar_ne_report := (name_ne (c := '.') (by decide) (by decide)).symm
  sidecar_ext := by decide
  report_ext hext := not_mem_name (c := '.') (by decide) (hext.subset (by decide))

theorem not_hasNull (h : 0 < length) :
    ((root.child "a").child (name length)).hasNull = false := by
  rw [Bool.eq_false_iff]
  intro hnull
  rcases Path.hasNull_child hnull with hout | hname
  · exact absurd hout (by decide)
  · rw [Path.not_hasNull_of_name (isPlain_name h).1 (not_mem_name (by decide))] at hname
    cases hname

end

theorem isTextual_value : value.IsTextual := by
  simp [value, Json.IsTextual, Json.AllTextualMembers, Json.AllTextual]

theorem loadCrate_dump : loadCrate workspace.disk TwoItems.dump = .ok crate :=
  (loadCrate_of_find isTextual_value rfl).trans rfl

theorem publicItems_crate : crate.publicItems = .ok [] := by
  have hids : crate.memberIds = .ok [] := by rfl
  rw [Rustdoc.Crate.publicItems, hids]
  exact congrArg Except.ok List.mergeSort_nil

theorem unobstructed : workspace.disk.Unobstructed (root.child "a") :=
  TwoItems.unobstructed_dump _

/-- The build decides on the overview and the listing alone. -/
theorem decides (report : String) : ∃ overview listing,
    Source.Decides (.dump TwoItems.dump) workspace.disk ⟨"a"⟩ (settings report)
      (builtItems ⟨"a"⟩ crate [] (settings report) overview listing) := by
  obtain ⟨overview, hoverview⟩ :=
    Rustdoc.exists_overviewPage publicItems_crate (List.forall_mem_nil _) rfl
  obtain ⟨listing, hlisting⟩ := Rustdoc.exists_listing publicItems_crate (List.forall_mem_nil _)
  have hfast : failsFast (settings report) = .ok false := rfl
  obtain ⟨ns, hfrom⟩ := run_fromDump ⟨"a"⟩ [] hfast loadCrate_dump hoverview hlisting
    publicItems_crate (List.forall_mem_nil _)
  exact ⟨overview, _, ns, hfrom⟩

/-- Everything is written before the name of the report is looked up. -/
theorem applied_built {length : Nat} (hlong : Disk.maxNameBytes < length)
    (overview listing : String) :
    let b := builtItems ⟨"a"⟩ crate [] (settings (name length)) overview listing
    let applied := b.applied workspace.disk ⟨"a"⟩ (root.child "a") "json" (settings (name length))
    applied.failure =
      some (.fault (.nameTooLong ((root.child "a").child (name length)).toString)) ∧
    ∃ text, applied.disk.file? ["out", "a", "metadata.json"] = some (encode text) := by
  intro b applied
  have hpos : 0 < length := (Nat.zero_le _).trans_lt hlong
  have hreport := besidePages hpos
  have hlongName : Disk.maxNameBytes < (name length).utf8ByteSize := by rwa [utf8ByteSize_name]
  obtain ⟨hfailure, hfiles⟩ : applied.failure = _ ∧ _ := Corpus.applied_long_report unobstructed
    hreport.named ⟨hreport.sidecar_plain, by decide⟩ hreport.report_plain.1
    (isFileName_files (List.forall_mem_nil _)) hlongName (not_hasNull hpos) rfl
  have hplace : ((root.child "a").child "metadata.json").place = ["out", "a", "metadata.json"] := by
    decide
  have hmem : ((root.child "a").child "metadata.json", (b.sidecar ⟨"a"⟩ "json").text) ∈
      b.texts ⟨"a"⟩ (root.child "a") "json" "metadata.json" (name length) :=
    List.mem_append_right _ List.mem_cons_self
  obtain ⟨text, htext⟩ := Corpus.exists_lastText hmem
  refine ⟨hfailure, text, ?_⟩
  rw [hfiles, ← hplace, htext]
  rfl

end LongReport

/-- A build with too long a name for its report saves its pages and its sidecar and then fails, not
with a write. -/
theorem saved_before_long_report :
    let out := TwoItems.root.child "a"
    let report := LongReport.name 300
    let config := LongReport.settings report
    Corpus.BesidePages config "metadata.json" report ∧
    LongReport.workspace.disk.Unobstructed out ∧
    (∀ b, Source.Decides (.dump TwoItems.dump) LongReport.workspace.disk ⟨"a"⟩ config b →
      ∀ page ∈ b.files.map (·.1), ¬LeadsThrough (out.child page) (out.child report).place) ∧
    LongReport.workspace.disk.file? ["out", "a", "metadata.json"] = none ∧
    ∃ f w' text, (buildFromDump ⟨"a"⟩ TwoItems.dump out config).run LongReport.workspace =
        (.error f, w') ∧ ¬IsWriteFailure f ∧
      w'.disk.file? ["out", "a", "metadata.json"] = some (encode text) := by
  have hbeside := LongReport.besidePages (show 0 < 300 by decide)
  obtain ⟨overview, listing, hdecides⟩ := LongReport.decides (LongReport.name 300)
  obtain ⟨hfailure, text, htext⟩ :=
    LongReport.applied_built (show Disk.maxNameBytes < 300 by decide) overview listing
  refine ⟨hbeside, LongReport.unobstructed, fun b hb page hpage => ?_, rfl, ?_⟩
  · obtain rfl := hb.unique hdecides
    exact not_leadsThrough_page hbeside (by decide) hpage
  · obtain ⟨ns, hbuilt⟩ := hdecides
    have hrun := run_buildFromDump (TwoItems.root.child "a") hbuilt
    rw [hfailure] at hrun
    refine ⟨_, _, text, hrun, ?_, htext⟩
    rintro ⟨p, reason, hf⟩
    cases hf

end CrateBook.Build
