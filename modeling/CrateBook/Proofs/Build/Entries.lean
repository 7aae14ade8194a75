import CrateBook.Proofs.Browse.Current
import CrateBook.Proofs.Build.Accounting
import CrateBook.Proofs.Build.Stopping
import CrateBook.Proofs.Path.Inside

/-!
# Entries of sidecars

A sidecar is written after the pages it lists, and nothing but the report is ever removed. So
whatever builds are run into a directory, and wherever they stop, the sidecar lists pages that are
there (`no_dangling_entry`). The step lemma is `Listed.reaches`: the changes of a build, as far as
they are made, either leave the sidecar and keep its pages, or replace it after all pages of the
new one.
-/

namespace CrateBook.Build

open Corpus (BesidePages Built Change Reaches Sidecar lastText writes)
open Text.Utf8 (encode)

variable {s : Source} {input d d' : Disk} {library : LibraryName} {out : Path} {config : Json}
  {b : Built} {done : List Change} {o : Option Failure} {sidecar report page fragment : String}

/-! ## Pages inside a directory -/

/-- The text names something below any directory. -/
def IsInside (s : String) : Prop := (Path.ofString s).root = "" ∧ ".." ∉ (Path.ofString s).parts

/-- The fragments that the source leads to are relative and without parent references. -/
def Source.StaysInside (d : Disk) : Source → Prop
  | pages docs => ∀ markup, d.read (docs.child "all.html") = .ok markup →
      ∀ fragment ∈ Listing.fragmentsOf (Listing.links (Html.parse markup)), IsInside fragment
  | dump _ => True

theorem IsInside.markdownPath (h : IsInside fragment)
    (hpath : Listing.markdownPath fragment = .ok page) : IsInside page := by
  rw [IsInside, Listing.ofString_markdownPath hpath]
  refine ⟨h.1, fun hdots => ?_⟩
  rcases List.mem_append.1 hdots with hdots | hdots
  · exact h.2 (List.mem_of_mem_dropLast hdots)
  · have hlast := congrArg (fun t => t.toList.getLast?) (List.mem_singleton.1 hdots)
    simp at hlast

theorem Source.StaysInside.yields (h : s.StaysInside d) (hpage : s.Yields d page) :
    IsInside page := by
  cases s with
  | pages docs =>
    obtain ⟨markup, fragment, hread, hfragment, hpath⟩ := hpage
    exact (h markup hread fragment hfragment).markdownPath hpath
  | dump path =>
    obtain ⟨itemPath, rfl⟩ := hpage
    have hplain := isPlain_pageName itemPath
    rw [IsInside, Path.ofString_name hplain.1]
    exact ⟨rfl, by simpa using hplain.2.symm⟩

theorem parts_ne_nil_of_yields (hpage : s.Yields d page) : (Path.ofString page).parts ≠ [] := by
  cases s with
  | pages docs =>
    obtain ⟨_, _, -, -, hpath⟩ := hpage
    rw [Listing.ofString_markdownPath hpath, Listing.pageOf]
    simp
  | dump path =>
    obtain ⟨itemPath, rfl⟩ := hpage
    rw [Path.ofString_name (isPlain_pageName itemPath).1]
    simp

theorem IsInside.place (h : IsInside page) (out : Path) :
    (out.child page).place = out.place ++ (Path.ofString page).parts := by
  rw [Path.child, Path.join, if_neg (by simp [h.1])]
  exact Path.place_append fun n hn he => h.2 (he ▸ hn)

/-! ## Entries -/

/-- The name has the extension of pages, and it leads to a file below the directory. -/
structure IsEntry (d : Disk) (out : Path) (page : String) : Prop where
  ext : ∃ base, page = base ++ ".md"
  below : Path.IsBelow out (out.child page).place
  isPageIn : Corpus.IsPageIn out page
  found : ∃ bytes, d.find (out.child page) = .ok (.file bytes)

/-- What stands at the place of the sidecar, if anything, is a sidecar whose entries are there. -/
def Listed (d : Disk) (out : Path) (sidecar : String) : Prop :=
  d.file? (out.child sidecar).place = none ∨
    ∃ record : Sidecar, record.IsTextual ∧
      d.find (out.child sidecar) = .ok (.file (encode record.text)) ∧
      ∀ m ∈ record.itemMap, ∃ page, m.2 = .str page ∧ IsEntry d out page

theorem IsEntry.lasts (h : IsEntry d out page) (hkeeps : d.KeepsDirectories d')
    (hfile : d'.file? (out.child page).place ≠ none) : IsEntry d' out page := by
  obtain ⟨bytes, hfind⟩ := h.found
  obtain ⟨bytes', hbytes⟩ := Option.ne_none_iff_exists'.1 hfile
  have hwalk := hkeeps.walk (Disk.find_eq_file.1 hfind).1
  exact ⟨h.ext, h.below, h.isPageIn, bytes', Disk.find_eq_file.2 ⟨hwalk, hbytes⟩⟩

section

variable (hconfig : BesidePages config sidecar report) (hinside : s.StaysInside input)
  (h : s.Decides input library config b)
  (hreach : Reaches d (b.changes library out s.format config) done o d')

include hconfig hreach

/-- Only the report is removed, so that a file at any other place is what was last written there. -/
theorem file?_reached {r : List String} (hr : (out.child report).place ≠ r) :
    d'.file? r = ((lastText r (writes done)).map encode).or (d.file? r) := by
  refine hreach.file?_eq fun p hp => ?_
  rcases Corpus.mem_changes hconfig.named (hreach.mem hp) with ⟨_, _, -, hc⟩ | hc | ⟨_, hc⟩
  · cases hc
  · obtain rfl := Change.remove.inj hc
    exact hr
  · cases hc

theorem file?_reached_ne_none {r : List String} (hr : (out.child report).place ≠ r)
    (hfile : d.file? r ≠ none) : d'.file? r ≠ none := by
  rw [file?_reached hconfig hreach hr]
  cases lastText r (writes done) with
  | none => exact hfile
  | some t => simp

include h

/-- What is written at the place of the sidecar is the sidecar, after all the pages. -/
theorem sidecar_of_lastText {t : String}
    (ht : lastText (out.child sidecar).place (writes done) = some t) :
    t = (b.sidecar library s.format).text ∧
      .write (out.child sidecar) t ∈ done ∧
      ∀ file ∈ b.files, .write (out.child file.1) file.2 ∈ done := by
  obtain ⟨p, hp, hplace⟩ := Corpus.mem_of_lastText ht
  have hdone := Corpus.mem_writes.1 hp
  obtain ⟨rest, hsplit⟩ := hreach.split
  rcases Corpus.write_cases hconfig.named hsplit hdone with
    ⟨file, hfile, rfl, rfl⟩ | ⟨⟨rfl, rfl⟩ | ⟨rfl, rfl⟩, hpages⟩
  · have hpage := h.isPageIn (List.mem_map_of_mem hfile) out
    exact absurd hplace.symm (hconfig.sidecar_place_ne hpage)
  · exact ⟨rfl, hdone, hpages⟩
  · exact absurd hplace.symm (hconfig.place_ne out)

include hinside

/-- The changes of a build, as far as they are made, keep what is listed on disk. -/
theorem Listed.reaches (hlisted : Listed d out sidecar) : Listed d' out sidecar := by
  have hsidecar := file?_reached hconfig hreach (hconfig.place_ne out).symm
  cases ht : lastText (out.child sidecar).place (writes done) with
  | none =>
    -- The sidecar is the one that was there.
    rw [ht] at hsidecar
    rcases hlisted with hnone | ⟨record, htextual, hfind, hentries⟩
    · exact .inl (hsidecar.trans hnone)
    · obtain ⟨hwalk, hbytes⟩ := Disk.find_eq_file.1 hfind
      refine .inr ⟨record, htextual, ?_, fun m hm => ?_⟩
      · exact Disk.find_eq_file.2 ⟨hreach.keeps.walk hwalk, hsidecar.trans hbytes⟩
      · obtain ⟨page, hpage, hentry⟩ := hentries m hm
        refine ⟨page, hpage, hentry.lasts hreach.keeps ?_⟩
        obtain ⟨bytes, hfound⟩ := hentry.found
        have hfile := (Disk.find_eq_file.1 hfound).2
        exact file?_reached_ne_none hconfig hreach (hconfig.report_place_ne hentry.isPageIn)
          (by simp [hfile])
  | some t =>
    -- It has been replaced by the sidecar of this build, all of whose pages had been written.
    obtain ⟨rfl, hwritten, hpages⟩ := sidecar_of_lastText hconfig h hreach ht
    rw [ht] at hsidecar
    refine .inr ⟨_, Corpus.isTextual_sidecar h.nodup_itemMap,
      Disk.find_eq_file.2 ⟨hreach.walk hwritten, hsidecar⟩, fun m hm => ?_⟩
    obtain ⟨entry, hentry, rfl⟩ := List.mem_map.1 hm
    obtain ⟨hyields, hin⟩ := h.mem_itemMap hentry
    obtain ⟨file, hfile, hname⟩ := List.mem_map.1 hin
    rw [← hname] at hyields
    have hpage := hpages file hfile
    have hplace := hyields.isPageIn out
    obtain ⟨text, htext⟩ := Corpus.exists_lastText (Corpus.mem_writes.2 hpage)
    refine ⟨entry.2, rfl, ?_⟩
    rw [← hname]
    refine ⟨hyields.ends, ⟨_, parts_ne_nil_of_yields hyields, (hinside.yields hyields).place out⟩,
      hplace, encode text, Disk.find_eq_file.2 ⟨hreach.walk hpage, ?_⟩⟩
    rw [file?_reached hconfig hreach (hconfig.report_place_ne hplace), htext]
    rfl

end

/-! ## Histories of builds -/

/-- A build into the directory leads from one disk to another, to that on which it ends or to one on
the way there. It reads its source on any disk, and its configuration has the two names. -/
def Leads (out : Path) (sidecar report : String) (d d' : Disk) : Prop :=
  ∃ (input : Disk) (s : Source) (library : LibraryName) (config : Json) (b : Built)
    (done : List Change) (o : Option Failure),
    BesidePages config sidecar report ∧ s.StaysInside input ∧ s.Decides input library config b ∧
      Reaches d (b.changes library out s.format config) done o d'

theorem leads_run (hconfig : BesidePages config sidecar report) (s : Source) (library : LibraryName)
    (out : Path) {w : Workspace} (hinside : s.StaysInside w.disk) :
    Relation.ReflTransGen (Leads out sidecar report) w.disk
      ((s.build library out config).run w).2.disk := by
  have hends := s.ends_run library out config w
  generalize ((s.build library out config).run w).1 = result,
    ((s.build library out config).run w).2.disk = d' at hends ⊢
  cases hends with
  | undecided _ => exact .refl
  | saved h hreach => exact .single ⟨_, s, library, config, _, _, _, hconfig, hinside, h, hreach⟩
  | stopped h hreach => exact .single ⟨_, s, library, config, _, _, _, hconfig, hinside, h, hreach⟩

theorem listed_of_history {d₀ : Disk} (hstart : d₀.file? (out.child sidecar).place = none)
    (hhistory : Relation.ReflTransGen (Leads out sidecar report) d₀ d) : Listed d out sidecar := by
  induction hhistory with
  | refl => exact .inl hstart
  | tail _ hlast ih =>
    obtain ⟨input, s, library, config, b, done, o, hconfig, hinside, h, hreach⟩ := hlast
    exact Listed.reaches hconfig hinside h hreach ih

/-- **No dangling entry.** After any history of builds into a directory that had no sidecar, a file
at the place of the sidecar is one that can be loaded, and every value of its map names a page below
the directory that is there. -/
theorem no_dangling_entry (out : Path) (sidecar report : String) :
    (∀ (s : Source) (library : LibraryName) (config : Json) (w : Workspace),
      BesidePages config sidecar report → s.StaysInside w.disk →
      Relation.ReflTransGen (Leads out sidecar report) w.disk
        ((s.build library out config).run w).2.disk) ∧
    ∀ d₀ d bytes, d₀.file? (out.child sidecar).place = none →
      Relation.ReflTransGen (Leads out sidecar report) d₀ d →
      d.file? (out.child sidecar).place = some bytes →
      ∃ record, Sidecar.load d (out.child sidecar) = .ok record ∧
        ∀ m ∈ record.itemMap, ∃ page, m.2 = .str page ∧ IsEntry d out page := by
  refine ⟨fun s library config w hconfig hinside => leads_run hconfig s library out hinside,
    fun d₀ d bytes hstart hhistory hbytes => ?_⟩
  rcases listed_of_history hstart hhistory with hnone | ⟨record, htextual, hfind, hentries⟩
  · rw [hnone] at hbytes
    cases hbytes
  · refine ⟨record.sorted, Sidecar.load_of_find htextual hfind, fun m hm => ?_⟩
    exact hentries m ((List.mergeSort_perm _ _).mem_iff.1 hm)

namespace SmallListing

theorem staysInside : Source.StaysInside workspace.disk (.pages docs) := by
  intro markup' hread
  rw [read_markup] at hread
  obtain rfl := Except.ok.inj hread
  rw [links_markup]
  have hinside : ∀ fragment ∈ ["trait.S.html", "derive.S.html", "fn.T.html"],
      (Path.ofString fragment).root = "" ∧ ".." ∉ (Path.ofString fragment).parts := by decide
  exact hinside

/-- The sidecar of the build lists the page of `S`. -/
theorem lookup_saved {r : Corpus.Report} {w' : Workspace}
    (hrun : (buildFromPages ⟨"lib"⟩ docs out Config.standard).run workspace = (.ok r, w')) :
    ∃ record, Sidecar.load w'.disk (out.child "metadata.json") = .ok record ∧
      record.itemMap.lookup "lib::S" = some (.str "derive.S.md") := by
  obtain ⟨built, ns, hfrom, hok, hdisk, -⟩ := of_run_buildFromPages hrun
  obtain ⟨skip, index, page, all, hopen, rfl⟩ := of_run_fromPages hfrom
  obtain ⟨markup', hread, hindex⟩ := hopen.index
  rw [read_markup] at hread
  obtain rfl := Except.ok.inj hread
  obtain rfl := Except.ok.inj (index_markup.symm.trans hindex)
  have hnodup : ([("lib::S", "derive.S.html"), ("lib::T", "fn.T.html")].map (·.1)).Nodup := by
    decide
  obtain rfl := Except.ok.inj (rules.symm.trans hopen.rules)
  obtain ⟨record, hload, -, hlookup⟩ :=
    hopen.load_sidecar hnodup entries_ne_fault Corpus.besidePages_standard hok
  obtain ⟨base, hpath, hpage⟩ := hlookup ("lib::S", "derive.S.html") List.mem_cons_self
    (isPage_of_convertPage convertPage_derive)
  have hname : base ++ ".md" = "derive.S.md" := (Except.ok.inj hpath).symm
  rw [hdisk]
  exact ⟨record, hload, hname ▸ hpage⟩

end SmallListing

/-- The sidecar of the small listing has the page of `S`, which is there. -/
theorem no_dangling_entry_small_listing : ∃ r w' record,
    (buildFromPages ⟨"lib"⟩ SmallListing.docs SmallListing.out Config.standard).run
      SmallListing.workspace = (.ok r, w') ∧
    Sidecar.load w'.disk (SmallListing.out.child "metadata.json") = .ok record ∧
    ("lib::S", Json.str "derive.S.md") ∈ record.itemMap ∧
    IsEntry w'.disk SmallListing.out "derive.S.md" := by
  obtain ⟨r, w', hrun⟩ := SmallListing.returns
  obtain ⟨record, hload, hlookup⟩ := SmallListing.lookup_saved hrun
  obtain ⟨bytes, hfind⟩ := Browse.find_of_load hload
  obtain ⟨hhistory, hlists⟩ :=
    no_dangling_entry SmallListing.out "metadata.json" "build-report.json"
  have hleads := hhistory (.pages SmallListing.docs) ⟨"lib"⟩ Config.standard SmallListing.workspace
    Corpus.besidePages_standard SmallListing.staysInside
  have hsource : Source.build ⟨"lib"⟩ SmallListing.out Config.standard (.pages SmallListing.docs) =
      buildFromPages ⟨"lib"⟩ SmallListing.docs SmallListing.out Config.standard := rfl
  rw [hsource, hrun] at hleads
  obtain ⟨record', hload', hentries⟩ := hlists _ _ bytes rfl hleads (Disk.find_eq_file.1 hfind).2
  obtain rfl := Except.ok.inj (hload.symm.trans hload')
  obtain ⟨before, after, hsplit, -⟩ := List.lookup_eq_some_iff.1 hlookup
  have hmem : ("lib::S", Json.str "derive.S.md") ∈ record.itemMap := by
    rw [hsplit]
    simp
  obtain ⟨page, hpage, hentry⟩ := hentries _ hmem
  obtain rfl := Json.str.inj hpage
  exact ⟨r, w', record, hrun, hload, hmem, hentry⟩

end CrateBook.Build
