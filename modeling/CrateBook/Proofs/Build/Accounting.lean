import CrateBook.Proofs.Build.Pages
import CrateBook.Proofs.Corpus.Unobstructed
import CrateBook.Proofs.Disk.Reach
import CrateBook.Proofs.Listing.Count
import CrateBook.Proofs.Text.Trimming

/-!
# Accounting for the items of a listing

A build from pages that goes on past the pages it cannot convert accounts for every item of the
index: it is in the report, either as converted or as a failure, the sidecar has the pages of the
converted ones, and the overview counts them all. What can go wrong is that a listed page is written
over the overview (`TakesOverview`), and that the build ends with a fault of its tables or of a path
(`EndsIn`).
-/

namespace CrateBook.Build

open Corpus (BesidePages Built IsClear Report Resolver)

section

variable {disk : Disk} {library : LibraryName} {config : Json} {docs out : Path}
  {skip : Page.SkipRules} {index : List (String × String)} {page all sidecar report : String}
  {fragment : String} {fragments : List String}

/-! ## The overview -/

/-- The lines of the overview about the items of a listing. -/
def countSection (fragments : List String) : List String :=
  ["## Item Counts", "", "**Total**: " ++ toString fragments.length ++ " public items", ""] ++
    (Listing.labelCounts fragments).map fun c => "- **" ++ c.1 ++ "**: " ++ toString c.2

theorem labelCounts_ne_nil (h : fragments ≠ []) : Listing.labelCounts fragments ≠ [] := by
  intro hnil
  have hsum := Listing.sum_labelCounts fragments
  rw [hnil] at hsum
  exact h (List.length_eq_zero_iff.1 (by simpa using hsum.symm))

/-- The last of the lines ends in a number. -/
theorem isBlank_getLast?_countSection (h : fragments ≠ []) {c : Char}
    (hc : ("\n".intercalate (countSection fragments)).toList.getLast? = some c) :
    Text.isBlank c = false := by
  rcases List.eq_nil_or_concat (Listing.labelCounts fragments) with hnil | ⟨init, ⟨label, n⟩, hl⟩
  · exact absurd hnil (labelCounts_ne_nil h)
  · have hmem : (label, n) ∈ Listing.labelCounts fragments := by rw [hl]; simp
    have hn := Listing.mem_labelCounts hmem
    rw [countSection, hl, List.concat_eq_append, List.map_append, List.map_singleton,
      ← List.append_assoc] at hc
    obtain ⟨before, hbefore⟩ := Text.intercalate_concat "\n"
      (["## Item Counts", "", "**Total**: " ++ toString fragments.length ++ " public items", ""] ++
        init.map fun c => "- **" ++ c.1 ++ "**: " ++ toString c.2)
      ("- **" ++ label ++ "**: " ++ toString n)
    rw [hbefore, hn, ← String.append_assoc] at hc
    exact Text.isBlank_getLast?_append_toString _ _ hc

theorem overview_eq (h : fragments ≠ []) (page : String) :
    overview page fragments =
      Text.trimEnd page ++ "\n\n" ++ "\n".intercalate (countSection fragments) ++ "\n" := by
  rw [overview, Listing.fragmentCountLines_eq h, ← countSection,
    String.intercalate_append_of_ne_nil (by simp [countSection]) (by simp),
    String.intercalate_singleton, String.append_empty,
    Text.trimEnd_append (by decide) fun c => isBlank_getLast?_countSection h]

/-- The page of a fragment is written over the overview. -/
def TakesOverview (out : Path) (fragment : String) : Prop :=
  ∃ page, Listing.markdownPath fragment = .ok page ∧
    Text.le Resolver.overviewName page = true ∧
    (out.child page).place = (out.child Resolver.overviewName).place

/-! ## What is accounted for -/

/-- What a build has made and left on disk accounts for the items of the index. -/
structure Accounted (disk : Disk) (skip : Page.SkipRules) (docs out : Path)
    (index : List (String × String)) (page sidecar report : String) (r : Report) (disk' : Disk) :
    Prop where
  converted : r.converted.Pairwise fun a b => Text.le a b = true
  failures : (r.failures.map (·.itemPath)).Pairwise fun a b => Text.le a b = true
  split : (r.converted ++ r.failures.map (·.itemPath)).Perm (index.map (·.1))
  disjoint : r.converted.Disjoint (r.failures.map (·.itemPath))
  pages : ∀ e ∈ index, e.1 ∈ r.converted ↔ IsPage disk (docs.child e.2)
  /-- The sidecar has the converted items with their pages. -/
  itemMap : ∃ s, Corpus.Sidecar.load disk' (out.child sidecar) = .ok s ∧
    s.itemMap.map (·.1) = r.converted ∧
    ∀ e ∈ index, e.1 ∈ r.converted → ∃ base,
      Listing.markdownPath e.2 = .ok (base ++ ".md") ∧
      s.itemMap.lookup e.1 = some (.str (base ++ ".md"))
  /-- The overview counts the items, or the page of an item stands in its place. -/
  overview :
    (∀ e ∈ index, IsPage disk (docs.child e.2) → ¬TakesOverview out e.2) ∧
      disk'.find (out.child Resolver.overviewName) = .ok (.file (Text.Utf8.encode
        (Text.trimEnd page ++ "\n\n" ++
          "\n".intercalate (countSection (index.map (·.2))) ++ "\n"))) ∨
    ∃ e ∈ index, ∃ text, convertPage disk skip (docs.child e.2) = .ok text ∧
      TakesOverview out e.2 ∧
      disk'.find (out.child Resolver.overviewName) = .ok (.file (Text.Utf8.encode text))
  /-- The counts of the kinds add up to the total. -/
  counts : ((Listing.labelCounts (index.map (·.2))).map (·.2)).sum = (index.length : Int) ∧
    ∀ c ∈ Listing.labelCounts (index.map (·.2)),
      c.2 = ((index.map fun e => Listing.fragmentLabel e.2).count c.1 : Int)
  report : disk'.has (out.child report) = .ok true ↔ r.failures ≠ []

variable (hnodup : (index.map (·.1)).Nodup)

theorem perm_sortedEntries (index : List (String × String)) :
    (sortedEntries index).Perm index := List.mergeSort_perm _ _

theorem mem_pages_sortedEntries {e : String × String × String} :
    e ∈ pages ((sortedEntries index).map (entryOutcome disk skip docs)) ↔
      ∃ entry ∈ index, e.1 = entry.1 ∧ Listing.markdownPath entry.2 = .ok e.2.1 ∧
        convertPage disk skip (docs.child entry.2) = .ok e.2.2 := by
  rw [mem_pages_entries]
  simp only [(perm_sortedEntries index).mem_iff]

theorem pairwise_itemPaths (disk : Disk) (skip : Page.SkipRules) (docs : Path)
    (index : List (String × String)) :
    (((sortedEntries index).map (entryOutcome disk skip docs)).map
      Outcome.itemPath).Pairwise fun a b => Text.le a b = true := by
  rw [map_itemPath_entryOutcome, List.pairwise_map]
  exact Json.pairwise_sorted index

theorem perm_itemPaths_index (disk : Disk) (skip : Page.SkipRules) (docs : Path)
    (index : List (String × String)) :
    (((sortedEntries index).map (entryOutcome disk skip docs)).map Outcome.itemPath).Perm
      (index.map (·.1)) := by
  rw [map_itemPath_entryOutcome]
  exact (perm_sortedEntries index).map _

include hnodup

theorem nodup_pages : ((pages ((sortedEntries index).map
    (entryOutcome disk skip docs))).map (·.1)).Nodup :=
  (sublist_pages _).nodup ((perm_itemPaths_index disk skip docs index).nodup_iff.2 hnodup)

variable (h : Opening disk library docs config skip index page all)
  (hnone : ∀ e ∈ index, ∀ f, convertPage disk skip (docs.child e.2) ≠ .error (.fault f))

include h hnone

/-- An item has a page when what its fragment leads to is one. -/
theorem Opening.mem_converted {e : String × String} (he : e ∈ index) :
    e.1 ∈ (builtPages disk library docs config skip index page all).report.converted ↔
      IsPage disk (docs.child e.2) := by
  rw [converted_builtFrom, List.mem_map]
  refine ⟨?_, fun hpage => ?_⟩
  · rintro ⟨p, hp, hkey⟩
    obtain ⟨entry, hentry, hkey', -, htext⟩ := mem_pages_sortedEntries.1 hp
    obtain rfl := List.inj_on_of_nodup_map hnodup hentry he (hkey'.symm.trans hkey)
    exact isPage_of_convertPage htext
  · obtain ⟨text, htext⟩ := (convertPage_ok_iff (hnone e he)).2 hpage
    obtain ⟨page, hpage⟩ := markdownPath_of_convertPage h.directory htext
    exact ⟨(e.1, page, text), mem_pages_sortedEntries.2 ⟨e, he, rfl, hpage, htext⟩, rfl⟩

omit h hnone in
/-- The sidecar names the items in the order in which they were converted. -/
theorem keys_sidecar :
    ((builtPages disk library docs config skip index page all).sidecar library
      "html").sorted.itemMap.map (·.1) =
      (builtPages disk library docs config skip index page all).report.converted := by
  have hkeys : ((builtPages disk library docs config skip index page all).itemMap.map (·.1)) =
      (pages ((sortedEntries index).map (entryOutcome disk skip docs))).map (·.1) := by
    have hset := Json.lastOfEach_of_nodup (l := (pages ((sortedEntries index).map
      (entryOutcome disk skip docs))).map fun e => (e.1, e.2.1)) (by
        simpa [Function.comp_def] using nodup_pages hnodup)
    rw [itemMap_builtFrom]
    exact (congrArg (List.map (·.1)) hset).trans List.map_map
  have hsorted : ((pages ((sortedEntries index).map
      (entryOutcome disk skip docs))).map (·.1)).Pairwise fun a b => Text.le a b = true :=
    (pairwise_itemPaths disk skip docs index).sublist (sublist_pages _)
  have hplain : ((builtPages disk library docs config skip index page all).sidecar library
      "html").itemMap.map (·.1) =
      (builtPages disk library docs config skip index page all).itemMap.map (·.1) := by
    simp [Built.sidecar, Function.comp_def]
  rw [Corpus.Sidecar.sorted, Json.keys_sorted, hplain, hkeys, converted_builtFrom, Text.sort,
    List.mergeSort_of_pairwise hsorted]

variable (hfiles : BesidePages config sidecar report) {d : Disk}
  (hok : ((builtPages disk library docs config skip index page all).applied d library out "html"
    config).failure = none)

include hfiles hok

/-- The sidecar that is loaded has the page of every item that was converted. -/
theorem Opening.load_sidecar : ∃ s,
    Corpus.Sidecar.load ((builtPages disk library docs config skip index page all).applied d
      library out "html" config).disk (out.child sidecar) = .ok s ∧
    s.itemMap.map (·.1) =
      (builtPages disk library docs config skip index page all).report.converted ∧
    ∀ e ∈ index, IsPage disk (docs.child e.2) → ∃ base,
      Listing.markdownPath e.2 = .ok (base ++ ".md") ∧
      s.itemMap.lookup e.1 = some (.str (base ++ ".md")) := by
  refine ⟨_, Corpus.load_sidecar hfiles.named (hfiles.place_ne _) hok nodup_itemMap_builtFrom,
    keys_sidecar hnodup, fun e he hpage => ?_⟩
  obtain ⟨text, htext⟩ := (convertPage_ok_iff (hnone e he)).2 hpage
  obtain ⟨page, hpath⟩ := markdownPath_of_convertPage h.directory htext
  obtain ⟨base, rfl⟩ := Listing.markdownPath_ends hpath
  have hmem : (e.1, base ++ ".md", text) ∈
      pages ((sortedEntries index).map (entryOutcome disk skip docs)) :=
    mem_pages_sortedEntries.2 ⟨e, he, rfl, hpath, htext⟩
  refine ⟨base, hpath, ?_⟩
  rw [Corpus.lookup_sidecar_sorted nodup_itemMap_builtFrom, lookup_itemMap_builtFrom hmem]
  · rfl
  · intro e' he' hkey
    exact congrArg (·.2.1) (List.inj_on_of_nodup_map (nodup_pages hnodup) he' hmem hkey)

omit hnodup h in
/-- In the place of the overview stands the overview itself or a page that is written over it. -/
theorem find_overview :
    (∀ e ∈ index, IsPage disk (docs.child e.2) → ¬TakesOverview out e.2) ∧
      ((builtPages disk library docs config skip index page all).applied d library out "html"
        config).disk.find (out.child Resolver.overviewName) =
        .ok (.file (Text.Utf8.encode (Build.overview page (index.map (·.2))))) ∨
    ∃ e ∈ index, ∃ text, convertPage disk skip (docs.child e.2) = .ok text ∧
      TakesOverview out e.2 ∧
      ((builtPages disk library docs config skip index page all).applied d library out "html"
        config).disk.find (out.child Resolver.overviewName) =
        .ok (.file (Text.Utf8.encode text)) := by
  have hname : Corpus.IsPageIn out Resolver.overviewName :=
    ⟨_, "index", Path.place_child_name (by decide)⟩
  have hmem : Resolver.overviewName ∈
      (builtPages disk library docs config skip index page all).files.map (·.1) :=
    mem_keys_files.2 (.inr (.inl rfl))
  obtain ⟨⟨name, text⟩, hfile, hplace, hlast, hfind⟩ :=
    Corpus.find_last_page hfiles hok hname hmem
  obtain ⟨⟨_, _⟩, hoverview, rfl⟩ := List.mem_map.1 hmem
  have hfirst := hlast _ hoverview rfl
  dsimp only at hplace hlast hfind hfirst
  have hlookup := (Json.lookup_eq_some_iff_mem nodup_files_builtFrom).2 hfile
  rw [files_builtFrom] at hlookup
  rcases Json.mem_of_lookup_setMembers hlookup with hpage | ⟨hnot, hown⟩
  · obtain ⟨⟨_, _, _⟩, he, heq⟩ := List.mem_map.1 hpage
    obtain ⟨rfl, rfl⟩ := Prod.mk.inj heq
    obtain ⟨entry, hentry, -, hpath, htext⟩ := mem_pages_sortedEntries.1 he
    exact .inr ⟨entry, hentry, _, htext, ⟨_, hpath, hfirst, hplace⟩, hfind⟩
  · have hoverview : name = Resolver.overviewName ∧
        text = Build.overview page (index.map (·.2)) := by
      rw [List.lookup_cons] at hown
      split at hown
      · rename_i hname
        exact ⟨beq_iff_eq.1 hname, (Option.some.inj hown).symm⟩
      · rw [List.lookup_cons] at hown
        split at hown
        · rename_i hname
          obtain rfl := beq_iff_eq.1 hname
          rw [Path.place_child_name (by decide), Path.place_child_name (by decide)] at hplace
          exact absurd (List.append_cancel_left hplace) (by decide)
        · cases hown
    obtain ⟨rfl, rfl⟩ := hoverview
    refine .inl ⟨fun e he hpage => ?_, hfind⟩
    rintro ⟨p, hpath, hle, htaken⟩
    obtain ⟨text, htext⟩ := (convertPage_ok_iff (hnone e he)).2 hpage
    have hin : (e.1, p, text) ∈ pages ((sortedEntries index).map (entryOutcome disk skip docs)) :=
      mem_pages_sortedEntries.2 ⟨e, he, rfl, hpath, htext⟩
    obtain ⟨file, hfile', rfl⟩ := List.mem_map.1 (mem_keys_files.2 (.inl ⟨_, hin, rfl⟩))
    obtain heq := Text.le_antisymm (hlast file hfile' htaken) hle
    refine hnot ?_
    rw [← heq, List.map_map]
    exact List.mem_map.2 ⟨_, hin, rfl⟩

/-- A build that has saved everything accounts for the items of the index. -/
theorem Opening.accounted (hne : index ≠ []) :
    Accounted disk skip docs out index page sidecar report
      (builtPages disk library docs config skip index page all).report
      ((builtPages disk library docs config skip index page all).applied d library out "html"
        config).disk where
  converted := by
    rw [converted_builtFrom]
    exact (pairwise_itemPaths disk skip docs index).sublist (sublist_pages _)
  failures := by
    rw [failures_builtFrom]
    exact (pairwise_itemPaths disk skip docs index).sublist (sublist_omissions _)
  split := by
    rw [converted_builtFrom, failures_builtFrom]
    exact (perm_itemPaths _).trans (perm_itemPaths_index disk skip docs index)
  disjoint := by
    rw [converted_builtFrom, failures_builtFrom]
    refine List.disjoint_of_nodup_append ?_
    rw [((perm_itemPaths _).trans (perm_itemPaths_index disk skip docs index)).nodup_iff]
    exact hnodup
  pages := fun e he => h.mem_converted hnodup hnone he
  itemMap := by
    obtain ⟨s, hload, hkeys, hlookup⟩ := h.load_sidecar hnodup hnone hfiles hok
    exact ⟨s, hload, hkeys, fun e he hc => hlookup e he ((h.mem_converted hnodup hnone he).1 hc)⟩
  overview := by
    rw [← overview_eq (by simpa using hne)]
    exact find_overview hnone hfiles hok
  counts := by
    refine ⟨(Listing.sum_labelCounts _).trans (by simp), fun c hc => ?_⟩
    rw [Listing.mem_labelCounts hc, List.map_map, Function.comp_def]
  report := by
    cases hr : (builtPages disk library docs config skip index page all).report.isComplete with
    | true =>
      rw [Corpus.has_report hfiles.named hok hr]
      simpa [Report.isComplete] using hr
    | false =>
      rw [Disk.has_of_find (Corpus.find_report hfiles.named hok hr)]
      simpa [Report.isComplete] using hr

end

/-! ## Builds from pages -/

section

variable {library : LibraryName} {config : Json} {docs out : Path} {skip : Page.SkipRules}
  {sidecar report markup : String} {w : Workspace}

/-- The pages of a build do not lead through the report when the fragments of the listing do not. -/
theorem isClear_files {ls : List Listing.Link} {page all : String} {disk : Disk}
    (hclear : IsClear disk out report (Listing.fragmentsOf ls))
    (hleads : ∀ l ∈ ls, l.fragment ≠ none) :
    IsClear disk out report ((builtPages disk library docs config skip
      (Listing.indexOf library.canonical ls) page all).files.map (·.1)) where
  place := hclear.place
  way := hclear.way
  pages := by
    intro name hname
    rcases mem_keys_files.1 hname with ⟨e, he, rfl⟩ | rfl | rfl
    · obtain ⟨entry, hentry, -, hpath, -⟩ := mem_pages_sortedEntries.1 he
      have hparts := hclear.pages entry.2 (Listing.mem_fragmentsOf hleads hentry)
      rw [Listing.ofString_markdownPath hpath, Listing.pageOf]
      simpa using hparts
    · rw [Path.ofString_name (by decide)]
      exact List.not_mem_nil
    · rw [Path.ofString_name (by decide)]
      exact List.not_mem_nil

/-- What can end a build from pages although its own pages are there and every file can be
written. -/
inductive EndsIn (skip : Page.SkipRules) (docs out : Path) (index : List (String × String))
    (sidecar report : String) : Fault → Prop
  /-- An entry of the class table is no text. -/
  | stray (h : skip.stray ≠ none) : EndsIn skip docs out index sidecar report strayFault
  /-- A fragment has a null character. -/
  | fragment {e : String × String} (he : e ∈ index) (h : (docs.child e.2).hasNull = true) :
    EndsIn skip docs out index sidecar report .nullInPath
  /-- The directory of the corpus, or the name of a file in it, has a null character. -/
  | null (h : ∃ p ∈ [out, Path.ofString sidecar, Path.ofString report], p.hasNull = true) :
    EndsIn skip docs out index sidecar report .nullInPath
  /-- The path of the report is too long to be looked up. -/
  | report (h : ¬Disk.Takes (out.child report)) :
    EndsIn skip docs out index sidecar report (.nameTooLong (out.child report).toString)

/-- The fault of a page ends the build as it may. -/
theorem IsPageFault.endsIn {index : List (String × String)} {disk : Disk} {f : Fault}
    (h : IsPageFault disk skip docs index f) (hpage : IsPage disk (docs.child "index.html"))
    (hall : IsPage disk (docs.child "all.html")) : EndsIn skip docs out index sidecar report f := by
  obtain ⟨fragment, hfragment, hf⟩ := h
  rcases of_convertPage_fault hf with ⟨rfl, hnull⟩ | ⟨rfl, hstray⟩
  · rcases List.mem_cons.1 hfragment with rfl | hfragment
    · exact absurd hnull (by simp [hpage.not_hasNull])
    rcases List.mem_cons.1 hfragment with rfl | hfragment
    · exact absurd hnull (by simp [hall.not_hasNull])
    obtain ⟨e, he, rfl⟩ := List.mem_map.1 hfragment
    exact .fragment he hnull
  · exact .stray hstray

/-- A failure to save what has been built, when files can be written. -/
theorem endsIn_of_applied {ls : List Listing.Link} {page all : String} {disk : Disk} {f : Failure}
    (hclear : IsClear disk out report (Listing.fragmentsOf ls))
    (hleads : ∀ l ∈ ls, l.fragment ≠ none) (hfiles : BesidePages config sidecar report)
    (hfail : ((builtPages disk library docs config skip (Listing.indexOf library.canonical ls)
      page all).applied disk library out "html" config).failure = some f)
    (hwrite : ∀ p reason, f ≠ .problem (.writeFailed p reason)) :
    ∃ fault, f = .fault fault ∧
      EndsIn skip docs out (Listing.indexOf library.canonical ls) sidecar report fault := by
  rcases Corpus.failure_cases hfiles.named (fun _ hname => not_hasNull_builtPages hname) hfail with
    ⟨p, reason, hf⟩ | ⟨fault, rfl, hends⟩
  · exact absurd hf (hwrite p reason)
  · refine ⟨fault, rfl, ?_⟩
    cases hends with
    | null h => exact .null h
    | tooLong h => exact .report h
    | directory h => exact absurd h ((isClear_files hclear hleads).not_directory hfiles)

/-- The pages of the library itself can be read, `markup` is its listing, and no page is nested too
deep to be gone through. -/
structure Documented (disk : Disk) (docs : Path) (markup : String) : Prop where
  overview : IsPage disk (docs.child "index.html")
  listing : IsPage disk (docs.child "all.html")
  read : disk.read (docs.child "all.html") = .ok markup
  reach : ∀ fragment page, disk.read (docs.child fragment) = .ok page →
    Html.height (Html.parse page) ≤ maxOpen

/-- **A build from pages accounts for every item.** It returns whatever goes wrong with the pages of
items, as long as the pages of the library itself can be read and nothing stands in the way of
writing; only what `EndsIn` lists can end it. -/
theorem accounted_of_buildFromPages
    (hrules : (do Page.SkipRules.default.extendedBy (← config.member "skip")) = .ok skip)
    (hfast : failsFast config = .ok false) (hdocs : Documented w.disk docs markup)
    (hlinks : Listing.links (Html.parse markup) ≠ [])
    (hleads : ∀ l ∈ Listing.links (Html.parse markup), l.fragment ≠ none)
    (hfiles : BesidePages config sidecar report)
    (hclear : IsClear w.disk out report (Listing.fragmentsOf (Listing.links (Html.parse markup))))
    (hwrite : ∀ f w', (buildFromPages library docs out config).run w = (.error f, w') →
      ∀ p reason, f ≠ .problem (.writeFailed p reason)) :
    ∃ index, Listing.index library.canonical (Html.parse markup) = .ok index ∧
      ((∃ r w' page, convertPage w.disk skip (docs.child "index.html") = .ok page ∧
        (buildFromPages library docs out config).run w = (.ok r, w') ∧
        Accounted w.disk skip docs out index page sidecar report r w'.disk) ∨
      ∃ f w', EndsIn skip docs out index sidecar report f ∧
        (buildFromPages library docs out config).run w = (.error (.fault f), w')) := by
  have hindex : Listing.index library.canonical (Html.parse markup) =
      .ok (Listing.indexOf library.canonical (Listing.links (Html.parse markup))) :=
    Listing.index_eq_ok.2 ⟨hleads, hlinks, rfl⟩
  refine ⟨_, hindex, ?_⟩
  rcases run_fromPages_cases hrules hfast hdocs.overview hdocs.listing hdocs.read hindex [] with
    ⟨page, all, ns, hopen, hnone, hrun⟩ | ⟨f, ns, hf, hrun⟩
  · have hbuild := run_buildFromPages out hrun
    cases hfail : ((builtPages w.disk library docs config skip
        (Listing.indexOf library.canonical (Listing.links (Html.parse markup))) page all).applied
        w.disk library out "html" config).failure with
    | some f =>
      rw [hfail] at hbuild
      obtain ⟨fault, rfl, hends⟩ :=
        endsIn_of_applied hclear hleads hfiles hfail (hwrite _ _ hbuild)
      exact .inr ⟨fault, _, hends, hbuild⟩
    | none =>
      rw [hfail] at hbuild
      refine .inl ⟨_, _, page, hopen.page, hbuild, ?_⟩
      exact hopen.accounted (Listing.nodup_indexOf _ _) hnone hfiles hfail
        (Listing.indexOf_ne_nil hleads hlinks)
  · exact .inr ⟨f, _, hf.endsIn hdocs.overview hdocs.listing, run_buildFromPages_error out hrun⟩

end

/-! ## A listing of three links -/

namespace SmallListing

/-- A listing with two links of one name, and one to a page that is missing. -/
def markup : String :=
  "<main><ul class='all-items'><li><a href='trait.S.html'>S</a></li>" ++
  "<li><a href='derive.S.html'>S</a></li><li><a href='fn.T.html'>T</a></li></ul></main>"

def docs : Path := ⟨"", ["docs"]⟩

def out : Path := ⟨"", ["out"]⟩

/-- A workspace that holds the documentation. -/
def workspace : Workspace where
  disk := ⟨[(["docs"], .directory),
    (["docs", "index.html"], .file (Text.Utf8.encode "<main><code>L</code></main>")),
    (["docs", "all.html"], .file (Text.Utf8.encode markup)),
    (["docs", "trait.S.html"], .file (Text.Utf8.encode "<main><code>A</code></main>")),
    (["docs", "derive.S.html"], .file (Text.Utf8.encode "<main><code>B</code></main>"))]⟩

/-- A document whose main element holds some nodes. -/
def document (nodes : List Html.Node) : List Html.Node :=
  [.element "html" [] [.element "body" [] [.element "main" [] nodes]]]

set_option maxRecDepth 8000 in
theorem parse_markup : Html.parse markup = document [
    .element "ul" [("class", .tokens ["all-items"])] [
      .element "li" [] [.element "a" [("href", .text "trait.S.html")] [.text none "S"]],
      .element "li" [] [.element "a" [("href", .text "derive.S.html")] [.text none "S"]],
      .element "li" [] [.element "a" [("href", .text "fn.T.html")] [.text none "T"]]]] := by
  rfl

theorem links_markup : Listing.links (Html.parse markup) =
    [⟨"S", some "trait.S.html"⟩, ⟨"S", some "derive.S.html"⟩, ⟨"T", some "fn.T.html"⟩] := by
  rw [parse_markup]
  rfl

set_option maxRecDepth 4000 in
theorem read_markup : workspace.disk.read (docs.child "all.html") = .ok markup :=
  Disk.read_of_find rfl (by decide)

theorem isPage_listing : IsPage workspace.disk (docs.child "all.html") := by
  obtain ⟨bytes, s, hfind, hs, h⟩ := Disk.find_of_read read_markup
  refine ⟨bytes, s, hfind, hs, ?_⟩
  rw [← h, parse_markup]
  decide

theorem convertPage_of_parse {disk : Disk} {p : Path} {source text : String}
    {nodes : List Html.Node} {skip : Page.SkipRules} (hstray : skip.stray = none)
    (hfind : disk.find p = .ok (.file (Text.Utf8.encode source)))
    (hs : '\r' ∉ source.toList) (hparse : Html.parse source = document nodes)
    (htext : Page.markdown? skip (document nodes) = some text) :
    convertPage disk skip p = .ok text :=
  convertPage_eq_ok.2 ⟨source, Disk.read_of_find hfind hs, hparse ▸ htext,
    Page.strays_of_stray_eq_none hstray _⟩

theorem parse_overview : Html.parse "<main><code>L</code></main>" =
    document [.element "code" [] [.text none "L"]] := by rfl

theorem parse_trait : Html.parse "<main><code>A</code></main>" =
    document [.element "code" [] [.text none "A"]] := by rfl

theorem parse_derive : Html.parse "<main><code>B</code></main>" =
    document [.element "code" [] [.text none "B"]] := by rfl

theorem convertPage_overview :
    convertPage workspace.disk .default (docs.child "index.html") = .ok "`L`" :=
  convertPage_of_parse rfl rfl (by decide) parse_overview rfl

theorem convertPage_trait :
    convertPage workspace.disk .default (docs.child "trait.S.html") = .ok "`A`" :=
  convertPage_of_parse rfl rfl (by decide) parse_trait rfl

theorem convertPage_derive :
    convertPage workspace.disk .default (docs.child "derive.S.html") = .ok "`B`" :=
  convertPage_of_parse rfl rfl (by decide) parse_derive rfl

set_option maxRecDepth 4000 in
theorem isWithinReach : workspace.disk.IsWithinReach := by
  change ∀ file ∈ [(["docs", "index.html"], Text.Utf8.encode "<main><code>L</code></main>"),
    (["docs", "all.html"], Text.Utf8.encode markup),
    (["docs", "trait.S.html"], Text.Utf8.encode "<main><code>A</code></main>"),
    (["docs", "derive.S.html"], Text.Utf8.encode "<main><code>B</code></main>")],
      AreWithinReach file.2
  simp only [List.forall_mem_cons]
  refine ⟨areWithinReach_encode rfl (by decide) ?_, areWithinReach_encode rfl (by decide) ?_,
    areWithinReach_encode rfl (by decide) ?_, areWithinReach_encode rfl (by decide) ?_,
    List.forall_mem_nil _⟩
  · rw [parse_overview]
    decide
  · rw [parse_markup]
    decide
  · rw [parse_trait]
    decide
  · rw [parse_derive]
    decide

theorem documented : Documented workspace.disk docs markup where
  overview := isPage_of_convertPage convertPage_overview
  listing := isPage_listing
  read := read_markup
  reach _ _ hread := (isWithinReach.of_read hread).1

/-- The index of the listing: the later of the two links of one name counts. -/
theorem index_markup : Listing.index "lib" (Html.parse markup) =
    .ok [("lib::S", "derive.S.html"), ("lib::T", "fn.T.html")] := by
  refine Listing.index_eq_ok.2 ?_
  rw [links_markup]
  exact ⟨by simp, by simp, rfl⟩

theorem rules : (do Page.SkipRules.default.extendedBy (← Config.standard.member "skip")) =
    .ok .default := by rfl

theorem unobstructed : workspace.disk.Unobstructed out :=
  Disk.unobstructed_of_new (show Path.IsPlain "out" by decide) (by decide) rfl rfl (by decide)
    (by decide) (by decide) (by decide)

theorem entries_ne_fault : ∀ entry ∈ [("lib::S", "derive.S.html"), ("lib::T", "fn.T.html")],
    ∀ f, convertPage workspace.disk .default (docs.child entry.2) ≠ .error (.fault f) := by
  have hnull : ∀ entry ∈ [("lib::S", "derive.S.html"), ("lib::T", "fn.T.html")],
      (docs.child entry.2).hasNull = false := by decide
  exact fun entry hentry => convertPage_ne_fault rfl (hnull entry hentry)

/-- The build from the listing returns. -/
theorem returns : ∃ r w', (buildFromPages ⟨"lib"⟩ docs out Config.standard).run workspace =
    (.ok r, w') := by
  have hnone : ∀ f, convertPage workspace.disk .default (docs.child "all.html") ≠
      .error (.fault f) := convertPage_ne_fault rfl (by decide)
  obtain ⟨all, hall⟩ := (convertPage_ok_iff hnone).2 isPage_listing
  have hopen : Opening workspace.disk ⟨"lib"⟩ docs Config.standard .default _ "`L`" all :=
    ⟨rules, ⟨markup, read_markup, index_markup⟩, convertPage_overview, hall⟩
  obtain ⟨ns, hrun⟩ := run_fromPages hopen rfl entries_ne_fault []
  have hpages : ∀ page ∈ (builtPages workspace.disk ⟨"lib"⟩ docs Config.standard .default
      [("lib::S", "derive.S.html"), ("lib::T", "fn.T.html")] "`L`" all).files.map (·.1),
      Path.IsPlain page ∧ Disk.IsFileName page := by
    intro page hpage
    rcases mem_keys_files.1 hpage with ⟨e, he, rfl⟩ | rfl | rfl
    · obtain ⟨entry, hentry, -, hpath, -⟩ := mem_pages_sortedEntries.1 he
      rcases List.mem_cons.1 hentry with rfl | hentry
      · have hname : e.2.1 = "derive.S.md" := (Except.ok.inj hpath).symm
        rw [hname]
        decide
      · obtain rfl := List.mem_singleton.1 hentry
        have hname : e.2.1 = "fn.T.md" := (Except.ok.inj hpath).symm
        rw [hname]
        decide
    · decide
    · decide
  have hbuild := run_buildFromPages out hrun
  rw [Corpus.applied_unobstructed unobstructed Corpus.besidePages_standard (by decide) hpages]
    at hbuild
  exact ⟨_, _, hbuild⟩

theorem isClear : IsClear workspace.disk out "build-report.json"
    (Listing.fragmentsOf (Listing.links (Html.parse markup))) where
  place := by
    have hnone : workspace.disk.entry? (out.child "build-report.json").place = none := by rfl
    simp [hnone]
  way := by decide
  pages := by
    rw [links_markup]
    decide

end SmallListing

/-- The build from the small listing accounts for `S` and for `T`. -/
theorem accounted_small_listing : ∃ r w',
    (buildFromPages ⟨"lib"⟩ SmallListing.docs SmallListing.out Config.standard).run
      SmallListing.workspace = (.ok r, w') ∧
    Accounted SmallListing.workspace.disk .default SmallListing.docs SmallListing.out
      [("lib::S", "derive.S.html"), ("lib::T", "fn.T.html")] "`L`" "metadata.json"
      "build-report.json" r w'.disk := by
  have hlinks := SmallListing.links_markup
  obtain ⟨r, w', hrun⟩ := SmallListing.returns
  obtain ⟨index, hindex, ⟨r', w'', page, hpage, hrun', haccounted⟩ | ⟨f, w'', -, hends⟩⟩ :=
    accounted_of_buildFromPages SmallListing.rules rfl SmallListing.documented
      (by simp [hlinks]) (by simp [hlinks])
      Corpus.besidePages_standard SmallListing.isClear (fun f w₁ hf => by
        rw [hrun] at hf
        cases hf)
  · obtain rfl := Except.ok.inj (SmallListing.index_markup.symm.trans hindex)
    obtain rfl := Except.ok.inj (SmallListing.convertPage_overview.symm.trans hpage)
    exact ⟨r', w'', hrun', haccounted⟩
  · rw [hrun] at hends
    cases hends

end CrateBook.Build
