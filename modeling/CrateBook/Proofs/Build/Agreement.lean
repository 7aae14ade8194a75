import CrateBook.Proofs.Build.Dump

/-!
# The overview, the listing and the report agree

A build from a dump goes over the public items four times: it groups their names for the overview,
groups their paths for the listing, qualifies the lines of the listing, and writes their pages. When
the items are named by identifiers, all four tell of the same items
(`listing_agrees_of_buildFromDump`).
-/

namespace CrateBook

open Text (EndsSolid IsLine)

theorem IsIdentifier.isLine {s : String} (h : IsIdentifier s) : IsLine s := fun _ hc =>
  Text.isLineEnd_of_isBlank (isBlank_of_isPageChar (isPageChar_of_isIdentifierChar (h.char hc)))

theorem IsIdentifier.endsSolid {s : String} (h : IsIdentifier s) : EndsSolid s := by
  have hne : s.toList ≠ [] := fun hnil => h.1 (String.toList_eq_nil_iff.1 hnil)
  refine ⟨s.toList.getLast hne, List.getLast?_eq_some_getLast hne, ?_⟩
  exact isBlank_of_isPageChar (isPageChar_of_isIdentifierChar (h.char (List.getLast_mem hne)))

namespace Build

open Corpus (Names Report Resolver)
open Rustdoc (Crate Item)

variable {library : LibraryName} {crate : Crate} {items : List Item} {item : Item} {config : Json}
  {dump out : Path} {w w' : Workspace} {r : Report} {overview listing : String}

/-- The items are named by identifiers, and each by more than the name of a crate. -/
structure NamedByIdentifiers (library : LibraryName) (crate : Crate) (items : List Item) :
    Prop where
  library : IsIdentifier library.canonical
  segments : ∀ item ∈ items, 2 ≤ (Text.splitOn (crate.qualifiedName item) "::").length
  identifiers : ∀ item ∈ items, ∀ n ∈ Text.splitOn (crate.qualifiedName item) "::", IsIdentifier n
  kinds : ∀ item ∈ items, IsIdentifier item.kind

/-- The public names by kind, as the overview lists them. -/
def nameGroups (items : List Item) : List (String × List String) :=
  Rustdoc.groupNames (items.map fun i => (Rustdoc.kindLabel i.kind, i.name))

/-- What the overview, the listing and the report on a build say of the public items. -/
structure Agrees (library : LibraryName) (crate : Crate) (items : List Item) (r : Report)
    (overview listing : String) : Prop where
  /-- The listing names the items of the report, each as often as the report does. -/
  entries : (Listing.entryLines listing).Perm
    ((r.converted ++ r.failures.map (·.itemPath)).map ("- " ++ ·))
  /-- What the listing names stands in sections. -/
  sectioned : Listing.entryLines listing =
    (Listing.sections listing).flatMap fun s => s.2.map ("- " ++ ·)
  /-- The overview counts the names of each kind and lists them. -/
  overview : overview = "\n".intercalate (Rustdoc.frontLines crate ++
    Rustdoc.countSection (nameGroups items) ++ (nameGroups items).flatMap Rustdoc.nameLines ++
    Rustdoc.closingLines crate) ++ "\n"
  /-- Its counts add up to the number of items in the listing. -/
  total : ((nameGroups items).map (·.2.length)).sum = (Listing.entryLines listing).length
  /-- Its counts are the numbers of items in the sections of the listing. -/
  counts : (Listing.sections listing).map (fun s => (s.1, s.2.length)) =
    (nameGroups items).map fun g => (Rustdoc.sectionTitle g.1, g.2.length)
  /-- The examples are the first items of the first three sections. -/
  examples : Listing.commandLines listing = "cargo docmd show <ITEM_PATH>" ::
    (if items = [] then [library.canonical ++ "::SomeItem"]
      else ((Listing.sections listing).take 3).filterMap (·.2.head?)).map ("cargo docmd show " ++ ·)

/-! ## Names of items -/

namespace NamedByIdentifiers

variable (h : NamedByIdentifiers library crate items) (hi : item ∈ items)

include h hi

theorem inner_ne_nil : innerNames crate item ≠ [] := by
  intro hnil
  have hlen := congrArg List.length hnil
  rw [innerNames, List.length_drop] at hlen
  have hsegments := h.segments item hi
  simp only [List.length_nil] at hlen
  omega

theorem inner_identifiers : ∀ n ∈ innerNames crate item, IsIdentifier n :=
  fun n hn => h.identifiers item hi n (List.mem_of_mem_drop hn)

theorem endsSolid_intercalate : EndsSolid ("::".intercalate (innerNames crate item)) := by
  obtain ⟨init, last, hsplit⟩ := (List.eq_nil_or_concat' _).resolve_left (h.inner_ne_nil hi)
  have hlast : IsIdentifier last := h.inner_identifiers hi last (by rw [hsplit]; simp)
  obtain ⟨c, hc, hblank⟩ := hlast.endsSolid
  refine ⟨c, ?_, hblank⟩
  rw [hsplit, Text.getLast?_intercalate hlast.1, hc]

theorem innerPath_eq :
    Rustdoc.innerPath crate item = .str ("::".intercalate (innerNames crate item)) := by
  rw [Rustdoc.innerPath, ← innerNames,
    if_neg (by simpa using (h.endsSolid_intercalate hi).ne_empty)]

theorem isLine_innerPath : IsLine (Rustdoc.innerPath crate item).display := by
  rw [h.innerPath_eq hi, Json.display]
  intro c hc
  rcases Text.mem_of_mem_intercalate hc with hc | ⟨n, hn, hc⟩
  · exact (show IsLine "::" by decide) c hc
  · exact (h.inner_identifiers hi n hn).isLine c hc

theorem endsSolid_innerPath : EndsSolid (Rustdoc.innerPath crate item).display := by
  rw [h.innerPath_eq hi, Json.display]
  exact h.endsSolid_intercalate hi

theorem fullPath_eq_innerPath : fullPath library crate item =
    library.canonical ++ "::" ++ (Rustdoc.innerPath crate item).display := by
  rw [fullPath_eq, h.innerPath_eq hi, Json.display,
    String.intercalate_cons_of_ne_nil (h.inner_ne_nil hi)]

end NamedByIdentifiers

/-! ## Sections and examples -/

theorem sum_length_groupNames (named : List (String × Json)) :
    ((Rustdoc.groupNames named).map (·.2.length)).sum = named.length := by
  rw [← List.length_map (fun n : String × Json => (n.1, n.2.display)),
    ← (Rustdoc.perm_groupNames named).length_eq, Rustdoc.members, List.length_flatMap]
  simp

theorem take_filterMap {α β : Type} {f : α → Option β} {l : List α} (h : ∀ a ∈ l, f a ≠ none)
    (n : Nat) : (l.filterMap f).take n = (l.take n).filterMap f := by
  induction l generalizing n with
  | nil => simp
  | cons a l ih =>
    obtain ⟨ha, hl⟩ := List.forall_mem_cons.1 h
    obtain ⟨b, hb⟩ := Option.ne_none_iff_exists'.1 ha
    cases n with
    | zero => rfl
    | succ n =>
      rw [List.filterMap_cons_some hb, List.take_succ_cons, ih hl, List.take_succ_cons,
        List.filterMap_cons_some hb]

/-- The listing of the items, section by section. -/
def pathSections (crate : Crate) (items : List Item) : List (String × List String) :=
  Rustdoc.sectionsOf (Rustdoc.groupNames (items.map fun i =>
    (Rustdoc.kindLabel i.kind, Rustdoc.innerPath crate i)))

theorem ne_nil_of_mem_pathSections (crate : Crate) (items : List Item) :
    ∀ s ∈ pathSections crate items, s.2 ≠ [] := by
  simp only [pathSections, Rustdoc.sectionsOf, List.forall_mem_map]
  exact fun g hg => Rustdoc.ne_nil_of_mem_groupNames _ g hg

theorem perm_pathSections (crate : Crate) (items : List Item) :
    ((pathSections crate items).flatMap (·.2)).Perm
      (items.map fun i => (Rustdoc.innerPath crate i).display) := by
  have hperm := (Rustdoc.perm_groupNames (items.map fun i =>
    (Rustdoc.kindLabel i.kind, Rustdoc.innerPath crate i))).map (·.2)
  rw [List.map_map, List.map_map, Rustdoc.members, List.map_flatMap] at hperm
  rw [pathSections, Rustdoc.sectionsOf, List.flatMap_map]
  simpa [Function.comp_def] using hperm

theorem lengths_pathSections (crate : Crate) (items : List Item) :
    (pathSections crate items).map (fun s => (s.1, s.2.length)) =
      (nameGroups items).map fun g => (Rustdoc.sectionTitle g.1, g.2.length) := by
  have hsizes : Rustdoc.sizes (Rustdoc.groupNames (items.map fun i =>
      (Rustdoc.kindLabel i.kind, Rustdoc.innerPath crate i))) =
        Rustdoc.sizes (nameGroups items) := by
    rw [nameGroups, Rustdoc.sizes_groupNames, Rustdoc.sizes_groupNames]
    simp [Function.comp_def]
  have hlengths := congrArg (List.map fun c => (Rustdoc.sectionTitle c.1, c.2.toNat)) hsizes
  simpa [pathSections, Rustdoc.sectionsOf, Rustdoc.sizes, Function.comp_def] using hlengths

/-! ## Agreement -/

/-- The entries of a listing that has the items of a crate in sections. -/
theorem NamedByIdentifiers.perm_entries (h : NamedByIdentifiers library crate items) :
    (((pathSections crate items).flatMap (·.2)).map fun n =>
      "- " ++ (library.canonical ++ "::" ++ n)).Perm
      ((items.map (fullPath library crate)).map ("- " ++ ·)) := by
  refine ((perm_pathSections crate items).map _).trans (.of_eq ?_)
  rw [List.map_map, List.map_map]
  refine List.map_congr_left fun item hi => ?_
  rw [Function.comp_apply, Function.comp_apply, h.fullPath_eq_innerPath hi]

theorem pathSections_eq_nil (crate : Crate) (items : List Item) :
    pathSections crate items = [] ↔ items = [] := by
  have hperm := perm_pathSections crate items
  constructor
  · intro hnil
    rw [hnil] at hperm
    exact List.map_eq_nil_iff.1 (List.nil_perm.1 hperm)
  · rintro rfl
    refine List.eq_nil_iff_forall_not_mem.2 fun s hs => ne_nil_of_mem_pathSections crate [] s hs ?_
    exact List.flatMap_eq_nil_iff.1 hperm.eq_nil s hs

/-- The examples of a listing whose sections are those of the items. -/
theorem exampleCommands_pathSections (library : String) (crate : Crate) (items : List Item) :
    Listing.exampleCommands library
      (((pathSections crate items).filterMap (·.2.head?)).map (library ++ "::" ++ ·)) =
    (if items = [] then [library ++ "::SomeItem"]
      else (((pathSections crate items).map fun s => (s.1, s.2.map (library ++ "::" ++ ·))).take
        3).filterMap (·.2.head?)).map ("cargo docmd show " ++ ·) := by
  have hne := ne_nil_of_mem_pathSections crate items
  have hhead : ∀ s ∈ pathSections crate items, s.2.head? ≠ none := fun s hs hnone =>
    hne s hs (List.head?_eq_none_iff.1 hnone)
  rw [Listing.exampleCommands]
  by_cases hitems : items = []
  · rw [(pathSections_eq_nil crate items).2 hitems, if_pos hitems]
    simp [String.append_assoc]
  · obtain ⟨s, rest, hs⟩ := List.exists_cons_of_ne_nil
      (mt (pathSections_eq_nil crate items).1 hitems)
    have hexamples : ((pathSections crate items).filterMap (·.2.head?)).map
        (library ++ "::" ++ ·) ≠ [] := by
      obtain ⟨n, hn⟩ := Option.ne_none_iff_exists'.1 (hhead s (hs ▸ List.mem_cons_self))
      rw [hs, List.filterMap_cons, hn]
      simp
    rw [if_neg hexamples, if_neg hitems, ← List.map_take, take_filterMap hhead, ← List.map_take,
      List.filterMap_map, List.map_filterMap]
    simp [Listing.maxExamples]

/-- The pages of the library and the report of a build from a dump agree. -/
theorem NamedByIdentifiers.agrees (h : NamedByIdentifiers library crate items)
    (hitems : crate.publicItems = .ok items)
    (hoverview : Rustdoc.overviewPage crate = .ok overview)
    (hlisting : Rustdoc.listing crate = .ok listing)
    (hr : r = (builtItems library crate items config overview
      (Listing.page library.canonical listing)).report) :
    Agrees library crate items r overview (Listing.page library.canonical listing) := by
  have hlines : Text.lines listing = ("# " ++ "List of all items") ::
      (pathSections crate items).flatMap Listing.sectionLines := Rustdoc.lines_listing hitems
    (fun i hi => Rustdoc.isLine_sectionTitle (Rustdoc.isLine_kindLabel (h.kinds i hi)))
    (fun i hi => ⟨h.isLine_innerPath hi, h.endsSolid_innerPath hi⟩) hlisting
  have hsolid : ∀ s ∈ pathSections crate items, ∀ n ∈ s.2, EndsSolid n := by
    intro s hs n hn
    have hmem := (perm_pathSections crate items).mem_iff.1 (List.mem_flatMap.2 ⟨s, hs, hn⟩)
    obtain ⟨i, hi, rfl⟩ := List.mem_map.1 hmem
    exact h.endsSolid_innerPath hi
  have hlibrary := h.library.isLine
  have hsections := Listing.sections_page_of_sections hlibrary hlines hsolid
  have hentries := Listing.entryLines_page_of_sections hlibrary hlines hsolid
  -- The report lists pages and omissions apart, so its order is not that of the listing.
  have hreport := perm_report_builtItems library crate items config overview
    (Listing.page library.canonical listing)
  have hperm := h.perm_entries.trans (hreport.symm.map ("- " ++ ·))
  rw [← hentries, ← hr] at hperm
  refine ⟨hperm, ?_, Rustdoc.overviewPage_eq hitems hoverview, ?_, ?_, ?_⟩
  · rw [hentries, hsections, List.map_flatMap, List.flatMap_map]
    simp [Function.comp_def]
  · rw [hentries, List.length_map, (perm_pathSections crate items).length_eq, List.length_map,
      nameGroups, sum_length_groupNames, List.length_map]
  · rw [hsections, List.map_map, ← lengths_pathSections crate]
    simp [Function.comp_def]
  · rw [Listing.commandLines_page_of_sections hlibrary hlines hsolid, hsections,
      exampleCommands_pathSections]

/-- No item has a page of the library itself. -/
theorem NamedByIdentifiers.pageName_ne (h : NamedByIdentifiers library crate items) {page : String}
    (hpage : page ∈ [Resolver.overviewName, Resolver.listingName]) :
    ∀ e ∈ pages (items.map (itemOutcome library crate)), e.2.1 ≠ page := by
  intro e he
  obtain ⟨item, hi, text, -, rfl⟩ := mem_pages_items.1 he
  have hinner := List.length_pos_of_ne_nil (h.inner_ne_nil hi)
  have hnames : ∀ n ∈ library.canonical :: innerNames crate item, IsIdentifier n :=
    List.forall_mem_cons.2 ⟨h.library, h.inner_identifiers hi⟩
  rw [fullPath_eq]
  exact pageName_ne_own hnames (by rw [List.length_cons]; omega) hpage

/-- **The overview, the listing and the report agree.** When a build from a dump returns, the
overview and the listing of the library tell of the items of the report. They are found where they
were written, unless the configuration has the sidecar or the report written there too. -/
theorem listing_agrees_of_buildFromDump (hcrate : loadCrate w.disk dump = .ok crate)
    (hitems : crate.publicItems = .ok items) (hnamed : NamedByIdentifiers library crate items)
    (hrun : (buildFromDump library dump out config).run w = (.ok r, w')) :
    ∃ overview listing, Agrees library crate items r overview listing ∧
      ∃ sidecar report, Names config sidecar report ∧
        ∀ page ∈ [(Resolver.overviewName, overview), (Resolver.listingName, listing)],
          (out.child sidecar).place ≠ (out.child page.1).place →
          (out.child report).place ≠ (out.child page.1).place →
          w'.disk.find (out.child page.1) = .ok (.file (Text.Utf8.encode page.2)) := by
  obtain ⟨built, ns, hfrom, hok, hdisk, hr⟩ := of_run_buildFromDump hrun
  obtain ⟨crate', items', overview, listing, hcrate', hitems', hoverview, hlisting, rfl⟩ :=
    crate_of_run_fromDump hfrom
  obtain rfl := Except.ok.inj (hcrate.symm.trans hcrate')
  obtain rfl := Except.ok.inj (hitems.symm.trans hitems')
  obtain ⟨sidecar, report, hnames⟩ := Corpus.exists_names hok
  refine ⟨overview, _, hnamed.agrees hitems hoverview hlisting hr, sidecar, report, hnames,
    fun page hpage hsidecar hreport => ?_⟩
  -- The names of the two files have no hyphen, so no page of an item has replaced them.
  have hlookup : (builtItems library crate items config overview
      (Listing.page library.canonical listing)).files.lookup page.1 = some page.2 := by
    rcases List.mem_pair.1 hpage with rfl | rfl
    · exact lookup_overview_builtFrom (hnamed.pageName_ne (by decide))
    · exact lookup_listing_builtFrom (hnamed.pageName_ne (by decide))
  have hplain := plain_files out (List.mem_map_of_mem
    ((Json.lookup_eq_some_iff_mem nodup_files_builtFrom).1 hlookup))
  rw [hdisk]
  refine Corpus.find_page_of_lookup hnames hok nodup_files_builtFrom hlookup hsidecar hreport
    fun file hfile hplace => ?_
  -- All files are named plainly in one directory, so those in one place have one name.
  have hplain' := plain_files out (List.mem_map_of_mem hfile)
  rw [Path.place_child_name hplain'.1, Path.place_child_name hplain.1] at hplace
  exact List.singleton_inj.1 (List.append_inj' hplace rfl).2

theorem TwoItems.namedByIdentifiers :
    NamedByIdentifiers ⟨"a"⟩ TwoItems.crate [good, bad] where
  library := toldApart.library
  segments := by
    simp only [List.forall_mem_cons, show TwoItems.crate.qualifiedName good = "a::S" from rfl,
      show TwoItems.crate.qualifiedName bad = "a::T" from rfl]
    decide
  identifiers := by
    simp only [List.forall_mem_cons, show TwoItems.crate.qualifiedName good = "a::S" from rfl,
      show TwoItems.crate.qualifiedName bad = "a::T" from rfl]
    decide
  kinds := by
    simp only [List.forall_mem_cons, show good.kind = "macro" from rfl,
      show bad.kind = "constant" from rfl]
    decide

/-- The listing of the two items names both, though only one of them has a page. -/
theorem listing_agrees_two_items : ∃ r w' overview listing, (buildFromDump ⟨"a"⟩ TwoItems.dump
      (TwoItems.root.child "a") Config.standard).run TwoItems.workspace = (.ok r, w') ∧
    Agrees ⟨"a"⟩ TwoItems.crate [TwoItems.good, TwoItems.bad] r overview listing ∧
    w'.disk.find ((TwoItems.root.child "a").child Resolver.listingName) =
      .ok (.file (Text.Utf8.encode listing)) := by
  obtain ⟨r, w', hrun⟩ := TwoItems.returns
  obtain ⟨overview, listing, hagrees, sidecar, report, hnames, hfind⟩ :=
    listing_agrees_of_buildFromDump TwoItems.loadCrate_dump TwoItems.publicItems_crate
      TwoItems.namedByIdentifiers hrun
  have hfiles := Corpus.besidePages_standard
  obtain ⟨rfl, rfl⟩ := hnames.unique hfiles.named
  have hpage := Corpus.isPageIn_append_md (TwoItems.root.child "a") "all" (by decide)
  exact ⟨r, w', overview, listing, hrun, hagrees, hfind (Resolver.listingName, listing) (by simp)
    (hfiles.sidecar_place_ne hpage) (hfiles.report_place_ne hpage)⟩

end Build

end CrateBook
