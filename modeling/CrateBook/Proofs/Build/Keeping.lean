import CrateBook.Proofs.Build.Accounting
import CrateBook.Proofs.Build.Dump

/-!
# Pages that are kept

The item map is keyed by the names of items and the files of a corpus by their pages, so an item can
take the key of another one, or its page. In a listing the last link of a name takes the key: its
page is in the item map, and the page of an earlier link only if it is also that of a last link. In
a dump the last item with a name of a page takes the page. `pages_kept` says both.
-/

namespace CrateBook.Build

open Corpus (Built Names Report Resolver)
open Listing (Link)
open Rustdoc (Crate Item)

/-! ## Fragments of a listing -/

section

variable {fragment fragment' page page' : String} {out : Path}

/-- The fragment names directories, and in them the kind and the name of an item with the extension
of a page. -/
def IsListed (fragment : String) : Prop :=
  ∃ dirs kind name, fragment = "/".intercalate (dirs ++ [kind ++ "." ++ name ++ ".html"]) ∧
    (∀ d ∈ dirs, Path.IsPlain d) ∧ '/' ∉ kind.toList ∧ '/' ∉ name.toList

/-- The page of a listed fragment has a place inside the directory of the corpus. -/
theorem IsListed.place (h : IsListed fragment) (out : Path) :
    ∃ dirs base page, fragment = "/".intercalate (dirs ++ [base ++ ".html"]) ∧
      '.' ∈ base.toList ∧ Listing.markdownPath fragment = .ok page ∧
      (out.child page).place = out.place ++ (dirs ++ [base ++ ".md"]) := by
  obtain ⟨dirs, kind, name, rfl, hdirs, hkind, hname⟩ := h
  have hslash : '/' ∉ (kind ++ "." ++ name).toList := by
    simp [hkind, hname]
  have hdot : '.' ∈ (kind ++ "." ++ name).toList := by simp
  have hne : kind ++ "." ++ name ≠ "" := by
    rintro he
    rw [he] at hdot
    cases hdot
  have hlast := isPlain_append_md hslash
  have hplain : ∀ n ∈ dirs ++ [kind ++ "." ++ name ++ ".md"], Path.IsPlain n := by
    intro n hn
    rcases List.mem_append.1 hn with hn | hn
    · exact hdirs n hn
    · exact List.mem_singleton.1 hn ▸ hlast
  refine ⟨dirs, kind ++ "." ++ name, _, rfl, hdot,
    Listing.markdownPath_html (fun n hn => (hdirs n hn).1) hne hslash, ?_⟩
  rw [Path.child_intercalate fun n hn => (hplain n hn).1]
  exact Path.place_append fun n hn => (hplain n hn).2

/-- Different fragments have their pages in different places. -/
theorem IsListed.eq_of_place (h : IsListed fragment) (h' : IsListed fragment')
    (hpage : Listing.markdownPath fragment = .ok page)
    (hpage' : Listing.markdownPath fragment' = .ok page')
    (he : (out.child page).place = (out.child page').place) : fragment = fragment' := by
  obtain ⟨dirs, base, _, rfl, -, hpath, hplace⟩ := h.place out
  obtain ⟨dirs', base', _, rfl, -, hpath', hplace'⟩ := h'.place out
  obtain rfl := Except.ok.inj (hpath.symm.trans hpage)
  obtain rfl := Except.ok.inj (hpath'.symm.trans hpage')
  rw [hplace, hplace', List.append_cancel_left_eq] at he
  obtain ⟨rfl, hlast⟩ := List.append_inj' he rfl
  have hbase : base = base' := by
    simpa [← String.toList_inj] using List.singleton_inj.1 hlast
  rw [hbase]

/-- No listed fragment has a page with the name of a page of the library itself. -/
theorem IsListed.place_ne (h : IsListed fragment) (hpage : Listing.markdownPath fragment = .ok page)
    (base : String) (hslash : '/' ∉ base.toList) (hdot : '.' ∉ base.toList) :
    (out.child page).place ≠ (out.child (base ++ ".md")).place := by
  obtain ⟨dirs, base', _, -, hdot', hpath, hplace⟩ := h.place out
  obtain rfl := Except.ok.inj (hpath.symm.trans hpage)
  rw [hplace, Path.place_child_name (isPlain_append_md hslash)]
  intro he
  rw [List.append_cancel_left_eq, ← List.nil_append [base ++ ".md"]] at he
  obtain ⟨-, hlast⟩ := List.append_inj' he rfl
  have hbase : base' = base := by
    simpa [← String.toList_inj] using List.singleton_inj.1 hlast
  exact hdot (hbase ▸ hdot')

/-- The fragment is where the last link of some name leads. -/
def IsLast (links : List Link) (fragment : String) : Prop :=
  ∃ name before after, links = before ++ ⟨name, some fragment⟩ :: after ∧
    ∀ l ∈ after, l.name ≠ name

theorem isLast_iff {links : List Link} (library : String) (h : ∀ l ∈ links, l.fragment ≠ none) :
    IsLast links fragment ↔ ∃ key, (key, fragment) ∈ Listing.indexOf library links := by
  simp only [Listing.mem_indexOf h]
  refine ⟨?_, ?_⟩
  · rintro ⟨name, before, after, hsplit, hafter⟩
    exact ⟨_, name, before, after, rfl, hsplit, hafter⟩
  · rintro ⟨_, name, before, after, -, hsplit, hafter⟩
    exact ⟨name, before, after, hsplit, hafter⟩

end

/-! ## Listed pages -/

section

variable {disk d : Disk} {library : LibraryName} {config : Json} {docs out : Path}
  {skip : Page.SkipRules} {links : List Link}
  {page all overviewText sidecar report fragment text : String}
  (hopen : Opening disk library docs config skip (Listing.indexOf library.canonical links)
    overviewText all)
  (hleads : ∀ l ∈ links, l.fragment ≠ none)
  (hlisted : ∀ fragment ∈ Listing.fragmentsOf links, IsListed fragment)

include hleads hlisted

/-- A page of an item comes from the fragment that it is the page of. -/
theorem fragment_eq (out : Path) {e : String × String × String}
    (he : e ∈ pages ((sortedEntries (Listing.indexOf library.canonical links)).map
      (entryOutcome disk skip docs)))
    (hf : IsListed fragment) (hpath : Listing.markdownPath fragment = .ok page)
    (hplace : (out.child e.2.1).place = (out.child page).place) :
    (e.1, fragment) ∈ Listing.indexOf library.canonical links ∧ e.2.1 = page ∧
      convertPage disk skip (docs.child fragment) = .ok e.2.2 := by
  obtain ⟨⟨key, fragment'⟩, hentry, hkey, hpath', htext⟩ := mem_pages_sortedEntries.1 he
  have hf' := hlisted fragment' (Listing.mem_fragmentsOf hleads hentry)
  obtain rfl := hf'.eq_of_place hf hpath' hpath hplace
  exact ⟨hkey ▸ hentry, Except.ok.inj (hpath'.symm.trans hpath), htext⟩

/-- The page of a link is in the item map just when a last link leads there. -/
theorem exists_lookup_iff (hf : IsListed fragment)
    (hpath : Listing.markdownPath fragment = .ok page)
    (htext : convertPage disk skip (docs.child fragment) = .ok text) :
    (∃ k, (builtPages disk library docs config skip (Listing.indexOf library.canonical links)
      overviewText all).itemMap.lookup k = some page) ↔ IsLast links fragment := by
  rw [isLast_iff library.canonical hleads]
  refine ⟨?_, ?_⟩
  · rintro ⟨k, hk⟩
    rw [itemMap_builtFrom] at hk
    rcases Json.mem_of_lookup_setMembers hk with hmem | ⟨-, hnone⟩
    · obtain ⟨e, he, hpair⟩ := List.mem_map.1 hmem
      obtain ⟨rfl, rfl⟩ := Prod.mk.inj hpair
      exact ⟨_, (fragment_eq hleads hlisted ⟨"", []⟩ he hf hpath rfl).1⟩
    · cases hnone
  · rintro ⟨key, hentry⟩
    have he : (key, page, text) ∈ pages ((sortedEntries (Listing.indexOf library.canonical
        links)).map (entryOutcome disk skip docs)) :=
      mem_pages_sortedEntries.2 ⟨_, hentry, rfl, hpath, htext⟩
    refine ⟨key, lookup_itemMap_builtFrom he fun e' he' hkey => ?_⟩
    exact congrArg (·.2.1) (List.inj_on_of_nodup_map (nodup_pages (Listing.nodup_indexOf _ _))
      he' he hkey)

/-- The file of a listed page that was built holds it. -/
theorem find_listed (hnames : Names config sidecar report)
    (hok : ((builtPages disk library docs config skip (Listing.indexOf library.canonical links)
      overviewText all).applied d library out "html" config).failure = none)
    (hlast : IsLast links fragment) (hf : IsListed fragment)
    (hpath : Listing.markdownPath fragment = .ok page)
    (htext : convertPage disk skip (docs.child fragment) = .ok text)
    (hsidecar : (out.child sidecar).place ≠ (out.child page).place)
    (hreport : (out.child report).place ≠ (out.child page).place) :
    ((builtPages disk library docs config skip (Listing.indexOf library.canonical links)
      overviewText all).applied d library out "html" config).disk.find (out.child page) =
      .ok (.file (Text.Utf8.encode text)) := by
  obtain ⟨key, hentry⟩ := (isLast_iff library.canonical hleads).1 hlast
  have he : (key, page, text) ∈ pages ((sortedEntries (Listing.indexOf library.canonical
      links)).map (entryOutcome disk skip docs)) :=
    mem_pages_sortedEntries.2 ⟨_, hentry, rfl, hpath, htext⟩
  refine Corpus.find_page_of_lookup hnames hok nodup_files_builtFrom
    (lookup_files_builtFrom he fun e' he' hname => ?_) hsidecar hreport fun file hfile hplace => ?_
  · have hplace : (out.child e'.2.1).place = (out.child page).place := by rw [hname]
    obtain ⟨-, -, htext'⟩ := fragment_eq hleads hlisted out he' hf hpath hplace
    exact Except.ok.inj (htext'.symm.trans htext)
  · rcases mem_keys_files.1 (List.mem_map_of_mem hfile) with ⟨e', he', hname⟩ | hname | hname
    · rw [← hname] at hplace ⊢
      exact (fragment_eq hleads hlisted out he' hf hpath hplace).2.1
    · rw [hname] at hplace
      exact absurd hplace.symm (hf.place_ne hpath "index" (by decide) (by decide))
    · rw [hname] at hplace
      exact absurd hplace.symm (hf.place_ne hpath "all" (by decide) (by decide))

end

/-! ## Items of a dump -/

section

variable {library : LibraryName} {crate : Crate} {items : List Item}

/-- The items whose pages can be made, with their pages. -/
def renderedItems (crate : Crate) (items : List Item) : List (Item × String) :=
  items.filterMap fun item => (Rustdoc.itemPage crate item).toOption.map (item, ·)

theorem pages_items (library : LibraryName) (crate : Crate) (items : List Item) :
    pages (items.map (itemOutcome library crate)) = (renderedItems crate items).map fun e =>
      (fullPath library crate e.1, pageName (fullPath library crate e.1), e.2) := by
  rw [pages, List.filterMap_map, renderedItems, List.map_filterMap]
  refine List.filterMap_congr fun item _ => ?_
  rw [Function.comp_apply, itemOutcome]
  cases Rustdoc.itemPage crate item <;> rfl

/-- There is a file for each item just when no two pages have one name. -/
theorem card_places_iff (out : Path) (paths : List String) :
    (paths.map fun path => (out.child (pageName path)).place).toFinset.card = paths.length ↔
      (paths.map pageName).Nodup := by
  have hplaces : (paths.map fun path => (out.child (pageName path)).place) =
      (paths.map pageName).map fun name => out.place ++ [name] := by
    rw [List.map_map]
    exact List.map_congr_left fun path _ => Path.place_child_name (isPlain_pageName path)
  have hinjective : Function.Injective fun name : String => out.place ++ [name] := by
    intro name name' he
    exact List.singleton_inj.1 (List.append_cancel_left he)
  have hcard := Multiset.toFinset_card_eq_card_iff_nodup
    (m := ((paths.map fun path => (out.child (pageName path)).place : List (List String)) :
      Multiset (List String)))
  rw [Multiset.coe_card, List.length_map, Multiset.coe_nodup] at hcard
  rw [← List.nodup_map_iff hinjective, ← hplaces]
  exact hcard

/-- A path made of identifiers. -/
def IsIdentifierPath (path : String) : Prop :=
  ∃ names, names ≠ [] ∧ (∀ n ∈ names, IsIdentifier n) ∧ path = "::".intercalate names

theorem nodup_pageName_iff {paths : List String} (h : ∀ path ∈ paths, IsIdentifierPath path) :
    (paths.map pageName).Nodup ↔ paths.Nodup := by
  refine ⟨List.Nodup.of_map _, fun hnodup => hnodup.map_on fun path hpath path' hpath' he => ?_⟩
  obtain ⟨names, hne, hnames, rfl⟩ := h path hpath
  obtain ⟨names', hne', hnames', rfl⟩ := h path' hpath'
  rw [pageName_injective hnames hne hnames' hne' he]

/-- The file of the last item with a page of that name holds the page of the item. -/
theorem find_rendered {d : Disk} {config : Json} {out : Path}
    {overviewText listing sidecar report text : String} {item : Item}
    {before after : List (Item × String)} (hnames : Names config sidecar report)
    (hok : ((builtItems library crate items config overviewText listing).applied d library out
      "json" config).failure = none)
    (hsplit : renderedItems crate items = before ++ (item, text) :: after)
    (hafter : ∀ e ∈ after, pageName (fullPath library crate e.1) ≠
      pageName (fullPath library crate item))
    (hsidecar : (out.child sidecar).place ≠
      (out.child (pageName (fullPath library crate item))).place)
    (hreport : (out.child report).place ≠
      (out.child (pageName (fullPath library crate item))).place) :
    ((builtItems library crate items config overviewText listing).applied d library out "json"
      config).disk.find (out.child (pageName (fullPath library crate item))) =
      .ok (.file (Text.Utf8.encode text)) := by
  have hlookup : (builtItems library crate items config overviewText listing).files.lookup
      (pageName (fullPath library crate item)) = some text := by
    rw [files_builtFrom, pages_items, hsplit, List.map_map, List.map_append, List.map_cons]
    refine Json.lookup_setMembers_append fun hmem => ?_
    rw [List.map_map] at hmem
    obtain ⟨e, he, hname⟩ := List.mem_map.1 hmem
    exact hafter e he hname
  refine Corpus.find_page_of_lookup hnames hok nodup_files_builtFrom hlookup hsidecar hreport
    fun file hfile hplace => ?_
  rw [Path.place_child_name (plain_files out (List.mem_map_of_mem hfile)).1,
    Path.place_child_name (isPlain_pageName _)] at hplace
  exact List.singleton_inj.1 (List.append_cancel_left hplace)

end

/-! ## Both kinds of build -/

section

variable {library : LibraryName} {config : Json} {docs dump out : Path} {skip : Page.SkipRules}
  {sidecar report markup : String} {ls : List Link} {w w' : Workspace} {r : Report}

theorem kept_of_buildFromPages
    (hrules : (do Page.SkipRules.default.extendedBy (← config.member "skip")) = .ok skip)
    (hread : w.disk.read (docs.child "all.html") = .ok markup)
    (hlinks : Listing.links (Html.parse markup) = ls)
    (hlisted : ∀ fragment ∈ Listing.fragmentsOf ls, IsListed fragment)
    (hnames : Names config sidecar report)
    (hne : (out.child sidecar).place ≠ (out.child report).place)
    (hapart : ∀ fragment ∈ Listing.fragmentsOf ls, ∀ page,
      Listing.markdownPath fragment = .ok page →
      (out.child sidecar).place ≠ (out.child page).place ∧
        (out.child report).place ≠ (out.child page).place)
    (hrun : (buildFromPages library docs out config).run w = (.ok r, w')) :
    ∃ s, Corpus.Sidecar.load w'.disk (out.child sidecar) = .ok s ∧
      ∀ fragment ∈ Listing.fragmentsOf ls, ∀ text,
        convertPage w.disk skip (docs.child fragment) = .ok text →
        ∃ page, Listing.markdownPath fragment = .ok page ∧
          ((∃ k, s.itemMap.lookup k = some (.str page)) ↔ IsLast ls fragment) ∧
          (IsLast ls fragment →
            w'.disk.find (out.child page) = .ok (.file (Text.Utf8.encode text))) := by
  obtain ⟨built, ns, hfrom, hok, hdisk, rfl⟩ := of_run_buildFromPages hrun
  obtain ⟨skip', index, overviewText, all, hopen, rfl⟩ := of_run_fromPages hfrom
  obtain rfl := Except.ok.inj (hopen.rules.symm.trans hrules)
  obtain ⟨markup', hread', hindex⟩ := hopen.index
  obtain rfl := Except.ok.inj (hread.symm.trans hread')
  have hread := Listing.index_eq_ok.1 hindex
  rw [hlinks] at hread
  obtain ⟨hleads, -, rfl⟩ := hread
  rw [hdisk]
  refine ⟨_, Corpus.load_sidecar hnames hne hok nodup_itemMap_builtFrom, ?_⟩
  intro fragment hmem text htext
  obtain ⟨page, hpath⟩ := markdownPath_of_convertPage hopen.directory htext
  obtain ⟨hsidecar, hreport⟩ := hapart fragment hmem page hpath
  refine ⟨page, hpath, ?_, fun hlast => ?_⟩
  · have hiff : (∃ k, (builtPages w.disk library docs config skip'
        (Listing.indexOf library.canonical ls) overviewText all).itemMap.lookup k = some page) ↔
        IsLast ls fragment :=
      exists_lookup_iff hleads hlisted (hlisted fragment hmem) hpath htext
    rw [← hiff]
    simp only [Corpus.lookup_sidecar_sorted nodup_itemMap_builtFrom, Option.map_eq_some_iff,
      Json.str.injEq, exists_eq_right]
  · exact find_listed hleads hlisted hnames hok hlast (hlisted fragment hmem) hpath htext hsidecar
      hreport

theorem kept_of_buildFromDump (hnames : Names config sidecar report)
    (hrun : (buildFromDump library dump out config).run w = (.ok r, w')) :
    ∃ crate items, loadCrate w.disk dump = .ok crate ∧ crate.publicItems = .ok items ∧
      r.converted = (renderedItems crate items).map (fun e => fullPath library crate e.1) ∧
      ∀ before item text after, renderedItems crate items = before ++ (item, text) :: after →
        (∀ e ∈ after, pageName (fullPath library crate e.1) ≠
          pageName (fullPath library crate item)) →
        (out.child sidecar).place ≠ (out.child (pageName (fullPath library crate item))).place →
        (out.child report).place ≠ (out.child (pageName (fullPath library crate item))).place →
        w'.disk.find (out.child (pageName (fullPath library crate item))) =
          .ok (.file (Text.Utf8.encode text)) := by
  obtain ⟨built, ns, hfrom, hok, hdisk, rfl⟩ := of_run_buildFromDump hrun
  obtain ⟨crate, items, overview, listing, hcrate, hitems, -, rfl⟩ := of_run_fromDump hfrom
  refine ⟨crate, items, hcrate, hitems, ?_, ?_⟩
  · rw [converted_builtFrom, pages_items, List.map_map]
    rfl
  · intro before item text after hsplit hafter hsidecar hreport
    rw [hdisk]
    exact find_rendered hnames hok hsplit hafter hsidecar hreport

end

/-- **Which pages are kept.** After a build from pages the page of a listed fragment is in the item
map, and its file holds the page, just when a last link leads there. After a build from a dump there
is a file for each item that was converted just when no two of them have pages of one name; the file
holds the page of the last of the items that have it. -/
theorem pages_kept :
    (∀ {library : LibraryName} {config : Json} {docs out : Path} {skip : Page.SkipRules}
      {sidecar report markup : String} {w w' : Workspace} {r : Report} {ls : List Link},
      (do Page.SkipRules.default.extendedBy (← config.member "skip")) = .ok skip →
      w.disk.read (docs.child "all.html") = .ok markup →
      Listing.links (Html.parse markup) = ls →
      (∀ fragment ∈ Listing.fragmentsOf ls, IsListed fragment) →
      Names config sidecar report →
      (out.child sidecar).place ≠ (out.child report).place →
      (∀ fragment ∈ Listing.fragmentsOf ls, ∀ page, Listing.markdownPath fragment = .ok page →
        (out.child sidecar).place ≠ (out.child page).place ∧
          (out.child report).place ≠ (out.child page).place) →
      (buildFromPages library docs out config).run w = (.ok r, w') →
      ∃ s, Corpus.Sidecar.load w'.disk (out.child sidecar) = .ok s ∧
        ∀ fragment ∈ Listing.fragmentsOf ls, ∀ text,
          convertPage w.disk skip (docs.child fragment) = .ok text →
          ∃ page, Listing.markdownPath fragment = .ok page ∧
            ((∃ k, s.itemMap.lookup k = some (.str page)) ↔ IsLast ls fragment) ∧
            (IsLast ls fragment →
              w'.disk.find (out.child page) = .ok (.file (Text.Utf8.encode text)))) ∧
    ∀ {library : LibraryName} {config : Json} {dump out : Path} {sidecar report : String}
      {w w' : Workspace} {r : Report},
      Names config sidecar report →
      (buildFromDump library dump out config).run w = (.ok r, w') →
      ((r.converted.map fun path => (out.child (pageName path)).place).toFinset.card =
        r.converted.length ↔ (r.converted.map pageName).Nodup) ∧
      ((∀ path ∈ r.converted, IsIdentifierPath path) →
        ((r.converted.map pageName).Nodup ↔ r.converted.Nodup)) ∧
      ∃ crate items, loadCrate w.disk dump = .ok crate ∧ crate.publicItems = .ok items ∧
        r.converted = (renderedItems crate items).map (fun e => fullPath library crate e.1) ∧
        ∀ before item text after, renderedItems crate items = before ++ (item, text) :: after →
          (∀ e ∈ after, pageName (fullPath library crate e.1) ≠
            pageName (fullPath library crate item)) →
          (out.child sidecar).place ≠
            (out.child (pageName (fullPath library crate item))).place →
          (out.child report).place ≠
            (out.child (pageName (fullPath library crate item))).place →
          w'.disk.find (out.child (pageName (fullPath library crate item))) =
            .ok (.file (Text.Utf8.encode text)) := by
  refine ⟨?pages, ?dump⟩
  case pages =>
    intro library config docs out skip sidecar report markup w w' r ls
    exact kept_of_buildFromPages
  case dump =>
    intro library config dump out sidecar report w w' r hnames hrun
    exact ⟨card_places_iff out r.converted, nodup_pageName_iff,
      kept_of_buildFromDump hnames hrun⟩

namespace SmallListing

/-- The links of the small listing. -/
def links : List Link :=
  [⟨"S", some "trait.S.html"⟩, ⟨"S", some "derive.S.html"⟩, ⟨"T", some "fn.T.html"⟩]

theorem isListed : ∀ fragment ∈ Listing.fragmentsOf links, IsListed fragment := by
  have hfragments :
      Listing.fragmentsOf links = ["trait.S.html", "derive.S.html", "fn.T.html"] := rfl
  simp only [hfragments, List.forall_mem_cons]
  exact ⟨⟨[], "trait", "S", rfl, by simp, by decide, by decide⟩,
    ⟨[], "derive", "S", rfl, by simp, by decide, by decide⟩,
    ⟨[], "fn", "T", rfl, by simp, by decide, by decide⟩, by simp⟩

theorem places_ne : ∀ fragment ∈ Listing.fragmentsOf links, ∀ page,
    Listing.markdownPath fragment = .ok page →
    (out.child "metadata.json").place ≠ (out.child page).place ∧
      (out.child "build-report.json").place ≠ (out.child page).place := by
  intro fragment _ page hpath
  have hpage : Corpus.IsPageIn out page := Listing.place_child_markdownPath out hpath
  exact ⟨Corpus.besidePages_standard.sidecar_place_ne hpage,
    Corpus.besidePages_standard.report_place_ne hpage⟩

theorem isLast_iff_mem {fragment : String} :
    IsLast links fragment ↔ fragment = "derive.S.html" ∨ fragment = "fn.T.html" := by
  have hindex : Listing.indexOf "lib" links =
      [("lib::S", "derive.S.html"), ("lib::T", "fn.T.html")] := rfl
  rw [isLast_iff "lib" (by decide), hindex]
  simp [exists_or]

end SmallListing

/-- The page of the derive macro is kept, and there is a file for the one item of the dump. -/
theorem pages_kept_derive :
    (∃ r w' s, (buildFromPages ⟨"lib"⟩ SmallListing.docs SmallListing.out Config.standard).run
        SmallListing.workspace = (.ok r, w') ∧
      Corpus.Sidecar.load w'.disk (SmallListing.out.child "metadata.json") = .ok s ∧
      (∃ k, s.itemMap.lookup k = some (.str "derive.S.md")) ∧
      w'.disk.find (SmallListing.out.child "derive.S.md") =
        .ok (.file (Text.Utf8.encode "`B`"))) ∧
    ∃ r w', (buildFromDump ⟨"a"⟩ TwoItems.dump (TwoItems.root.child "a") Config.standard).run
        TwoItems.workspace = (.ok r, w') ∧
      ((r.converted.map fun path =>
        ((TwoItems.root.child "a").child (pageName path)).place).toFinset.card =
        r.converted.length ↔ (r.converted.map pageName).Nodup) := by
  refine ⟨?_, ?_⟩
  · obtain ⟨r, w', hrun⟩ := SmallListing.returns
    obtain ⟨s, hload, hkept⟩ := pages_kept.1 SmallListing.rules SmallListing.read_markup
      SmallListing.links_markup SmallListing.isListed Corpus.besidePages_standard.named
      (Corpus.besidePages_standard.place_ne _) SmallListing.places_ne hrun
    obtain ⟨page, hpath, hiff, hfind⟩ :=
      hkept "derive.S.html" (by decide) "`B`" SmallListing.convertPage_derive
    have hlast := SmallListing.isLast_iff_mem.2 (.inl rfl)
    obtain rfl : page = "derive.S.md" := (Except.ok.inj hpath).symm
    exact ⟨r, w', s, hrun, hload, hiff.2 hlast, hfind hlast⟩
  · obtain ⟨r, w', hrun⟩ := TwoItems.returns
    obtain ⟨hcard, -⟩ := pages_kept.2 Corpus.besidePages_standard.named hrun
    exact ⟨r, w', hrun, hcard⟩

/-- The page of the trait is lost: it can be converted, but no key of the item map leads to it. -/
theorem trait_page_lost : ∃ r w' s,
    (buildFromPages ⟨"lib"⟩ SmallListing.docs SmallListing.out Config.standard).run
      SmallListing.workspace = (.ok r, w') ∧
    Corpus.Sidecar.load w'.disk (SmallListing.out.child "metadata.json") = .ok s ∧
    "trait.S.html" ∈ Listing.fragmentsOf (Listing.links (Html.parse SmallListing.markup)) ∧
    convertPage SmallListing.workspace.disk .default (SmallListing.docs.child "trait.S.html") =
      .ok "`A`" ∧
    Listing.markdownPath "trait.S.html" = .ok "trait.S.md" ∧
    ¬∃ k, s.itemMap.lookup k = some (.str "trait.S.md") := by
  obtain ⟨r, w', hrun⟩ := SmallListing.returns
  obtain ⟨s, hload, hkept⟩ := kept_of_buildFromPages SmallListing.rules SmallListing.read_markup
    SmallListing.links_markup SmallListing.isListed Corpus.besidePages_standard.named
    (Corpus.besidePages_standard.place_ne _) SmallListing.places_ne hrun
  obtain ⟨page, hpath, hiff, -⟩ :=
    hkept "trait.S.html" (by decide) "`A`" SmallListing.convertPage_trait
  obtain rfl : page = "trait.S.md" := (Except.ok.inj hpath).symm
  have hmem : "trait.S.html" ∈
      Listing.fragmentsOf (Listing.links (Html.parse SmallListing.markup)) := by
    rw [SmallListing.links_markup]
    decide
  refine ⟨r, w', s, hrun, hload, hmem, SmallListing.convertPage_trait, hpath, fun hk => ?_⟩
  exact absurd (SmallListing.isLast_iff_mem.1 (hiff.1 hk)) (by decide)

end CrateBook.Build
