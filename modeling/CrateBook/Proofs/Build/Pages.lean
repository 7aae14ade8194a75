import CrateBook.Proofs.Build.Outcome
import CrateBook.Proofs.Listing.Index
import CrateBook.Proofs.Listing.MarkdownPath
import CrateBook.Proofs.Page.Stray

/-!
# Building from pages

A page can be converted when it is a file, its bytes are text and it has a main element
(`convertPage_ok_iff`), unless its path or the class table is unusable (`of_convertPage_fault`);
what names such a page has a Markdown path (`markdownPath_of_convertPage`). A build from pages that
has read its overview and its listing goes on to the end: `run_fromPages`, and `of_run_fromPages`
the other way round.
-/

namespace CrateBook

namespace Disk

variable {d : Disk} {p : Path} {place q : List String} {names : List String}

theorem directory_of_walkFrom {name : String} (h : d.walkFrom place (names ++ [name]) = .ok q) :
    d.entry? (names.foldl step place) = some .directory := by
  induction names generalizing place with
  | nil => exact (walkFrom_cons_eq_ok.1 h).1
  | cons first names ih => exact ih (walkFrom_cons_eq_ok.1 h).2.2

/-- What is read from inside a directory shows that the directory is there. -/
theorem directory_of_read {docs : Path} {name s : String} (hname : Path.IsName name)
    (h : d.read (docs.child name) = .ok s) : d.entry? docs.place = some .directory := by
  obtain ⟨bytes, t, hfind, -⟩ := find_of_read h
  obtain ⟨hwalk, -⟩ := find_eq_file.1 hfind
  rw [Path.child_name hname] at hwalk
  exact directory_of_walkFrom (walk_eq_ok.1 hwalk).2

end Disk

namespace Build

open Corpus (Built Resolver)

variable {disk : Disk} {skip : Page.SkipRules} {docs p : Path} {text fragment : String}

/-! ## Pages that can be converted -/

/-- There is a page at the path: a file whose bytes are text, with a main element. -/
def IsPage (disk : Disk) (p : Path) : Prop :=
  ∃ bytes s, disk.find p = .ok (.file bytes) ∧ Text.Utf8.decode bytes = .ok s ∧
    Page.mainElement? (Html.parse (Text.withLineFeeds s)) ≠ none

theorem convertPage_eq_ok : convertPage disk skip p = .ok text ↔
    ∃ markup, disk.read p = .ok markup ∧
      Page.markdown? skip (Html.parse markup) = some text ∧
      Page.strays skip (Html.parse markup) = false := by
  rw [convertPage]
  cases hread : disk.read p with
  | error f => simp
  | ok markup =>
    simp only [Except.ok.injEq, exists_eq_left']
    rw [Page.markdown]
    cases Page.markdown? skip (Html.parse markup) with
    | none => simp
    | some s => cases Page.strays skip (Html.parse markup) <;> simp

theorem badPage_of_convertPage {problem : Problem}
    (h : convertPage disk skip p = .error (.problem problem)) :
    ∃ cause, problem = .badPage p.toString cause := by
  rw [convertPage] at h
  split at h
  · rename_i f _
    cases hf : isOfFile f with
    | true =>
      rw [hf] at h
      exact ⟨f.message, by cases h; rfl⟩
    | false =>
      rw [hf] at h
      cases h
  · dsimp only at h
    split at h
    · exact ⟨_, by cases h; rfl⟩
    · split at h <;> cases h

/-- The fault of an entry of the class table that is no text. -/
def strayFault : Fault := .typeMismatch "an entry of the class table is no text"

/-- Only a path with a null character, or an entry of the class table that is no text, is more than
a problem of the page. -/
theorem of_convertPage_fault {f : Fault} (h : convertPage disk skip p = .error (.fault f)) :
    (f = .nullInPath ∧ p.hasNull = true) ∨ f = strayFault ∧ skip.stray ≠ none := by
  rw [convertPage] at h
  split at h
  · rename_i g hread
    cases hg : isOfFile g with
    | true =>
      rw [hg] at h
      cases h
    | false =>
      rw [hg] at h
      cases h
      obtain ⟨o, ho, rfl⟩ | rfl | ⟨fault, rfl⟩ := Disk.read_error hread
      · cases o with
        | null => exact .inl ⟨rfl, Disk.hasNull_of_find ho⟩
        | missing | file | tooLong => cases hg
      · cases hg
      · cases hg
  · rename_i markup _
    dsimp only at h
    split at h
    · cases h
    · split at h
      · rename_i hstrays
        cases h
        refine .inr ⟨rfl, fun hstray => ?_⟩
        rw [Page.strays_of_stray_eq_none hstray] at hstrays
        cases hstrays
      · cases h

theorem convertPage_ne_fault (hstray : skip.stray = none) (hnull : p.hasNull = false) (f : Fault) :
    convertPage disk skip p ≠ .error (.fault f) := by
  intro h
  rcases of_convertPage_fault h with ⟨-, hp⟩ | ⟨-, hs⟩
  · rw [hnull] at hp
    cases hp
  · exact hs hstray

theorem isPage_of_convertPage (h : convertPage disk skip p = .ok text) : IsPage disk p := by
  obtain ⟨markup, hread, hmarkdown, -⟩ := convertPage_eq_ok.1 h
  obtain ⟨bytes, s, hfind, hs, rfl⟩ := Disk.find_of_read hread
  refine ⟨bytes, s, hfind, hs, fun hnone => ?_⟩
  rw [Page.markdown?, hnone] at hmarkdown
  cases hmarkdown

theorem convertPage_of_isPage (skip : Page.SkipRules) (h : IsPage disk p) :
    (∃ text, convertPage disk skip p = .ok text) ∨
      ∃ f, convertPage disk skip p = .error (.fault f) := by
  obtain ⟨bytes, s, hfind, hs, hmain⟩ := h
  obtain ⟨e, he⟩ := Option.ne_none_iff_exists'.1 hmain
  have hread := Disk.read_of_decode hfind hs
  simp only [convertPage, hread, Page.markdown, Page.markdown?, he, Option.map_some]
  cases Page.strays skip (Html.parse (Text.withLineFeeds s)) with
  | true => exact .inr ⟨_, rfl⟩
  | false => exact .inl ⟨_, rfl⟩

/-- A page can be converted when it is one, if no more than the page can be wrong. -/
theorem convertPage_ok_iff (hnone : ∀ f, convertPage disk skip p ≠ .error (.fault f)) :
    (∃ text, convertPage disk skip p = .ok text) ↔ IsPage disk p := by
  refine ⟨fun ⟨_, h⟩ => isPage_of_convertPage h, fun h => ?_⟩
  rcases convertPage_of_isPage skip h with hok | ⟨f, hf⟩
  · exact hok
  · exact absurd hf (hnone f)

/-- The path to a page has no null character. -/
theorem IsPage.not_hasNull (h : IsPage disk p) : p.hasNull = false := by
  obtain ⟨bytes, s, hfind, -⟩ := h
  exact Disk.not_hasNull_of_walk (Disk.find_eq_file.1 hfind).1

/-- What leads to a page that can be converted names a page. -/
theorem markdownPath_of_convertPage (hdocs : disk.entry? docs.place = some .directory)
    (h : convertPage disk skip (docs.child fragment) = .ok text) :
    ∃ page, Listing.markdownPath fragment = .ok page := by
  obtain ⟨markup, hread, -⟩ := convertPage_eq_ok.1 h
  obtain ⟨bytes, t, hfind, -⟩ := Disk.find_of_read hread
  have hfile := Disk.file?_eq_some.1 (Disk.find_eq_file.1 hfind).2
  refine ⟨_, Listing.markdownPath_eq_ok.2 ⟨fun hname => ?_, rfl⟩⟩
  -- A fragment without a name leads to a directory, either `docs` itself or the root.
  have hparts : (Path.ofString fragment).parts = [] := by
    cases hlast : (Path.ofString fragment).parts.getLast? with
    | none => exact List.getLast?_eq_none_iff.1 hlast
    | some last =>
      have hclean := (Path.clean_ofString fragment).parts last (List.mem_of_getLast? hlast)
      rw [Path.name, hlast] at hname
      exact absurd hname hclean.1
  rw [Path.child, Path.join, hparts, List.append_nil] at hfile
  split at hfile
  · rename_i hroot
    have hplace : Path.place (Path.ofString fragment) = ["/"] := by
      rw [Path.place, hparts, List.foldl_nil, Disk.start, if_neg (by simpa using hroot)]
    rw [hplace] at hfile
    cases hfile
  · rw [show Path.place ⟨docs.root, docs.parts⟩ = docs.place from rfl, hdocs] at hfile
    cases hfile

/-! ## Runs -/

variable {library : LibraryName} {config : Json} {built : Built} {ns ns' : List Notice}
  {index : List (String × String)} {page all : String}

/-- What a build from pages reads before it turns to items: the rules on what is skipped, the index
of the listing, and the pages of the library itself. -/
structure Opening (disk : Disk) (library : LibraryName) (docs : Path) (config : Json)
    (skip : Page.SkipRules) (index : List (String × String)) (page all : String) : Prop where
  rules : (do Page.SkipRules.default.extendedBy (← config.member "skip")) = .ok skip
  index : ∃ markup, disk.read (docs.child "all.html") = .ok markup ∧
    Listing.index library.canonical (Html.parse markup) = .ok index
  page : convertPage disk skip (docs.child "index.html") = .ok page
  all : convertPage disk skip (docs.child "all.html") = .ok all

/-- The items of an index in the order of their full paths. -/
def sortedEntries (index : List (String × String)) : List (String × String) :=
  index.mergeSort fun a b => Text.le a.1 b.1

/-- What is built from the pages of a listing. -/
abbrev builtPages (disk : Disk) (library : LibraryName) (docs : Path) (config : Json)
    (skip : Page.SkipRules) (index : List (String × String)) (page all : String) : Built :=
  builtFrom library config (overview page (index.map (·.2)))
    (Listing.page library.canonical all)
    ((sortedEntries index).map (entryOutcome disk skip docs))

theorem of_run_fromPages (h : (fromPages disk library docs config).run ns = (.ok built, ns')) :
    ∃ skip index page all, Opening disk library docs config skip index page all ∧
      built = builtPages disk library docs config skip index page all := by
  obtain ⟨skip, _, hskip, h⟩ := of_run_bind h
  obtain ⟨failFast, _, _, h⟩ := of_run_bind h
  obtain ⟨_, _, _, h⟩ := of_run_bind h
  obtain ⟨_, _, _, h⟩ := of_run_bind h
  obtain ⟨_, _, _, h⟩ := of_run_bind h
  obtain ⟨markup, _, hmarkup, h⟩ := of_run_bind h
  obtain ⟨_, _, _, h⟩ := of_run_bind h
  obtain ⟨index, _, hindex, h⟩ := of_run_bind h
  obtain ⟨_, _, _, h⟩ := of_run_bind h
  obtain ⟨page, _, hpage, h⟩ := of_run_bind h
  obtain ⟨all, _, hall, h⟩ := of_run_bind h
  refine ⟨skip, index, page, all, ⟨(of_run_orFault hskip).1,
    ⟨markup, (of_run_orFault hmarkup).1, (of_run_orProblem hindex).1⟩,
    (of_run_orFailure hpage).1, (of_run_orFailure hall).1⟩, convertItems_ok h⟩

/-- The documentation of a library whose overview can be converted is in a directory. -/
theorem Opening.directory (h : Opening disk library docs config skip index page all) :
    disk.entry? docs.place = some .directory := by
  obtain ⟨markup, hread, -⟩ := convertPage_eq_ok.1 h.page
  have hname : Path.IsName "index.html" := by decide
  exact Disk.directory_of_read hname hread

theorem run_requirePage {markup : String} (h : disk.read p = .ok markup) (ns : List Notice) :
    (requirePage disk library p).run ns = (.ok (), ns) := by
  obtain ⟨bytes, t, hfind, -⟩ := Disk.find_of_read h
  rw [requirePage, run_bind (run_orFault (Disk.has_of_find hfind) ns)]
  rfl

/-- The fault of one of the pages that a build reads. -/
def IsPageFault (disk : Disk) (skip : Page.SkipRules) (docs : Path) (index : List (String × String))
    (f : Fault) : Prop :=
  ∃ fragment ∈ "index.html" :: "all.html" :: index.map (·.2),
    convertPage disk skip (docs.child fragment) = .error (.fault f)

/-- A build from pages whose own pages are there goes on to the end, unless more than a page is
wrong. -/
theorem run_fromPages_cases {markup : String}
    (hrules : (do Page.SkipRules.default.extendedBy (← config.member "skip")) = .ok skip)
    (hfast : failsFast config = .ok false) (hpage : IsPage disk (docs.child "index.html"))
    (hall : IsPage disk (docs.child "all.html"))
    (hread : disk.read (docs.child "all.html") = .ok markup)
    (hindex : Listing.index library.canonical (Html.parse markup) = .ok index) (ns : List Notice) :
    (∃ page all ns', Opening disk library docs config skip index page all ∧
      (∀ entry ∈ index, ∀ f, convertPage disk skip (docs.child entry.2) ≠ .error (.fault f)) ∧
      (fromPages disk library docs config).run ns =
        (.ok (builtPages disk library docs config skip index page all), ns')) ∨
    ∃ f ns', IsPageFault disk skip docs index f ∧
      (fromPages disk library docs config).run ns = (.error (.fault f), ns') := by
  obtain ⟨bytes, s, hfind, hs, -⟩ := id hpage
  rw [fromPages, run_bind (run_orFault hrules _), run_bind (run_orFault hfast _)]
  dsimp only
  rw [run_bind (run_requirePage (Disk.read_of_decode hfind hs) _),
    run_bind (run_requirePage hread _),
    run_bind (x := report (.reading docs)) (a := ()) (t := ns ++ [.reading docs]) rfl,
    run_bind (run_orFault hread _), run_bind (run_reportAll _ _ _),
    run_bind (run_orProblem hindex _), run_bind (x := report _) (a := ()) rfl]
  dsimp only
  rcases convertPage_of_isPage skip hpage with ⟨page, hpage⟩ | ⟨f, hf⟩
  · rcases convertPage_of_isPage skip hall with ⟨all, hall⟩ | ⟨f, hf⟩
    · have hopen : Opening disk library docs config skip index page all :=
        ⟨hrules, ⟨markup, hread, hindex⟩, hpage, hall⟩
      rw [run_bind (run_orFailure hpage _), run_bind (run_orFailure hall _)]
      have hpaths : ∀ entry ∈ sortedEntries index, ∀ text,
          convertPage disk skip (docs.child entry.2) = .ok text →
            ∃ page, Listing.markdownPath entry.2 = .ok page :=
        fun _ _ _ htext => markdownPath_of_convertPage hopen.directory htext
      rcases convertItems_cases hpaths _ with
        ⟨hnone, ns', hrun⟩ | ⟨entry, hentry, f, ns', hf, hrun⟩
      · exact .inl ⟨page, all, ns', hopen,
          fun entry he => hnone entry (List.mem_mergeSort.2 he), hrun⟩
      · have hmem := List.mem_map_of_mem (f := (·.2)) (List.mem_mergeSort.1 hentry)
        exact .inr ⟨f, ns', ⟨_, List.mem_cons_of_mem _ (List.mem_cons_of_mem _ hmem), hf⟩, hrun⟩
    · rw [run_bind (run_orFailure hpage _), hf]
      exact .inr ⟨f, _, ⟨_, List.mem_cons_of_mem _ List.mem_cons_self, hf⟩, run_bind_error rfl⟩
  · rw [hf]
    exact .inr ⟨f, _, ⟨_, List.mem_cons_self, hf⟩, run_bind_error rfl⟩

/-- A build from pages goes on to the end when it has come to the items. -/
theorem run_fromPages (h : Opening disk library docs config skip index page all)
    (hfast : failsFast config = .ok false)
    (hnone : ∀ entry ∈ index, ∀ f, convertPage disk skip (docs.child entry.2) ≠ .error (.fault f))
    (ns : List Notice) : ∃ ns', (fromPages disk library docs config).run ns =
      (.ok (builtPages disk library docs config skip index page all), ns') := by
  obtain ⟨markup, hread, hindex⟩ := h.index
  rcases run_fromPages_cases h.rules hfast (isPage_of_convertPage h.page)
    (isPage_of_convertPage h.all) hread hindex ns with
    ⟨page', all', ns', hopen, -, hrun⟩ | ⟨f, -, ⟨fragment, hfragment, hf⟩, -⟩
  · obtain rfl := Except.ok.inj (hopen.page.symm.trans h.page)
    obtain rfl := Except.ok.inj (hopen.all.symm.trans h.all)
    exact ⟨ns', hrun⟩
  · rcases List.mem_cons.1 hfragment with rfl | hfragment
    · exact absurd (h.page.symm.trans hf) (by simp)
    rcases List.mem_cons.1 hfragment with rfl | hfragment
    · exact absurd (h.all.symm.trans hf) (by simp)
    obtain ⟨entry, hentry, rfl⟩ := List.mem_map.1 hfragment
    exact absurd hf (hnone entry hentry f)

/-! ## What becomes of the items of an index -/

variable {entries : List (String × String)}

theorem map_itemPath_entryOutcome (disk : Disk) (skip : Page.SkipRules) (docs : Path)
    (entries : List (String × String)) :
    (entries.map (entryOutcome disk skip docs)).map Outcome.itemPath = entries.map (·.1) := by
  rw [List.map_map]
  refine List.map_congr_left fun entry _ => ?_
  rw [Function.comp_apply, entryOutcome]
  split <;> rfl

/-- An item of a listing and its page. -/
theorem mem_pages_entries {e : String × String × String} :
    e ∈ pages (entries.map (entryOutcome disk skip docs)) ↔
      ∃ entry ∈ entries, e.1 = entry.1 ∧ Listing.markdownPath entry.2 = .ok e.2.1 ∧
        convertPage disk skip (docs.child entry.2) = .ok e.2.2 := by
  obtain ⟨itemPath, page, text⟩ := e
  rw [pages, List.filterMap_map, List.mem_filterMap]
  refine exists_congr fun entry => and_congr_right fun _ => ?_
  rw [Function.comp_apply, entryOutcome]
  cases convertPage disk skip (docs.child entry.2) <;> cases Listing.markdownPath entry.2 <;>
    simp [Outcome.page?, eq_comm]

/-- What could be read has no null character in its path, and neither has its page. -/
theorem not_hasNull_of_mem_pages {e : String × String × String}
    (he : e ∈ pages (entries.map (entryOutcome disk skip docs))) :
    (Path.ofString e.2.1).hasNull = false := by
  obtain ⟨entry, -, -, hpath, htext⟩ := mem_pages_entries.1 he
  rw [← Bool.not_eq_true]
  intro hnull
  have hchild : (docs.child entry.2).hasNull = true :=
    Path.hasNull_child_of_ofString (Listing.hasNull_markdownPath hpath hnull)
  rw [(isPage_of_convertPage htext).not_hasNull] at hchild
  cases hchild

theorem not_hasNull_builtPages {name : String} (hname : name ∈
      (builtPages disk library docs config skip index page all).files.map (·.1)) :
    (Path.ofString name).hasNull = false := by
  rcases mem_keys_files.1 hname with ⟨e, he, rfl⟩ | rfl | rfl
  · exact not_hasNull_of_mem_pages he
  · rfl
  · rfl

end Build

end CrateBook
