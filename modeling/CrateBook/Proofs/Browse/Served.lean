import CrateBook.Proofs.Browse.Convergence
import CrateBook.Proofs.Browse.Tasks

/-!
# Pages that are served

A library with a current sidecar is not built before one of its items is looked up. The sidecar was
written by a build with a configuration of the same digest, and the page is the one that this build
has made for the item; but what is read there is what was last written there (`served_pages`). A
later build that stopped before it came to write its sidecar may have written its own page over it
(`HalfBuilt.page_of_stopped_build`).
-/

namespace CrateBook.Browse

open Build (Attempt History NamesSidecar writesOf)
open Corpus (Names Reaches Resolver Sidecar lastText writes)
open Text.Utf8 (encode)
open Work

variable {root page : Path} {kept : List String → Prop} {d₀ d : Disk}
  {as before after : List Attempt} {a : Attempt} {config : Json} {sidecar text : String}
  {path : ItemPath} {r r' : Resolver} {s : Sidecar}

/-- What was read for an item, when `a` had written the sidecar that was current and the builds of
`after` had come later: the page that `a` has made for the item, with the text that was last written
there, which is that of `a` unless something else has been written there since. -/
structure ServedBy (root : Path) (config : Json) (sidecar : String) (path : ItemPath) (page : Path)
    (text : String) (a : Attempt) (after : List Attempt) : Prop where
  library : a.library.canonical = LibraryName.canonical ⟨path.library⟩
  digest : Config.digest a.config = Config.digest config
  recorded : lastText ((root.child a.library.canonical).child sidecar).place (writes a.made) =
    some a.record.text
  last : ∀ b ∈ after,
    lastText ((root.child a.library.canonical).child sidecar).place (writes b.made) = none
  read : ∃ t, lastText page.place (writes a.made ++ writesOf after) = some t ∧
    text = Text.withLineFeeds t
  page : ∃ name own, a.page? path = some name ∧
    page = (root.child a.library.canonical).child name ∧ a.built.files.lookup name = some own ∧
    ((∀ w ∈ writes a.made ++ writesOf after, w.1.place = page.place → w.2 = own) →
      text = Text.withLineFeeds own)

theorem LooksIn.resolve_eq (hr : LooksIn root sidecar d ⟨path.library⟩ r)
    (hload : Sidecar.load d
      ((root.child (LibraryName.canonical ⟨path.library⟩)).child sidecar) = .ok s) :
    (r.resolve d path).2 = Resolver.pagePath ⟨root, .str sidecar, []⟩ path (some s) := by
  obtain ⟨r', hr'⟩ := hr.load hload
  have hroot : r'.root = root := by
    have hfields := (load_fields r d ⟨path.library⟩).1
    rw [hr'] at hfields
    exact hfields.trans hr.rooted
  rw [Resolver.resolve, hr']
  change r'.pagePath path (some s) = _
  simp only [Resolver.pagePath, Resolver.libraryPath, hroot]

/-- A page that is found by a sidecar on disk is the overview or one of its entries. -/
theorem of_resolve (hr : LooksIn root sidecar d ⟨path.library⟩ r)
    (hload : Sidecar.load d
      ((root.child (LibraryName.canonical ⟨path.library⟩)).child sidecar) = .ok s)
    (h : (r.resolve d path).2 = .ok page) :
    ∃ name, page = (root.child (LibraryName.canonical ⟨path.library⟩)).child name ∧
      if path.item?.isNone then name = Resolver.overviewName
      else s.itemMap.lookup (path.qualified (LibraryName.canonical ⟨path.library⟩)) =
        some (.str name) := by
  rw [hr.resolve_eq hload, Resolver.pagePath] at h
  dsimp only [Resolver.libraryPath] at h
  split at h
  · rename_i hnone
    refine ⟨_, (Except.ok.inj h).symm, ?_⟩
    rw [if_pos hnone]
  · rename_i hsome
    split at h
    · cases h
    · cases h
    · rename_i v _ hlookup
      cases v with
      | str name =>
        refine ⟨name, (Except.ok.inj h).symm, ?_⟩
        rw [if_neg hsome]
        exact hlookup
      | _ => cases h

/-- The build that has written a sidecar has made the page that is found by it. -/
theorem page?_of_record {d₁ d₂ : Disk} {name : String} (ha : a.Runs root d₁ d₂)
    (h : if path.item?.isNone then name = Resolver.overviewName
      else a.record.sorted.itemMap.lookup (path.qualified a.library.canonical) = some (.str name)) :
    a.page? path = some name := by
  rw [Attempt.page?]
  split at h
  · rename_i hnone
    rw [if_pos hnone, h]
  · rename_i hsome
    rw [if_neg hsome]
    rw [Attempt.record, Corpus.lookup_sidecar_sorted ha.decides.nodup_itemMap,
      Option.map_eq_some_iff] at h
    obtain ⟨page, hpage, hname⟩ := h
    rw [hpage, Json.str.inj hname]

/-- What is read at the place of a page that `a` has written is what was last written there. -/
theorem lastText_of_read {t : String} (hhistory : History root kept d₀ (before ++ a :: after) d)
    (hkept : kept page.place) (hwritten : .write page t ∈ a.made) (hread : d.read page = .ok text) :
    ∃ t, lastText page.place (writes a.made ++ writesOf after) = some t ∧
      text = Text.withLineFeeds t := by
  obtain ⟨bytes, t₁, hfind, hdecode, rfl⟩ := Disk.find_of_read hread
  obtain ⟨t₂, ht₂⟩ := Corpus.exists_lastText
    (List.mem_append_left (writesOf after) (Corpus.mem_writes.2 hwritten))
  have hlast : lastText page.place (writesOf (before ++ a :: after)) = some t₂ := by
    rw [Build.writesOf_append, Build.writesOf_cons, Corpus.lastText_append, ht₂]
    rfl
  rcases hhistory.file?_of_some hkept (Disk.find_eq_file.1 hfind).2 with
    ⟨t, ht, rfl⟩ | ⟨hnone, -⟩
  · obtain rfl := Option.some.inj (hlast.symm.trans ht)
    rw [Text.Utf8.decode_encode] at hdecode
    exact ⟨t₂, ht₂, congrArg Text.withLineFeeds (Except.ok.inj hdecode).symm⟩
  · rw [hlast] at hnone
    cases hnone

/-- **Pages that are served.** What tasks do is a history of builds. After any history of builds,
with any writes refused, the sidecar of a library that is current was written by a build whose
configuration has the same digest; and the page that is found for an item is the one that this build
has made, with the text that was last written there. -/
theorem served_pages (root : Path) (kept : List String → Prop) (config : Json)
    (hsidecar : Path.IsPlain sidecar)
    (hlibrary : Path.IsPlain (LibraryName.canonical ⟨path.library⟩))
    (hpage : ¬Corpus.IsPageIn (root.child (LibraryName.canonical ⟨path.library⟩)) sidecar)
    (hkept : kept ((root.child (LibraryName.canonical ⟨path.library⟩)).child sidecar).place) :
    (∀ (tasks : List (Json × Task)) (w : Workspace), (∀ task ∈ tasks, NamesSidecar task.1) →
      Gives (IsReplyAt root kept (tasks.map (·.1))) w.cargo →
      ∃ as, History root kept w.disk as (afterTasks tasks w).disk) ∧
    ∀ (d₀ : Disk) (as : List Attempt) (r r' : Resolver) (directory : Option String)
        (w w' : Workspace) (page : Path) (text : String),
      d₀.file? ((root.child (LibraryName.canonical ⟨path.library⟩)).child sidecar).place = none →
      History root kept d₀ as w.disk → LooksIn root sidecar w.disk ⟨path.library⟩ r →
      (ensureBuilt r ⟨path.library⟩ config directory).run w = (.ok (r', false), w') →
      (r'.resolve w'.disk path).2 = .ok page → kept page.place → w'.disk.read page = .ok text →
      ∃ before a after, as = before ++ a :: after ∧
        ServedBy root config sidecar path page text a after := by
  refine ⟨fun tasks w hsidecars hgives => history_afterTasks tasks hsidecars hgives, ?_⟩
  intro d₀ as r r' directory w w' page text hstart hhistory hr hrun hresolve hkeptPage hread
  rcases of_run_ensureBuilt hrun with ⟨-, rfl, s, hload, hcurrent⟩ | ⟨hbuilt, -⟩
  · obtain ⟨hs, hr'⟩ := hr.of_load hload
    -- The sidecar is that of a build `a`, and the page that is found by it is one of that build's.
    obtain ⟨before, a, after, rfl, hcanonical, rfl, hrecorded, hpages, hlast⟩ :=
      hhistory.recorded hlibrary hsidecar hpage hkept hstart hs
    obtain ⟨d₁, d₂, ha⟩ := hhistory.exists_runs (a := a) (by simp)
    obtain ⟨name, rfl, hname⟩ := of_resolve hr' hs hresolve
    rw [← hcanonical] at hname hrecorded hlast hkeptPage hread ⊢
    have hpage := page?_of_record ha hname
    obtain ⟨own, hown⟩ := ha.exists_text hpage
    -- It has written the page before the sidecar, but a later build may have written there too.
    have hwritten := hpages _ ((Json.lookup_eq_some_iff_mem ha.decides.nodup_files).1 hown)
    obtain ⟨t, ht, htext⟩ := lastText_of_read hhistory hkeptPage hwritten hread
    refine ⟨before, a, after, rfl, hcanonical, ?_, hrecorded, hlast, ⟨t, ht, htext⟩,
      name, own, hpage, rfl, hown, fun hsame => ?_⟩
    · have hdigest : a.built.report.digest = Config.digest config := eq_of_beq hcurrent
      exact ha.decides.digest.symm.trans hdigest
    · obtain ⟨q, hq, hplace⟩ := Corpus.mem_of_lastText ht
      obtain rfl : t = own := hsame _ hq hplace
      exact htext
  · cases hbuilt

namespace SharedPage

/-- Cargo describes only the one project, and leaves no files. -/
theorem gives_script (kept : List String → Prop) (configs : List Json)
    (h : ∀ config ∈ configs, ∃ sidecar, config = settings sidecar) :
    Gives (IsReplyAt SharedPage.root kept configs) script := by
  intro e he reply hreply
  have hfiles : reply.files = [] := by
    obtain ⟨r, hr, hnone⟩ := answers_script e he
    rw [hr] at hreply
    obtain rfl := Cargo.Answer.reply.inj (List.mem_singleton.1 hreply)
    exact hnone
  have hstdout : e.1 = " ".intercalate Cargo.metadataArgs →
      reply.stdout = metadata.pretty ++ "\n" := by
    intro hcommand
    have hentry := (Json.lookup_eq_some_iff_mem (by decide)).2 he
    rw [hcommand] at hentry
    have hanswers : e.2 = [.reply { stdout := metadata.pretty ++ "\n" }] :=
      (Option.some.inj hentry).symm
    rw [hanswers] at hreply
    obtain rfl := Cargo.Answer.reply.inj (List.mem_singleton.1 hreply)
    rfl
  refine ⟨fun file hfile => ?_, fun hcommand p hp => ?_⟩
  · rw [hfiles] at hfile
    cases hfile
  · rw [hstdout hcommand, ofText_metadata] at hp
    obtain rfl := Except.ok.inj hp
    refine ⟨fun name hname => ?_, fun config hconfig root' hroot => ?_⟩
    · have hnames : ∀ v ∈ project.dependencies, v = .str "liba" ∨ v = .str "libb" := by
        simp [project]
      rcases hnames _ hname with h | h <;> cases h <;> decide
    · obtain ⟨sidecar, rfl⟩ := h config hconfig
      exact (Except.ok.inj ((outputRoot_project sidecar).symm.trans hroot)).symm

end SharedPage

/-! ## A build that stops before its sidecar -/

namespace HalfBuilt

open Build.SmallListing (document convertPage_of_parse)
open SharedPage (docs markup)

/-- A configuration in which elements with some names are left out. -/
def settings (tags : List Json) : Json := .obj [
  ("output", .obj [("dir_name", .str "docmd"), ("metadata_file", .str "metadata.json"),
    ("report_file", .str "build-report.json")]),
  ("build", .obj [("format", .str "html"), ("fail_fast", .bool false)]),
  ("skip", .obj [("tags", .arr tags), ("ids", .arr []), ("class_substrings", .arr [])])]

/-- Documentation in which the page of the only item is missing. -/
def disk : Disk := ⟨[(["docs"], .directory),
  (["docs", "index.html"], .file (encode "<main><code>L</code></main>")),
  (["docs", "all.html"], .file (encode markup))]⟩

def out : Path := SharedPage.root.child "lib"

theorem named (tags : List Json) : Names (settings tags) "metadata.json" "build-report.json" :=
  ⟨_, rfl, rfl, rfl⟩

/-- The overview of the library, with what is shown of its page. -/
abbrev overviewText (page : String) : String := Build.overview page ["../liba/meta.html"]

abbrev made (tags : List Json) (page listing cause : String) : Corpus.Built :=
  Build.builtFrom ⟨"lib"⟩ (settings tags) (overviewText page) listing
    [.omitted ⟨"lib::S", "../liba/meta.html", cause⟩]

/-- The disk holds the documentation, and no page of the item. -/
structure HoldsDocs (d : Disk) : Prop where
  overview : d.find (docs.child "index.html") = .ok (.file (encode "<main><code>L</code></main>"))
  listing : d.find (docs.child "all.html") = .ok (.file (encode markup))
  item : ∀ markup, d.read (docs.child "../liba/meta.html") ≠ .ok markup

/-- What a build decides on, with rules by which the page of the library is converted. -/
theorem HoldsDocs.decides {d : Disk} (h : HoldsDocs d) {tags : List Json} {skip : Page.SkipRules}
    {page : String}
    (hskip : (do Page.SkipRules.default.extendedBy (← (settings tags).member "skip")) = .ok skip)
    (hstray : skip.stray = none)
    (hpage : Page.markdown? skip (document [.element "code" [] [.text none "L"]]) = some page)
    (hmain : ∃ all, Page.markdown? skip (Html.parse markup) = some all) :
    ∃ listing cause, Build.Source.Decides (.pages docs) d ⟨"lib"⟩ (settings tags)
      (made tags page listing cause) := by
  obtain ⟨all, hall⟩ := hmain
  have hread : d.read (docs.child "all.html") = .ok markup :=
    Disk.read_of_find h.listing SharedPage.return_not_mem_markup
  have hopen : Build.Opening d ⟨"lib"⟩ docs (settings tags) skip _ page all :=
    ⟨hskip, ⟨markup, hread, SharedPage.index_markup "lib"⟩,
      convertPage_of_parse hstray h.overview (by decide) rfl hpage,
      Build.convertPage_eq_ok.2 ⟨markup, hread, hall, Page.strays_of_stray_eq_none hstray _⟩⟩
  have hnull : (docs.child "../liba/meta.html").hasNull = false := by decide
  obtain ⟨ns, hrun⟩ := Build.run_fromPages hopen rfl
    (by simpa using Build.convertPage_ne_fault hstray hnull) []
  have hitem : ∃ cause, Build.entryOutcome d skip docs ("lib::S", "../liba/meta.html") =
      .omitted ⟨"lib::S", "../liba/meta.html", cause⟩ := by
    rw [Build.entryOutcome]
    cases hconvert : Build.convertPage d skip (docs.child "../liba/meta.html") with
    | error problem => exact ⟨_, rfl⟩
    | ok text =>
      obtain ⟨markup', hmarkup, -⟩ := Build.convertPage_eq_ok.1 hconvert
      exact absurd hmarkup (h.item markup')
  obtain ⟨cause, hcause⟩ := hitem
  rw [Build.builtPages, Build.sortedEntries, List.mergeSort_singleton, List.map_singleton,
    List.map_singleton, show "lib" ++ "::" ++ "S" = "lib::S" from rfl, hcause] at hrun
  exact ⟨_, cause, ns, hrun⟩

section

variable (tags : List Json) (page listing cause listing' cause' : String)
  (overview record report overview' : String)

def changes : List Corpus.Change :=
  [.write (out.child "all.md") listing, .write (out.child "index.md") overview,
    .write (out.child "metadata.json") record, .report (.written 2 out),
    .write (out.child "build-report.json") report,
    .report (.failures 1 (out.child "build-report.json"))]

theorem changes_made : (made tags page listing cause).changes ⟨"lib"⟩ out "html" (settings tags) =
    changes listing (overviewText page) ((made tags page listing cause).sidecar ⟨"lib"⟩ "html").text
      (made tags page listing cause).report.text := by
  have hnames : ["index.md", "all.md"].Nodup := by decide
  have horder : ["all.md", "index.md"].Pairwise fun s t => Text.le s t = true := by decide
  have hsorted : ([("index.md", overviewText page), ("all.md", listing)].mergeSort
      fun a b => Text.le a.1 b.1) = [("all.md", listing), ("index.md", overviewText page)] :=
    Json.sorted_eq hnames (List.reverse_perm [_, _])
      ((List.pairwise_map (f := Prod.fst) (R := fun s t => Text.le s t = true)).1 horder)
  have hfiles : (made tags page listing cause).files =
      [("index.md", overviewText page), ("all.md", listing)] := rfl
  have hcomplete : (made tags page listing cause).report.isComplete = false := rfl
  rw [Corpus.changes_eq (named tags), Corpus.fileChanges, Corpus.reportChanges, hcomplete]
  dsimp only
  rw [hfiles, hsorted]
  rfl

/-- The disk after a build that has made all of its changes. -/
def afterAll : Disk := ⟨[
  (["target", "docmd", "lib", "build-report.json"], .file (encode report)),
  (["target", "docmd", "lib", "metadata.json"], .file (encode record)),
  (["target", "docmd", "lib", "index.md"], .file (encode overview)),
  (["target", "docmd", "lib", "all.md"], .file (encode listing)),
  (["target", "docmd", "lib"], .directory),
  (["target", "docmd"], .directory),
  (["target"], .directory)] ++ disk.entries⟩

/-- The disk after another build that has written its pages. -/
def afterPages : Disk := ⟨[
  (["target", "docmd", "lib", "index.md"], .file (encode overview')),
  (["target", "docmd", "lib", "all.md"], .file (encode listing')),
  (["target", "docmd", "lib", "build-report.json"], .file (encode report)),
  (["target", "docmd", "lib", "metadata.json"], .file (encode record)),
  (["target", "docmd", "lib"], .directory),
  (["target", "docmd"], .directory),
  (["target"], .directory)] ++ disk.entries⟩

theorem applyAll_changes : Corpus.applyAll disk (changes listing overview record report) =
    ⟨afterAll listing overview record report,
      [.written 2 out, .failures 1 (out.child "build-report.json")], none⟩ := by
  rfl

/-- The changes of a build that is stopped at its sidecar. -/
def pageChanges : List Corpus.Change :=
  [.write (out.child "all.md") listing, .write (out.child "index.md") overview]

theorem applyAll_pageChanges :
    Corpus.applyAll (afterAll listing overview record report) (pageChanges listing' overview') =
      ⟨afterPages listing' record report overview', [], none⟩ := by
  rfl

/-- The build that has made all of its changes. -/
def first : Attempt where
  source := .pages docs
  library := ⟨"lib"⟩
  config := settings []
  built := made [] "`L`" listing cause
  made := changes listing (overviewText "`L`")
    ((made [] "`L`" listing cause).sidecar ⟨"lib"⟩ "html").text
    (made [] "`L`" listing cause).report.text

/-- The build with other rules, which was stopped at its sidecar. -/
def second : Attempt where
  source := .pages docs
  library := ⟨"lib"⟩
  config := settings [.str "code"]
  built := made [.str "code"] "" listing' cause'
  made := pageChanges listing' (overviewText "")

def afterBoth : Disk :=
  afterPages listing' (first listing cause).record.text (first listing cause).built.report.text
    (overviewText "")

end

theorem reaches_of_applyAll {cs : List Corpus.Change} {d d' : Disk} {ns : List Notice}
    (h : Corpus.applyAll d cs = ⟨d', ns, none⟩) : Reaches d cs cs none d' := by
  obtain ⟨done, hreach, hall⟩ := Corpus.reaches_applyAll d cs
  rw [h] at hreach hall
  rwa [hall rfl] at hreach

theorem namesSidecar (tags : List Json) : NamesSidecar (settings tags) :=
  ⟨_, _, named tags, by decide⟩

theorem canonical : LibraryName.canonical ⟨"lib"⟩ = "lib" := by decide

theorem runs_first {listing cause : String}
    (h : Build.Source.Decides (.pages docs) disk ⟨"lib"⟩ (settings [])
      (made [] "`L`" listing cause)) :
    (first listing cause).Runs SharedPage.root disk
      (afterAll listing (overviewText "`L`") (first listing cause).record.text
        (first listing cause).built.report.text) where
  library := show Path.IsPlain (LibraryName.canonical ⟨"lib"⟩) by decide
  config := namesSidecar []
  decides := h
  reaches := by
    have hchanges : (first listing cause).changes SharedPage.root = (first listing cause).made := by
      rw [Attempt.changes]
      dsimp only [first]
      rw [canonical]
      exact changes_made [] "`L`" listing cause
    rw [hchanges]
    exact ⟨none, reaches_of_applyAll (applyAll_changes _ _ _ _)⟩

theorem runs_second {listing cause listing' cause' : String}
    (h : Build.Source.Decides (.pages docs) (afterAll listing (overviewText "`L`")
        (first listing cause).record.text (first listing cause).built.report.text) ⟨"lib"⟩
      (settings [.str "code"]) (made [.str "code"] "" listing' cause')) :
    (second listing' cause').Runs SharedPage.root
      (afterAll listing (overviewText "`L`") (first listing cause).record.text
        (first listing cause).built.report.text) (afterBoth listing cause listing') where
  library := show Path.IsPlain (LibraryName.canonical ⟨"lib"⟩) by decide
  config := namesSidecar [.str "code"]
  decides := h
  reaches := by
    have hchanges : ∃ rest, (second listing' cause').changes SharedPage.root =
        (second listing' cause').made ++
          .write (out.child "metadata.json") (second listing' cause').record.text :: rest := by
      rw [Attempt.changes]
      dsimp only [second]
      rw [canonical]
      exact ⟨_, changes_made [.str "code"] "" listing' cause'⟩
    obtain ⟨rest, hchanges⟩ := hchanges
    have hreach := reaches_of_applyAll (applyAll_pageChanges listing listing' (overviewText "`L`")
      (first listing cause).record.text (first listing cause).built.report.text (overviewText ""))
    rw [hchanges]
    exact ⟨_, hreach.refuse _ _ "No space left on device" rest⟩

set_option maxRecDepth 4000 in
theorem exists_history : ∃ listing cause listing' cause',
    History SharedPage.root (fun _ => True) disk
      [first listing cause, second listing' cause'] (afterBoth listing cause listing') := by
  have hmain (skip : Page.SkipRules) :
      ∃ all, Page.markdown? skip (Html.parse markup) = some all := by
    rw [SharedPage.parse_markup]
    exact ⟨_, rfl⟩
  have hdocs : HoldsDocs disk := ⟨rfl, rfl, fun _ h => by cases h⟩
  obtain ⟨listing, cause, hfirst⟩ := @HoldsDocs.decides _ hdocs [] _ "`L`" rfl rfl rfl (hmain _)
  have hdocs' : HoldsDocs (afterAll listing (overviewText "`L`") (first listing cause).record.text
      (first listing cause).built.report.text) := ⟨rfl, rfl, fun _ h => by cases h⟩
  obtain ⟨listing', cause', hsecond⟩ :=
    @HoldsDocs.decides _ hdocs' [.str "code"] _ "" rfl rfl rfl (hmain _)
  exact ⟨listing, cause, listing', cause',
    (History.start.attempt (runs_first hfirst)).attempt (runs_second hsecond)⟩

/-- The item path that leads to the overview. -/
def asked : ItemPath := ⟨"lib", "lib", []⟩

theorem holdsCurrent (listing cause listing' : String) :
    HoldsCurrent (settings []) (afterBoth listing cause listing')
      ((SharedPage.root.child (LibraryName.canonical ⟨asked.library⟩)).child "metadata.json") := by
  have htextual : (first listing cause).record.IsTextual :=
    Corpus.isTextual_sidecar Build.nodup_itemMap_builtFrom
  rw [show LibraryName.canonical ⟨asked.library⟩ = "lib" from canonical]
  refine ⟨(first listing cause).record.sorted, Sidecar.load_of_find htextual rfl, ?_⟩
  have hdigest : (first listing cause).built.report.digest = Config.digest (settings []) :=
    digest_addAll
  rw [isCurrent, Sidecar.sorted, Attempt.record, Corpus.Built.sidecar, hdigest]
  exact beq_self_eq_true _

/-- The library is not built again, and its overview is read. -/
theorem served (listing cause listing' : String) : ∃ r',
    (ensureBuilt ⟨SharedPage.root, .str "metadata.json", []⟩ ⟨asked.library⟩ (settings []) none).run
        { disk := afterBoth listing cause listing' } =
      (.ok (r', false), { disk := afterBoth listing cause listing' }) ∧
    (r'.resolve (afterBoth listing cause listing') asked).2 = .ok (out.child "index.md") ∧
    (afterBoth listing cause listing').read (out.child "index.md") =
      .ok (Text.withLineFeeds (overviewText "")) := by
  have hcurrent := holdsCurrent listing cause listing'
  have hfresh := LooksIn.fresh SharedPage.root "metadata.json" (afterBoth listing cause listing')
    ⟨asked.library⟩
  obtain ⟨r', hrun, hr'⟩ :=
    run_ensureBuilt_current (w := { disk := afterBoth listing cause listing' }) hfresh hcurrent none
  obtain ⟨s, hs, -⟩ := hcurrent
  refine ⟨r', hrun, ?_, Disk.read_of_decode rfl (Text.Utf8.decode_encode _)⟩
  rw [hr'.resolve_eq hs, Corpus.Resolver.pagePath, if_pos (show asked.item?.isNone = true from rfl)]
  dsimp only [Corpus.Resolver.libraryPath]
  rw [show LibraryName.canonical ⟨asked.library⟩ = "lib" from canonical]
  rfl

theorem withLineFeeds_overviewText_ne :
    Text.withLineFeeds (overviewText "") ≠ overviewText "`L`" := by
  -- One of them begins with a line feed and the other one with a backquote.
  intro he
  have hhead := congrArg (fun t => t.toList.head?) he
  simp only [overviewText, Build.overview, show Text.trimEnd "" = "" by rfl,
    show Text.trimEnd "`L`" = "`L`" by rfl] at hhead
  simp [Text.withLineFeeds, Text.feedRuns] at hhead

/-- What tasks do in the project of the two libraries is a history. The overview of the half-built
library is served by one of its two builds. -/
theorem served_pages_half_built :
    (∃ as, History SharedPage.root (fun _ => True) SharedPage.workspace.disk as
      (afterTasks [(SharedPage.settings "metadata.json", .answer (.show "liba" none)),
        (SharedPage.settings "metadata.json", .build "libb" none)] SharedPage.workspace).disk) ∧
    ∃ listing cause listing' cause' before a after text,
      [first listing cause, second listing' cause'] = before ++ a :: after ∧
      ServedBy SharedPage.root (settings []) "metadata.json" asked (out.child "index.md") text a
        after := by
  have hplace : ((SharedPage.root.child (LibraryName.canonical ⟨asked.library⟩)).child
      "metadata.json").place = ["target", "docmd", "lib", "metadata.json"] := by decide
  have hpage : ¬Corpus.IsPageIn (SharedPage.root.child (LibraryName.canonical ⟨asked.library⟩))
      "metadata.json" :=
    fun h => Corpus.besidePages_standard.sidecar_place_ne h rfl
  obtain ⟨hhistories, hserved⟩ := @served_pages _ asked SharedPage.root (fun _ => True)
    (settings []) (show Path.IsPlain "metadata.json" by decide) (by decide) hpage trivial
  refine ⟨hhistories _ SharedPage.workspace ?_ ?_, ?_⟩
  · intro task htask
    have hsettings : task.1 = SharedPage.settings "metadata.json" := by
      simp only [List.mem_cons, List.not_mem_nil, or_false] at htask
      rcases htask with rfl | rfl <;> rfl
    rw [hsettings]
    exact ⟨_, _, SharedPage.named "metadata.json", by decide⟩
  · refine SharedPage.gives_script _ _ fun config hconfig => ⟨"metadata.json", ?_⟩
    simpa using hconfig
  · obtain ⟨listing, cause, listing', cause', hhistory⟩ := exists_history
    obtain ⟨r', hrun, hresolve, hread⟩ := served listing cause listing'
    obtain ⟨before, a, after, hsplit, hby⟩ := hserved disk _ _ r' none _ _ _ _
      (by rw [hplace]; rfl) hhistory (LooksIn.fresh _ _ _ _) hrun hresolve trivial hread
    exact ⟨listing, cause, listing', cause', before, a, after, _, hsplit, hby⟩

/-- A library is served with the sidecar of a build with the configuration, and with the overview of
a later build with another one, which was stopped at its sidecar. -/
theorem page_of_stopped_build : ∃ a b d r' t text,
    History SharedPage.root (fun _ => True) disk [a, b] d ∧
    disk.file? (out.child "metadata.json").place = none ∧
    a.config = settings [] ∧ b.config = settings [.str "code"] ∧
    lastText (out.child "metadata.json").place (writes b.made) = none ∧
    (ensureBuilt ⟨SharedPage.root, .str "metadata.json", []⟩ ⟨asked.library⟩ (settings []) none).run
      { disk := d } = (.ok (r', false), { disk := d }) ∧
    (r'.resolve d asked).2 = .ok (out.child "index.md") ∧
    d.read (out.child "index.md") = .ok text ∧
    b.built.files.lookup "index.md" = some t ∧ text = Text.withLineFeeds t ∧
    a.built.files.lookup "index.md" ≠ some text := by
  obtain ⟨listing, cause, listing', cause', hhistory⟩ := exists_history
  obtain ⟨r', hrun, hresolve, hread⟩ := served listing cause listing'
  refine ⟨_, _, _, r', _, _, hhistory, rfl, rfl, rfl, rfl, hrun, hresolve, hread, rfl, rfl, ?_⟩
  intro hown
  exact withLineFeeds_overviewText_ne (Option.some.inj hown).symm

end HalfBuilt

end CrateBook.Browse
