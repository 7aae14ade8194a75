import CrateBook.Proofs.Browse.Session
import CrateBook.Proofs.Build.Accounting

/-!
# Building converges

A library that has been looked after stays built: whoever looks after it again, with the same
configuration, finds its sidecar current and builds nothing (`building_converges`). In a session
this holds until the end as long as no other library can write a page over the sidecar. A sidecar
with the extension of a page can be lost that way (`sidecar_overwritten`).
-/

namespace CrateBook.Browse

open Corpus (Built Change Names Resolver Sidecar)
open Work

/-- **Building converges.** When a library has been looked after, its sidecar is loaded and current,
and whoever looks after it again, in either spelling, with the resolver that is left or with any
other that knows no more than what is on disk, builds nothing and changes nothing. In a steady
session at most one request builds a library, and later requests for it are served from disk. -/
theorem building_converges {config : Json} {sidecar report : String}
    (hnames : Names config sidecar report) :
    (∀ (root : Path) (l : LibraryName) (r r' : Resolver) (directory : Option String)
        (w w' : Workspace) (built : Bool),
      IsRoot w.cargo config root →
      ((root.child l.canonical).child sidecar).place ≠
        ((root.child l.canonical).child report).place →
      LooksIn root sidecar w.disk l r →
      (ensureBuilt r l config directory).run w = (.ok (r', built), w') →
      (∃ s r₁, r'.load w'.disk l = (r₁, .ok (some s)) ∧ isCurrent s config = true) ∧
      LooksIn root sidecar w'.disk l r' ∧
      ∀ (r₁ : Resolver) (l₁ : LibraryName) (directory₁ : Option String),
        l₁.canonical = l.canonical → LooksIn root sidecar w'.disk l r₁ →
        ∃ r₂, (ensureBuilt r₁ l₁ config directory₁).run w' = (.ok (r₂, false), w') ∧
          LooksIn root sidecar w'.disk l r₂) ∧
    ∀ (script : Cargo.Script) (w : Workspace), Steady script config sidecar report →
      w.cargo = script →
      (∀ name qs, completedBuilds config name qs w ≤ 1) ∧
      ∀ (before between : List Request) (q q' : Request) (l l' : LibraryName),
        q.library = .ok l → completesBuild config q (after config before w) = true →
        q'.library = .ok l' → l'.canonical = l.canonical →
        ServedFromDisk config q' (after config (before ++ q :: between) w) := by
  refine ⟨?_, ?_⟩
  · intro root l r r' directory w w' built hroot hne hr hrun
    obtain ⟨hr', hcurrent⟩ := holdsCurrent_of_run_ensureBuilt hnames hroot hne hr hrun
    obtain ⟨s, hs, hdigest⟩ := hcurrent
    obtain ⟨r₁, hload⟩ := hr'.load hs
    refine ⟨⟨s, r₁, hload, hdigest⟩, hr', fun r₁ l₁ directory₁ hl₁ hr₁ => ?_⟩
    have hcurrent₁ : HoldsCurrent config w'.disk ((root.child l₁.canonical).child sidecar) := by
      rw [hl₁]
      exact ⟨s, hs, hdigest⟩
    obtain ⟨r₂, hrun₂, hr₂⟩ := run_ensureBuilt_current (hr₁.canonical hl₁) hcurrent₁ directory₁
    exact ⟨r₂, hrun₂, hr₂.canonical hl₁.symm⟩
  · intro script w hsteady hw
    exact ⟨fun name qs => hsteady.completedBuilds_le_one hnames name qs hw,
      fun before between q q' l l' hq hbuild hq' hl =>
        hsteady.served_after_build hnames hw hq hbuild hq' hl⟩

/-! ## A page that two libraries share -/

namespace SharedPage

open Build.SmallListing (document convertPage_of_parse)

/-- A configuration whose sidecars have a name. -/
def settings (sidecar : String) : Json := .obj [
  ("output", .obj [("dir_name", .str "docmd"), ("metadata_file", .str sidecar),
    ("report_file", .str "build-report.json")]),
  ("build", .obj [("format", .str "html"), ("fail_fast", .bool false)]),
  ("skip", .obj [("tags", .arr []), ("ids", .arr []), ("class_substrings", .arr [])])]

theorem named (sidecar : String) :
    Names (settings sidecar) sidecar "build-report.json" :=
  ⟨_, rfl, rfl, rfl⟩

def docs : Path := ⟨"", ["docs"]⟩

def markup : String :=
  "<main><ul class='all-items'><li><a href='../liba/meta.html'>S</a></li></ul></main>"

def disk : Disk := ⟨[(["docs"], .directory),
  (["docs", "index.html"], .file (Text.Utf8.encode "<main><code>L</code></main>")),
  (["docs", "all.html"], .file (Text.Utf8.encode markup)),
  (["liba"], .directory),
  (["liba", "meta.html"], .file (Text.Utf8.encode "<main><code>A</code></main>"))]⟩

/-- The metadata of a project with two dependencies. -/
def metadata : Json := .obj [
  ("packages", .arr [.obj [("dependencies",
    .arr [.obj [("name", .str "liba")], .obj [("name", .str "libb")]])]]),
  ("target_directory", .str "target")]

/-- Cargo writes the documentation of both dependencies into one directory. -/
def script : Cargo.Script := [
  ("metadata --no-deps --format-version 1", [.reply { stdout := metadata.pretty ++ "\n" }]),
  ("doc --package liba --no-deps", [.reply { stderr := "Generated docs/index.html" }]),
  ("doc --package libb --no-deps", [.reply { stderr := "Generated docs/index.html" }])]

def workspace : Workspace := { disk := disk, cargo := script }

def project : Cargo.Project := ⟨⟨"", ["target"]⟩, [.str "liba", .str "libb"]⟩

def root : Path := ⟨"", ["target", "docmd"]⟩

theorem ofText_metadata : Cargo.Project.ofText (metadata.pretty ++ "\n") = .ok project := by
  rw [Cargo.Project.ofText, Json.read?_pretty (by
    simp [metadata, Json.IsTextual, Json.AllTextual, Json.AllTextualMembers])]
  rfl

theorem outputRoot_project (sidecar : String) :
    Build.outputRoot project (settings sidecar) = .ok root := by rfl

/-- The text of the page that both libraries list. -/
def item : String := "`A`"

/-- The changes of a build in this project. -/
def changes (sidecar library all overview record : String) : List Change :=
  [.write ((root.child library).child "../liba/meta.md") item,
    .write ((root.child library).child "all.md") all,
    .write ((root.child library).child "index.md") overview,
    .write ((root.child library).child sidecar) record,
    .report (.written 3 (root.child library)),
    .remove ((root.child library).child "build-report.json")]

/-! ### What is documented -/

/-- The disk holds the documentation that cargo tells of. -/
structure HoldsDocs (d : Disk) : Prop where
  overview : d.find (docs.child "index.html") =
    .ok (.file (Text.Utf8.encode "<main><code>L</code></main>"))
  listing : d.find (docs.child "all.html") = .ok (.file (Text.Utf8.encode markup))
  item : d.find (docs.child "../liba/meta.html") =
    .ok (.file (Text.Utf8.encode "<main><code>A</code></main>"))

set_option maxRecDepth 4000 in
theorem parse_markup : Html.parse markup = document [
    .element "ul" [("class", .tokens ["all-items"])] [
      .element "li" [] [.element "a" [("href", .text "../liba/meta.html")] [.text none "S"]]]] := by
  rfl

set_option maxRecDepth 4000 in
theorem return_not_mem_markup : '\r' ∉ markup.toList := by decide

theorem HoldsDocs.read_listing {d : Disk} (h : HoldsDocs d) :
    d.read (docs.child "all.html") = .ok markup :=
  Disk.read_of_find h.listing return_not_mem_markup

/-- The index of the listing, for a library that is documented there. -/
theorem index_markup (library : String) : Listing.index library (Html.parse markup) =
    .ok [(library ++ "::" ++ "S", "../liba/meta.html")] := by
  refine Listing.index_eq_ok.2 ?_
  have hlinks : Listing.links (Html.parse markup) = [⟨"S", some "../liba/meta.html"⟩] := by
    rw [parse_markup]
    rfl
  rw [hlinks]
  exact ⟨by simp, by simp, rfl⟩

/-- The changes of a build are those of the files in the order of their names. -/
theorem changes_builtFrom (sidecar : String) (library : LibraryName)
    (overview all itemPath : String) : ∃ record,
    (Build.builtFrom library (settings sidecar) overview all
        [.made itemPath "../liba/meta.md" item]).changes library (root.child library.canonical)
        "html" (settings sidecar) =
      changes sidecar library.canonical all overview record := by
  have hnames : ["index.md", "all.md", "../liba/meta.md"].Nodup := by decide
  have horder : ["../liba/meta.md", "all.md", "index.md"].Pairwise fun s t =>
    Text.le s t = true := by decide
  have hsorted : ([("index.md", overview), ("all.md", all), ("../liba/meta.md", item)].mergeSort
      fun a b => Text.le a.1 b.1) =
      [("../liba/meta.md", item), ("all.md", all), ("index.md", overview)] :=
    Json.sorted_eq hnames (List.reverse_perm [_, _, _])
      ((List.pairwise_map (f := Prod.fst) (R := fun s t => Text.le s t = true)).1 horder)
  generalize hb : Build.builtFrom library (settings sidecar) overview all
    [.made itemPath "../liba/meta.md" item] = b
  have hfiles : b.files =
      [("index.md", overview), ("all.md", all), ("../liba/meta.md", item)] := by
    rw [← hb]
    rfl
  have hcomplete : b.report.isComplete = true := by
    rw [← hb]
    rfl
  refine ⟨(b.sidecar library "html").text, ?_⟩
  rw [Corpus.changes_eq (named sidecar), Corpus.fileChanges, Corpus.reportChanges, hcomplete]
  dsimp only
  rw [hfiles, hsorted]
  rfl

/-- What a build makes of the documentation. -/
theorem run_fromPages {d : Disk} (h : HoldsDocs d) (sidecar : String) (library : LibraryName) :
    ∃ built ns all overview record,
      (Build.fromPages d library docs (settings sidecar)).run [] = (.ok built, ns) ∧
      built.changes library (root.child library.canonical) "html" (settings sidecar) =
        changes sidecar library.canonical all overview record := by
  have hoverview : Build.convertPage d .default (docs.child "index.html") = .ok "`L`" :=
    convertPage_of_parse rfl h.overview (by decide)
      (show _ = document [.element "code" [] [.text none "L"]] from rfl) rfl
  have hitem : Build.convertPage d .default (docs.child "../liba/meta.html") = .ok item :=
    convertPage_of_parse rfl h.item (by decide)
      (show _ = document [.element "code" [] [.text none "A"]] from rfl) rfl
  have hmain : Page.markdown? .default (Html.parse markup) ≠ none := by
    rw [parse_markup]
    exact fun h => by cases h
  obtain ⟨all, hall⟩ := Option.ne_none_iff_exists'.1 hmain
  have hopen : Build.Opening d library docs (settings sidecar) .default _ "`L`" all :=
    ⟨rfl, ⟨markup, h.read_listing, index_markup _⟩, hoverview,
      Build.convertPage_eq_ok.2 ⟨markup, h.read_listing, hall,
        Page.strays_of_stray_eq_none rfl _⟩⟩
  obtain ⟨ns, hrun⟩ := Build.run_fromPages hopen rfl (by simp [hitem]) []
  have hpath : Listing.markdownPath "../liba/meta.html" = .ok "../liba/meta.md" := by
    have hdirs : ∀ n ∈ ["..", "liba"], Path.IsName n := by decide
    exact Listing.markdownPath_html hdirs (show "meta" ≠ "" by decide) (by decide)
  have houtcome : Build.entryOutcome d .default docs
      (library.canonical ++ "::" ++ "S", "../liba/meta.html") =
      .made (library.canonical ++ "::" ++ "S") "../liba/meta.md" item := by
    rw [Build.entryOutcome, hitem, hpath]
  rw [Build.builtPages, Build.sortedEntries, List.mergeSort_singleton, List.map_singleton,
    List.map_singleton, houtcome] at hrun
  obtain ⟨record, hchanges⟩ := changes_builtFrom sidecar library _ _ _
  exact ⟨_, ns, _, _, record, hrun, hchanges⟩

/-! ### What cargo answers -/

/-- The project depends on the library, and cargo documents it. -/
structure IsDependency (name : String) : Prop where
  found : project.library name = .ok ⟨name⟩
  canonical : LibraryName.canonical ⟨name⟩ = name
  documented : (script.next (" ".intercalate (Cargo.docArgs name))).1 =
    .reply { stderr := "Generated docs/index.html" }

theorem isDependency_liba : IsDependency "liba" := ⟨rfl, rfl, rfl⟩

theorem isDependency_libb : IsDependency "libb" := ⟨rfl, rfl, rfl⟩

/-- Every command has one answer, and no answer leaves files. -/
theorem answers_script : ∀ e ∈ script, ∃ r : Cargo.Reply, e.2 = [.reply r] ∧ r.files = [] := by
  simp [script]

theorem next_script (command : String) : (script.next command).2 = script ∧
    ∀ r, (script.next command).1 = .reply r → r.files = [] := by
  rw [Cargo.Script.next]
  cases hlookup : script.lookup command with
  | none => exact ⟨rfl, fun r hr => by cases hr⟩
  | some answers =>
    have hmem := (Json.lookup_eq_some_iff_mem (by decide)).1 hlookup
    obtain ⟨reply, rfl, hfiles⟩ := answers_script _ hmem
    exact ⟨rfl, fun r hr => Cargo.Answer.reply.inj hr ▸ hfiles⟩

theorem describes : Describes script project := ⟨_, rfl, rfl, ofText_metadata⟩

theorem isRoot (sidecar : String) : IsRoot script (settings sidecar) root := by
  intro p hp root' hroot'
  obtain rfl := describes.unique hp
  exact (Except.ok.inj ((outputRoot_project sidecar).symm.trans hroot')).symm

/-! ### Builds in this project -/

variable {w w' : Workspace} {name sidecar : String}

/-- The library has no readable sidecar, and nothing stands in the way of building it. -/
structure Ready (sidecar name : String) (w : Workspace) : Prop where
  cargo : w.cargo = script
  docs : HoldsDocs w.disk
  free : ∀ all overview record,
    (Corpus.applyAll w.disk (changes sidecar name all overview record)).failure = none
  unbuilt : ∀ s, Sidecar.load w.disk ((root.child name).child sidecar) ≠ .ok s
  taken : Disk.Takes ((root.child name).child sidecar)

/-- A build of the library leads from one workspace to the other. -/
def Builds (sidecar name : String) (w w' : Workspace) : Prop :=
  w'.cargo = script ∧ ∃ all overview record,
    w'.disk = (Corpus.applyAll w.disk (changes sidecar name all overview record)).disk

theorem Ready.congr (h : Ready sidecar name w) (hdisk : w'.disk = w.disk)
    (hcargo : w'.cargo = script) : Ready sidecar name w' where
  cargo := hcargo
  docs := hdisk ▸ h.docs
  free := hdisk ▸ h.free
  unbuilt := hdisk ▸ h.unbuilt
  taken := h.taken

theorem Ready.next_metadata (h : Ready sidecar name w) :
    (w.cargo.next (" ".intercalate Cargo.metadataArgs)).1 =
      .reply { stdout := metadata.pretty ++ "\n" } := by
  rw [h.cargo]
  rfl

theorem Ready.asked (h : Ready sidecar name w) :
    Ready sidecar name
      (replied w Cargo.metadataArgs none { stdout := metadata.pretty ++ "\n" }) :=
  h.congr rfl (by rw [replied, h.cargo, (next_script _).1])

theorem run_document (hname : IsDependency name) (hw : w.cargo = script) :
    ∃ w', (Build.document ⟨name⟩ none).run w = (.ok docs, w') ∧ w'.disk = w.disk ∧
      w'.cargo = script := by
  have hdirectory : Cargo.docDirectory "Generated docs/index.html" = .ok docs := by rfl
  have hanswer := hname.documented
  rw [← hw] at hanswer
  have hcall := run_callCargo_reply (w := { w with notices := w.notices ++ [.documenting name] })
    hanswer rfl none
  refine ⟨_, (run_bind (a := ()) rfl).trans <| (run_bind hcall).trans <|
    run_orProblem_ok hdirectory _, rfl, ?_⟩
  refine Eq.trans ?_ (next_script (" ".intercalate (Cargo.docArgs name))).1
  rw [← hw]
  rfl

/-- A library that is ready is built. -/
theorem run_build (hname : IsDependency name) (h : Ready sidecar name w) :
    ∃ result w', (Build.build name (settings sidecar) none).run w = (.ok result, w') ∧
      Builds sidecar name w w' := by
  have hproject := run_project h.next_metadata rfl ofText_metadata none
  have hformat : (do (← (settings sidecar).member "build").member "format") =
      .ok (.str "html") := by rfl
  obtain ⟨w₂, hdocument, hdisk₂, hcargo₂⟩ := run_document hname h.asked.cargo
  have hready := h.congr hdisk₂ hcargo₂
  obtain ⟨built, ns, all, overview, record, hfrom, hchanges⟩ :=
    run_fromPages hready.docs sidecar ⟨name⟩
  rw [hname.canonical] at hchanges
  have hbuild := Build.run_buildFromPages (root.child name) hfrom
  rw [Built.applied, hchanges, hready.free] at hbuild
  refine ⟨built.report, Build.saved w₂ ns built ⟨name⟩ (root.child name) "html" (settings sidecar),
    ?_, hcargo₂, all, overview, record, ?_⟩
  · rw [Build.build, run_bind hproject, hname.found, run_bind (x := orFail _) (a := ⟨name⟩) rfl,
      run_bind (run_orFault_ok (outputRoot_project sidecar) _)]
    dsimp only
    rw [run_bind (run_orFault_ok hformat _), if_neg (by decide), run_bind hdocument,
      hname.canonical]
    exact hbuild
  · rw [Build.saved, Built.applied, hchanges, hdisk₂]
    rfl

theorem Ready.load (hname : IsDependency name) (h : Ready sidecar name w) :
    Resolver.load ⟨root, .str sidecar, []⟩ w.disk ⟨name⟩ = (⟨root, .str sidecar, []⟩, .ok none) ∨
      ∃ p, Resolver.load ⟨root, .str sidecar, []⟩ w.disk ⟨name⟩ =
        (⟨root, .str sidecar, []⟩, .error (.problem p)) := by
  rw [Resolver.load, Resolver.sidecarPath, Resolver.libraryPath, hname.canonical,
    Corpus.configuredPath]
  dsimp only [List.lookup_nil]
  split
  · rename_i hhas
    exact absurd hhas h.taken.has_ne_error
  · exact .inl rfl
  · cases hload : Sidecar.load w.disk ((root.child name).child sidecar) with
    | ok s => exact absurd hload (h.unbuilt s)
    | error p => exact .inr ⟨p, rfl⟩

/-- Looking after a library that is ready builds it. -/
theorem run_ensureBuilt (hname : IsDependency name) (h : Ready sidecar name w) :
    ∃ r w', (ensureBuilt ⟨root, .str sidecar, []⟩ ⟨name⟩ (settings sidecar) none).run w =
      (.ok (r, true), w') ∧ Builds sidecar name w w' := by
  have hread : ∃ ns, (readableSidecar ⟨root, .str sidecar, []⟩ ⟨name⟩).run w =
      (.ok (⟨root, .str sidecar, []⟩, none), { w with notices := ns }) := by
    rw [run_readableSidecar]
    rcases h.load hname with hload | ⟨p, hload⟩ <;> rw [hload]
    · exact ⟨w.notices, rfl⟩
    · exact ⟨_, rfl⟩
  obtain ⟨ns, hread⟩ := hread
  have hnotified : Ready sidecar name { w with notices := ns ++ [.notBuilt name] } :=
    h.congr rfl h.cargo
  obtain ⟨result, w', hbuild, hbuilds⟩ := run_build hname hnotified
  refine ⟨Resolver.forget ⟨root, .str sidecar, []⟩ ⟨name⟩, w', ?_, hbuilds⟩
  rw [ensureBuilt, run_bind hread]
  dsimp only
  rw [Option.any_none, if_neg (by decide), run_bind (x := notify _) (a := ()) rfl]
  refine (run_bind (x := discard _) (a := ()) (t := w') ?_).trans rfl
  exact (run_bind hbuild).trans rfl

/-- A request for a library that is ready builds it. -/
theorem run_ready {q : Request} (hq : q.library = .ok ⟨name⟩) (hdirectory : q.directory = none)
    (hname : IsDependency name) (h : Ready sidecar name w) :
    completesBuild (settings sidecar) q w = true ∧
      Builds sidecar name w ((q.run (settings sidecar)).run w).2 := by
  have hresolver := run_resolverFor (named sidecar) h.next_metadata rfl ofText_metadata
    (outputRoot_project sidecar) none
  obtain ⟨r, w', hensure, hbuilds⟩ := run_ensureBuilt hname h.asked
  have hprepare : (prepare (settings sidecar) ⟨name⟩ none).run w = (.ok (r, true), w') :=
    (run_bind hresolver).trans hensure
  obtain ⟨answer, hrun, hanswer⟩ := run_request (settings sidecar) hq w
  rw [hdirectory] at hrun
  rw [completesBuild, hq, hrun, run_bind hprepare, hanswer]
  dsimp only
  rw [hdirectory, hprepare]
  exact ⟨rfl, hbuilds⟩

theorem library_show : (Request.show "liba" none).library = .ok ⟨"liba"⟩ := by rfl

theorem library_list : (Request.list "libb" none).library = .ok ⟨"libb"⟩ := by rfl

/-! ### A sidecar that stays -/

theorem ready : Ready "metadata.json" "liba" workspace where
  cargo := rfl
  docs := ⟨rfl, rfl, rfl⟩
  free _ _ _ := rfl
  unbuilt s hs := by cases hs
  taken := by decide

/-- With a sidecar that is not named like a page, sessions in this project are steady. -/
theorem steady : Steady script (settings "metadata.json") "metadata.json" "build-report.json" where
  constant command := (next_script command).1
  dependencies p hp name hname := by
    obtain rfl := describes.unique hp
    have hnames : ∀ v ∈ project.dependencies, v = .str "liba" ∨ v = .str "libb" := by
      simp [project]
    rcases hnames _ hname with h | h <;> cases h <;> decide
  replies p root _ _ command reply hanswer file hfile := by
    rw [(next_script command).2 reply hanswer] at hfile
    cases hfile
  apart p root _ _ := SetApart.of_besidePages Corpus.besidePages_standard root

/-- The first library is built once, and what is asked for after that is on disk. -/
theorem building_converges_shared_page :
    (∃ r w', (ensureBuilt ⟨root, .str "metadata.json", []⟩ ⟨"liba"⟩ (settings "metadata.json")
          none).run workspace = (.ok (r, true), w') ∧
      (∃ s r₁, r.load w'.disk ⟨"liba"⟩ = (r₁, .ok (some s)) ∧
        isCurrent s (settings "metadata.json") = true) ∧
      ∃ r₂, (ensureBuilt ⟨root, .str "metadata.json", []⟩ ⟨"liba"⟩ (settings "metadata.json")
        none).run w' = (.ok (r₂, false), w')) ∧
    completesBuild (settings "metadata.json") (.show "liba" none) workspace = true ∧
    completedBuilds (settings "metadata.json") "liba"
      [.show "liba" none, .list "libb" none, .show "liba" none] workspace ≤ 1 ∧
    ServedFromDisk (settings "metadata.json") (.show "liba" none)
      (after (settings "metadata.json") [.show "liba" none, .list "libb" none] workspace) := by
  obtain ⟨hensured, hsession⟩ := building_converges (named "metadata.json")
  obtain ⟨hmost, hserved⟩ := hsession script workspace steady rfl
  obtain ⟨r, w', hrun, -⟩ := run_ensureBuilt isDependency_liba ready
  have hfresh (d : Disk) := LooksIn.fresh root "metadata.json" d ⟨"liba"⟩
  obtain ⟨hload, -, hagain⟩ := hensured root ⟨"liba"⟩ _ r none workspace w' true
    (isRoot "metadata.json") (by decide) (hfresh disk) hrun
  obtain ⟨r₂, hrun₂, -⟩ := hagain _ ⟨"liba"⟩ none rfl (hfresh w'.disk)
  have hbuild := (run_ready library_show rfl isDependency_liba ready).1
  exact ⟨⟨r, w', hrun, hload, r₂, hrun₂⟩, hbuild, hmost "liba" _,
    hserved [] [.list "libb" none] (.show "liba" none) (.show "liba" none) ⟨"liba"⟩ ⟨"liba"⟩
      library_show hbuild library_show rfl⟩

/-! ### A sidecar that is lost -/

section

variable (all overview record all' overview' record' : String)

/-- The disk after one library has been built. -/
def afterFirst : Disk := ⟨[
  (["target", "docmd", "liba", "meta.md"], .file (Text.Utf8.encode record)),
  (["target", "docmd", "liba", "index.md"], .file (Text.Utf8.encode overview)),
  (["target", "docmd", "liba", "all.md"], .file (Text.Utf8.encode all)),
  (["target", "docmd", "liba"], .directory),
  (["target", "docmd"], .directory),
  (["target"], .directory)] ++ disk.entries⟩

/-- The disk after both libraries have been built: a page stands in place of the first sidecar. -/
def afterBoth : Disk := ⟨[
  (["target", "docmd", "libb", "meta.md"], .file (Text.Utf8.encode record')),
  (["target", "docmd", "libb", "index.md"], .file (Text.Utf8.encode overview')),
  (["target", "docmd", "libb", "all.md"], .file (Text.Utf8.encode all')),
  (["target", "docmd", "liba", "meta.md"], .file (Text.Utf8.encode item)),
  (["target", "docmd", "libb"], .directory),
  (["target", "docmd", "liba", "index.md"], .file (Text.Utf8.encode overview)),
  (["target", "docmd", "liba", "all.md"], .file (Text.Utf8.encode all)),
  (["target", "docmd", "liba"], .directory),
  (["target", "docmd"], .directory),
  (["target"], .directory)] ++ disk.entries⟩

theorem applyAll_liba : Corpus.applyAll disk (changes "meta.md" "liba" all overview record) =
    ⟨afterFirst all overview record, [.written 3 (root.child "liba")], none⟩ := by
  rfl

theorem applyAll_libb :
    Corpus.applyAll (afterFirst all overview record)
        (changes "meta.md" "libb" all' overview' record') =
      ⟨afterBoth all overview all' overview' record', [.written 3 (root.child "libb")], none⟩ := by
  rfl

theorem ready_first : Ready "meta.md" "liba" workspace where
  cargo := rfl
  docs := ⟨rfl, rfl, rfl⟩
  free all overview record := congrArg Corpus.Applied.failure (applyAll_liba all overview record)
  unbuilt s hs := by cases hs
  taken := by decide

variable {all overview record all' overview' record'}

theorem ready_second (hcargo : w.cargo = script) (hdisk : w.disk = afterFirst all overview record) :
    Ready "meta.md" "libb" w where
  cargo := hcargo
  docs := hdisk ▸ ⟨rfl, rfl, rfl⟩
  free all' overview' record' := by
    rw [hdisk, applyAll_libb]
  unbuilt s hs := by
    rw [hdisk] at hs
    cases hs
  taken := by decide

theorem ready_again (hcargo : w.cargo = script)
    (hdisk : w.disk = afterBoth all overview all' overview' record') :
    Ready "meta.md" "liba" w where
  cargo := hcargo
  docs := hdisk ▸ ⟨rfl, rfl, rfl⟩
  free all'' overview'' record'' := by
    rw [hdisk]
    rfl
  unbuilt s hs := by
    have hfind : (afterBoth all overview all' overview' record').find
        ((root.child "liba").child "meta.md") = .ok (.file (Text.Utf8.encode item)) := by rfl
    obtain ⟨text, hread, htext⟩ := read_of_load hs
    rw [hdisk, Disk.read_of_find hfind (by decide)] at hread
    obtain rfl := Except.ok.inj hread
    cases htext
  taken := by decide

end

/-- The second library writes the page that both share over the sidecar of the first one, which is
then built again. -/
theorem sidecar_overwritten :
    Names (settings "meta.md") "meta.md" "build-report.json" ∧
    (∀ command, (workspace.cargo.next command).2 = workspace.cargo) ∧
    completedBuilds (settings "meta.md") "liba"
      [.show "liba" none, .list "libb" none, .show "liba" none] workspace = 2 := by
  refine ⟨named "meta.md", fun command => (next_script command).1, ?_⟩
  obtain ⟨hfirst, hcargo₁, all, overview, record, hdisk₁⟩ :=
    run_ready library_show rfl isDependency_liba ready_first
  rw [show workspace.disk = disk from rfl, applyAll_liba] at hdisk₁
  have hsecond := ready_second hcargo₁ hdisk₁
  obtain ⟨-, hcargo₂, all', overview', record', hdisk₂⟩ :=
    run_ready library_list rfl isDependency_libb hsecond
  rw [hdisk₁, applyAll_libb] at hdisk₂
  have hthird := ready_again hcargo₂ hdisk₂
  rw [completedBuilds, completedBuilds, completedBuilds, completedBuilds, hfirst,
    (run_ready library_show rfl isDependency_liba hthird).1]
  rfl

end SharedPage

end CrateBook.Browse
