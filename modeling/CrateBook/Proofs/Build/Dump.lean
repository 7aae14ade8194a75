import CrateBook.Proofs.Build.Outcome
import CrateBook.Proofs.Corpus.Resolving
import CrateBook.Proofs.Corpus.Unobstructed
import CrateBook.Proofs.Rustdoc.Overview

/-!
# Building from a dump and resolving

When the items of a crate have different paths made of identifiers, no two of them share a key of
the item map or a page, and no page is that of the overview. So after a build from the dump every
item path leads to the page of its item, however its library and its separators are spelled, or to
nothing when the page could not be made: `resolve_of_buildFromDump`.
-/

namespace CrateBook.Build

open Corpus (BesidePages Built Report Resolver)
open Rustdoc (Crate Item)

section

variable {library : LibraryName} {crate : Crate} {items : List Item} {item item' : Item}
  {dump root : Path} {config : Json} {sidecar report : String} {w w' : Workspace} {r : Report}

/-- The names of an item inside its crate. -/
def innerNames (crate : Crate) (item : Item) : List String :=
  (Text.splitOn (crate.qualifiedName item) "::").drop 1

theorem fullPath_eq (library : LibraryName) (crate : Crate) (item : Item) :
    fullPath library crate item = "::".intercalate (library.canonical :: innerNames crate item) :=
  rfl

/-! ## What is built -/

/-- The crate in a dump that was written as JSON. -/
theorem loadCrate_of_find {disk : Disk} {v : Json} (hv : v.IsTextual)
    (h : disk.find dump = .ok (.file (Text.Utf8.encode (v.pretty ++ "\n")))) :
    loadCrate disk dump = Crate.ofJson v := by
  rw [loadCrate, Disk.read_of_find h (Json.return_not_mem_pretty hv)]
  simp only [bind, Except.bind, Json.read?_pretty hv]

/-- What a build from a dump has made: the overview and the listing of the crate, and an outcome
for each item. -/
theorem crate_of_run_fromDump {disk : Disk} {built : Built} {ns ns' : List Notice}
    (h : (fromDump disk library dump config).run ns = (.ok built, ns')) :
    ∃ crate items overview listing, loadCrate disk dump = .ok crate ∧
      crate.publicItems = .ok items ∧ Rustdoc.overviewPage crate = .ok overview ∧
      Rustdoc.listing crate = .ok listing ∧
      built = builtFrom library config overview (Listing.page library.canonical listing)
        (items.map (itemOutcome library crate)) := by
  obtain ⟨failFast, _, _, h⟩ := of_run_bind h
  obtain ⟨crate, _, hcrate, h⟩ := of_run_bind h
  obtain ⟨overview, _, hoverview, h⟩ := of_run_bind h
  obtain ⟨listing, _, hlisting, h⟩ := of_run_bind h
  obtain ⟨items, _, hitems, h⟩ := of_run_bind h
  exact ⟨crate, items, overview, listing, (of_run_orFault hcrate).1, (of_run_orFault hitems).1,
    (of_run_orFault hoverview).1, (of_run_orFault hlisting).1, writeItems_ok h⟩

/-- What a build from a dump has made: the pages of the library and an outcome for each item. -/
theorem of_run_fromDump {disk : Disk} {built : Built} {ns ns' : List Notice}
    (h : (fromDump disk library dump config).run ns = (.ok built, ns')) :
    ∃ crate items overview listing, loadCrate disk dump = .ok crate ∧
      crate.publicItems = .ok items ∧ Rustdoc.overviewPage crate = .ok overview ∧
      built = builtFrom library config overview listing
        (items.map (itemOutcome library crate)) := by
  obtain ⟨crate, items, overview, listing, hcrate, hitems, hoverview, -, hbuilt⟩ :=
    crate_of_run_fromDump h
  exact ⟨crate, items, overview, _, hcrate, hitems, hoverview, hbuilt⟩

/-- A build from a dump decides on its changes when only items are at fault. -/
theorem run_fromDump (library : LibraryName) (ns : List Notice) {disk : Disk}
    {overview listing : String}
    (hfast : failsFast config = .ok false) (hcrate : loadCrate disk dump = .ok crate)
    (hoverview : Rustdoc.overviewPage crate = .ok overview)
    (hlisting : Rustdoc.listing crate = .ok listing) (hitems : crate.publicItems = .ok items)
    (hof : ∀ item ∈ items, ∀ f, Rustdoc.itemPage crate item = .error f → isOfItem f = true) :
    ∃ ns', (fromDump disk library dump config).run ns =
      (.ok (builtFrom library config overview (Listing.page library.canonical listing)
        (items.map (itemOutcome library crate))), ns') := by
  rw [fromDump, run_bind (run_orFault hfast _), run_bind (run_orFault hcrate _),
    run_bind (run_orFault hoverview _), run_bind (run_orFault hlisting _),
    run_bind (run_orFault hitems _)]
  exact writeItems_returns hof ns

/-- An item of a dump and its page. -/
theorem mem_pages_items {e : String × String × String} :
    e ∈ pages (items.map (itemOutcome library crate)) ↔
      ∃ item ∈ items, ∃ text, Rustdoc.itemPage crate item = .ok text ∧
        e = (fullPath library crate item, pageName (fullPath library crate item), text) := by
  rw [pages, List.filterMap_map, List.mem_filterMap]
  refine exists_congr fun item => and_congr_right fun _ => ?_
  rw [Function.comp_apply, itemOutcome]
  cases Rustdoc.itemPage crate item <;> simp [Outcome.page?, eq_comm]

/-- An item of a dump whose page could not be made. -/
theorem mem_omissions_items {o : Corpus.Omission} :
    o ∈ (items.map (itemOutcome library crate)).filterMap Outcome.omission? ↔
      ∃ item ∈ items, ∃ f, Rustdoc.itemPage crate item = .error f ∧
        o = ⟨fullPath library crate item, item.id, f.message⟩ := by
  rw [List.filterMap_map, List.mem_filterMap]
  refine exists_congr fun item => and_congr_right fun _ => ?_
  rw [Function.comp_apply, itemOutcome]
  cases Rustdoc.itemPage crate item <;> simp [Outcome.omission?, eq_comm]

/-! ## Items are told apart -/

/-- The items have different paths made of identifiers, and so is the name of the library. -/
structure ToldApart (library : LibraryName) (crate : Crate) (items : List Item) : Prop where
  library : IsIdentifier library.canonical
  distinct : (items.map (innerNames crate)).Nodup
  nonempty : ∀ item ∈ items, innerNames crate item ≠ []
  identifiers : ∀ item ∈ items, ∀ n ∈ innerNames crate item, IsIdentifier n

theorem ToldApart.names (h : ToldApart library crate items) (hi : item ∈ items) :
    ∀ n ∈ library.canonical :: innerNames crate item, IsIdentifier n := by
  intro n hn
  rcases List.mem_cons.1 hn with rfl | hn
  · exact h.library
  · exact h.identifiers item hi n hn

theorem ToldApart.eq_of_pageName (h : ToldApart library crate items) (hi : item ∈ items)
    (hi' : item' ∈ items)
    (he : pageName (fullPath library crate item) = pageName (fullPath library crate item')) :
    item = item' := by
  have hnames := pageName_injective (h.names hi) (by simp) (h.names hi') (by simp) he
  exact List.inj_on_of_nodup_map h.distinct hi hi' (List.cons.inj hnames).2

theorem ToldApart.eq_of_fullPath (h : ToldApart library crate items) (hi : item ∈ items)
    (hi' : item' ∈ items) (he : fullPath library crate item = fullPath library crate item') :
    item = item' := h.eq_of_pageName hi hi' (congrArg pageName he)

theorem ToldApart.pageName_ne (h : ToldApart library crate items) (hi : item ∈ items)
    {page : String} (hpage : page ∈ [Resolver.overviewName, Resolver.listingName]) :
    pageName (fullPath library crate item) ≠ page := by
  have hinner := List.length_pos_of_ne_nil (h.nonempty item hi)
  rw [fullPath_eq]
  exact pageName_ne_own (h.names hi) (by rw [List.length_cons]; omega) hpage

theorem ToldApart.inner_ne (h : ToldApart library crate items) (hi : item ∈ items)
    {steps : List (Separator × String)} (hsteps : steps.map (·.2) = innerNames crate item) :
    steps ≠ [] := by
  rintro rfl
  exact h.nonempty item hi hsteps.symm

theorem ToldApart.steps (h : ToldApart library crate items) (hi : item ∈ items)
    {steps : List (Separator × String)} (hsteps : steps.map (·.2) = innerNames crate item) :
    ∀ s ∈ steps, IsIdentifier s.2 := by
  intro s hs
  refine h.identifiers item hi s.2 ?_
  rw [← hsteps]
  exact List.mem_map_of_mem hs

/-! ## Every item is found -/

section

variable {overview listing spelling : String} {d disk : Disk} {steps : List (Separator × String)}

/-- What is built from the items of a dump. -/
abbrev builtItems (library : LibraryName) (crate : Crate) (items : List Item) (config : Json)
    (overview listing : String) : Built :=
  builtFrom library config overview listing (items.map (itemOutcome library crate))

theorem itemPath_itemOutcome (library : LibraryName) (crate : Crate) (item : Item) :
    (itemOutcome library crate item).itemPath = fullPath library crate item := by
  rw [itemOutcome]
  cases Rustdoc.itemPage crate item <;> rfl

/-- The report on a build from a dump names every item. -/
theorem perm_report_builtItems (library : LibraryName) (crate : Crate) (items : List Item)
    (config : Json) (overview listing : String) :
    ((builtItems library crate items config overview listing).report.converted ++
      (builtItems library crate items config overview listing).report.failures.map
        (·.itemPath)).Perm (items.map (fullPath library crate)) := by
  have hperm := perm_itemPaths (items.map (itemOutcome library crate))
  rw [List.map_map, Function.comp_def, funext (itemPath_itemOutcome library crate)] at hperm
  rw [converted_builtFrom, failures_builtFrom]
  exact hperm

/-- The disk after a build from a dump has saved everything. -/
structure SavedItems (library : LibraryName) (crate : Crate) (items : List Item) (root : Path)
    (config : Json) (sidecar overview listing : String) (disk : Disk) : Prop where
  has : disk.has ((root.child library.canonical).child sidecar) = .ok true
  load : Corpus.Sidecar.load disk ((root.child library.canonical).child sidecar) =
    .ok ((builtItems library crate items config overview listing).sidecar library "json").sorted
  find : ∀ page text,
    (builtItems library crate items config overview listing).files.lookup page = some text →
    disk.find ((root.child library.canonical).child page) = .ok (.file (Text.Utf8.encode text))

/-- The files of a build from a dump are plain names with the extension of a page. -/
theorem plain_files (out : Path) {page : String}
    (hpage : page ∈ (builtItems library crate items config overview listing).files.map (·.1)) :
    Path.IsPlain page ∧ Corpus.IsPageIn out page := by
  rcases mem_keys_files.1 hpage with ⟨e, he, rfl⟩ | rfl | rfl
  · obtain ⟨item, -, text, -, rfl⟩ := mem_pages_items.1 he
    exact ⟨isPlain_pageName _, Corpus.isPageIn_pageName out _⟩
  · exact ⟨by decide, Corpus.isPageIn_append_md out "index" (by decide)⟩
  · exact ⟨by decide, Corpus.isPageIn_append_md out "all" (by decide)⟩

theorem isFileName_files
    (hpages : ∀ item ∈ items, Disk.IsFileName (pageName (fullPath library crate item))) :
    ∀ page ∈ (builtItems library crate items config overview listing).files.map (·.1),
      Path.IsPlain page ∧ Disk.IsFileName page := by
  intro page hpage
  rcases mem_keys_files.1 hpage with ⟨e, he, rfl⟩ | rfl | rfl
  · obtain ⟨item, hi, text, -, rfl⟩ := mem_pages_items.1 he
    exact ⟨isPlain_pageName _, hpages item hi⟩
  · decide
  · decide

theorem not_hasNull_files {page : String}
    (hpage : page ∈ (builtItems library crate items config overview listing).files.map (·.1)) :
    (Path.ofString page).hasNull = false := by
  rcases mem_keys_files.1 hpage with ⟨e, he, rfl⟩ | rfl | rfl
  · obtain ⟨item, -, text, -, rfl⟩ := mem_pages_items.1 he
    exact Path.not_hasNull_of_name (isPlain_pageName _).1 (null_not_mem_pageName _)
  · rfl
  · rfl

/-- The files of a build from a dump have their places to themselves. -/
theorem savedItems
    (hfiles : BesidePages config sidecar report)
    (hok : ((builtItems library crate items config overview listing).applied d library
      (root.child library.canonical) "json" config).failure = none) :
    SavedItems library crate items root config sidecar overview listing
      ((builtItems library crate items config overview listing).applied d library
        (root.child library.canonical) "json" config).disk where
  has := Disk.has_of_find (Corpus.find_sidecar hfiles.named (hfiles.place_ne _) hok)
  load := Corpus.load_sidecar hfiles.named (hfiles.place_ne _) hok nodup_itemMap_builtFrom
  find := by
    intro page text hlookup
    have hmem := (Json.lookup_eq_some_iff_mem nodup_files_builtFrom).1 hlookup
    have hpage := plain_files (root.child library.canonical) (List.mem_map_of_mem hmem)
    refine Corpus.find_page_of_lookup hfiles.named hok nodup_files_builtFrom hlookup
      (hfiles.sidecar_place_ne hpage.2) (hfiles.report_place_ne hpage.2) fun file hfile hplace => ?_
    have hplain := plain_files (root.child library.canonical) (List.mem_map_of_mem hfile)
    rw [Path.place_child_name hplain.1, Path.place_child_name hpage.1] at hplace
    exact List.singleton_inj.1 (List.append_inj' hplace rfl).2

variable (h : ToldApart library crate items)
  (hs : SavedItems library crate items root config sidecar overview listing disk)
  (hspelling : IsSpelling library.canonical spelling)

include h hs hspelling

theorem leadsTo_overview :
    Resolver.LeadsTo ⟨root, .str sidecar, []⟩ disk spelling overview := by
  refine ⟨_, Resolver.resolveText_library hs.has hs.load h.library hspelling, ?_⟩
  refine hs.find _ _ (lookup_overview_builtFrom fun e he hname => ?_)
  obtain ⟨item, hi, text, -, rfl⟩ := mem_pages_items.1 he
  exact h.pageName_ne hi (by simp) hname

/-- What the path of an item leads to, by the item map. -/
theorem resolveText_of_lookup (hi : item ∈ items)
    (hsteps : steps.map (·.2) = innerNames crate item) :
    Resolver.resolveText ⟨root, .str sidecar, []⟩ disk (writtenPath spelling steps) =
      match (builtItems library crate items config overview listing).itemMap.lookup
        (fullPath library crate item) with
      | none => .error (.problem (.unresolved (writtenPath spelling steps) spelling))
      | some page => .ok ((root.child library.canonical).child page) := by
  rw [Resolver.resolveText_item hs.has hs.load h.library hspelling (h.steps hi hsteps)
    (h.inner_ne hi hsteps), hsteps, ← fullPath_eq,
    Corpus.lookup_sidecar_sorted nodup_itemMap_builtFrom]
  cases (builtItems library crate items config overview listing).itemMap.lookup
    (fullPath library crate item) <;> rfl

theorem leadsTo_page (hi : item ∈ items) (hsteps : steps.map (·.2) = innerNames crate item)
    {text : String} (htext : Rustdoc.itemPage crate item = .ok text) :
    Resolver.LeadsTo ⟨root, .str sidecar, []⟩ disk (writtenPath spelling steps) text := by
  have he : (fullPath library crate item, pageName (fullPath library crate item), text) ∈
      pages (items.map (itemOutcome library crate)) :=
    mem_pages_items.2 ⟨item, hi, text, htext, rfl⟩
  have hresolve := resolveText_of_lookup h hs hspelling hi hsteps
  rw [lookup_itemMap_builtFrom he] at hresolve
  · refine ⟨_, hresolve, hs.find _ _ (lookup_files_builtFrom he ?_)⟩
    intro e' he' hname
    obtain ⟨item', hi', text', htext', rfl⟩ := mem_pages_items.1 he'
    obtain rfl := h.eq_of_pageName hi' hi hname
    exact Except.ok.inj (htext'.symm.trans htext)
  · intro e' he' hkey
    obtain ⟨item', hi', text', -, rfl⟩ := mem_pages_items.1 he'
    exact congrArg pageName hkey

theorem unresolved_of_error (hi : item ∈ items)
    (hsteps : steps.map (·.2) = innerNames crate item) {f : Fault}
    (herror : Rustdoc.itemPage crate item = .error f) :
    Resolver.resolveText ⟨root, .str sidecar, []⟩ disk (writtenPath spelling steps) =
      .error (.problem (.unresolved (writtenPath spelling steps) spelling)) := by
  rw [resolveText_of_lookup h hs hspelling hi hsteps, lookup_itemMap_eq_none]
  intro e he hkey
  obtain ⟨item', hi', text, htext, rfl⟩ := mem_pages_items.1 he
  obtain rfl := h.eq_of_fullPath hi' hi hkey
  rw [herror] at htext
  cases htext

end

/-- **Every item is found after a build from a dump.** In any spelling of the library and with any
separators, the path of an item leads to the page of the item, or to nothing when the item is
recorded as a failure, and the name of the library leads to the overview. -/
theorem resolve_of_buildFromDump (hcrate : loadCrate w.disk dump = .ok crate)
    (hitems : crate.publicItems = .ok items) (hapart : ToldApart library crate items)
    (hfiles : BesidePages config sidecar report)
    (hrun : (buildFromDump library dump (root.child library.canonical) config).run w =
      (.ok r, w')) :
    ∃ overview, Rustdoc.overviewPage crate = .ok overview ∧
      ∀ spelling, IsSpelling library.canonical spelling →
        Resolver.LeadsTo ⟨root, .str sidecar, []⟩ w'.disk spelling overview ∧
        ∀ item ∈ items, ∀ steps : List (Separator × String),
          steps.map (·.2) = innerNames crate item →
          (∀ text, Rustdoc.itemPage crate item = .ok text →
            Resolver.LeadsTo ⟨root, .str sidecar, []⟩ w'.disk (writtenPath spelling steps) text) ∧
          ((∃ o ∈ r.failures, o.itemPath = fullPath library crate item) →
            Resolver.resolveText ⟨root, .str sidecar, []⟩ w'.disk (writtenPath spelling steps) =
              .error (.problem (.unresolved (writtenPath spelling steps) spelling))) ∧
          ((∃ text, Rustdoc.itemPage crate item = .ok text) ∨
            ∃ o ∈ r.failures, o.itemPath = fullPath library crate item) := by
  obtain ⟨built, ns, hfrom, hok, hdisk, rfl⟩ := of_run_buildFromDump hrun
  obtain ⟨crate', items', overview, listing, hcrate', hitems', hoverview, rfl⟩ :=
    of_run_fromDump hfrom
  obtain rfl := Except.ok.inj (hcrate.symm.trans hcrate')
  obtain rfl := Except.ok.inj (hitems.symm.trans hitems')
  have hs := savedItems hfiles hok
  rw [← hdisk] at hs
  refine ⟨overview, hoverview, fun spelling hspelling =>
    ⟨leadsTo_overview hapart hs hspelling, fun item hi steps hsteps => ⟨fun text htext =>
      leadsTo_page hapart hs hspelling hi hsteps htext, ?_, ?_⟩⟩⟩
  · rintro ⟨o, ho, hpath⟩
    rw [failures_builtFrom] at ho
    obtain ⟨item', hi', f, herror, rfl⟩ := mem_omissions_items.1 ho
    obtain rfl := hapart.eq_of_fullPath hi' hi hpath
    exact unresolved_of_error hapart hs hspelling hi hsteps herror
  · cases hpage : Rustdoc.itemPage crate item with
    | ok text => exact .inl ⟨text, rfl⟩
    | error f =>
      refine .inr ⟨⟨fullPath library crate item, item.id, f.message⟩, ?_, rfl⟩
      rw [failures_builtFrom]
      exact mem_omissions_items.2 ⟨item, hi, f, hpage, rfl⟩

/-- A build that has decided on its changes returns when nothing stands in the way of them. -/
theorem returns_of_unobstructed {out : Path} {overview listing : String} {ns : List Notice}
    (hfrom : (fromDump w.disk library dump config).run [] =
      (.ok (builtItems library crate items config overview listing), ns))
    (hfree : w.disk.Unobstructed out) (hfiles : BesidePages config sidecar report)
    (hbeside : Disk.IsFileName sidecar ∧ Disk.IsFileName report)
    (hpages : ∀ item ∈ items, Disk.IsFileName (pageName (fullPath library crate item))) :
    ∃ r w', (buildFromDump library dump out config).run w = (.ok r, w') := by
  have hrun := run_buildFromDump out hfrom
  rw [Corpus.applied_unobstructed hfree hfiles hbeside (isFileName_files hpages)] at hrun
  exact ⟨_, _, hrun⟩

end

/-! ## A dump of two items -/

namespace TwoItems

/-- A dump of a macro, and of a constant whose type cannot be read. -/
def value : Json := .obj [("root", .str "0"),
  ("index", .obj [
    ("1", .obj [("id", .str "1"), ("name", .str "S"), ("visibility", .str "public"),
      ("inner", .obj [("macro", .str "")])]),
    ("2", .obj [("id", .str "2"), ("name", .str "T"), ("visibility", .str "public"),
      ("inner", .obj [("constant", .obj [("type", .obj [("array", .obj [])])])])])]),
  ("paths", .obj [("1", .obj [("path", .arr [.str "a", .str "S"])]),
    ("2", .obj [("path", .arr [.str "a", .str "T"])])])]

def good : Item := ⟨"1", .str "S", .pub, .null, "macro", .obj [("value", .str "")], true⟩

def bad : Item :=
  ⟨"2", .str "T", .pub, .null, "constant", .obj [("type", .obj [("array", .obj [])])], true⟩

def crate : Crate where
  root := "0"
  items := [("1", good), ("2", bad)]
  paths := [("1", [.str "a", .str "S"]), ("2", [.str "a", .str "T"])]
  pathKinds := [("1", .str ""), ("2", .str "")]
  version := .null
  formatVersion := .null

def dump : Path := ⟨"", ["a.json"]⟩

/-- A workspace that holds the dump. -/
def workspace : Workspace where
  disk := ⟨[(["a.json"], .file (Text.Utf8.encode (value.pretty ++ "\n")))]⟩

def root : Path := ⟨"", ["out"]⟩

theorem isTextual_value : value.IsTextual := by
  simp [value, Json.IsTextual, Json.AllTextualMembers, Json.AllTextual]

theorem loadCrate_dump : loadCrate workspace.disk dump = .ok crate :=
  (loadCrate_of_find isTextual_value rfl).trans rfl

theorem publicItems_crate : crate.publicItems = .ok [good, bad] := by
  have hids : crate.memberIds = .ok [] := by rfl
  have hsort : [good, bad].mergeSort (fun a b =>
      Text.le (crate.qualifiedName a) (crate.qualifiedName b)) = [good, bad] := by
    apply List.mergeSort_of_pairwise
    rw [List.pairwise_pair]
    decide
  rw [Crate.publicItems, hids]
  exact congrArg Except.ok hsort

theorem itemPage_good : ∃ text, Rustdoc.itemPage crate good = .ok text := ⟨_, rfl⟩

theorem itemPage_bad : Rustdoc.itemPage crate bad = .error (.missingKey "type") := by rfl

theorem toldApart : ToldApart ⟨"a"⟩ crate [good, bad] where
  library := by
    rw [show LibraryName.canonical ⟨"a"⟩ = "a" from rfl]
    decide
  distinct := by decide
  nonempty := by decide
  identifiers := by
    simp only [List.forall_mem_cons, show innerNames crate good = ["S"] from rfl,
      show innerNames crate bad = ["T"] from rfl]
    decide

/-- Nothing stands in the way beside a dump. -/
theorem unobstructed_dump (bytes : ByteArray) :
    Disk.Unobstructed ⟨[(["a.json"], .file bytes)]⟩ (root.child "a") := by
  have hchild : root.child "a" = ⟨"", ["out", "a"]⟩ := Path.child_name (by decide)
  rw [hchild]
  exact Disk.unobstructed_of_new (show Path.IsPlain "out" by decide) (by simp) rfl rfl (by decide)
    (by decide) (by decide) (by decide)

theorem unobstructed : workspace.disk.Unobstructed (root.child "a") := unobstructed_dump _

theorem isStr_name : ∀ item ∈ [good, bad], item.name.IsStr := by
  simp only [List.forall_mem_cons]
  exact ⟨⟨"S", rfl⟩, ⟨"T", rfl⟩, List.forall_mem_nil _⟩

theorem exists_overview : ∃ overview, Rustdoc.overviewPage crate = .ok overview :=
  Rustdoc.exists_overviewPage publicItems_crate isStr_name rfl

theorem exists_listing : ∃ listing, Rustdoc.listing crate = .ok listing :=
  Rustdoc.exists_listing publicItems_crate isStr_name

theorem isOfItem_of_error : ∀ item ∈ [good, bad], ∀ f, Rustdoc.itemPage crate item = .error f →
    isOfItem f = true := by
  obtain ⟨text, htext⟩ := itemPage_good
  simp only [List.forall_mem_cons, htext, itemPage_bad]
  simp [isOfItem]

/-- The build of the two items returns. -/
theorem returns : ∃ r w', (buildFromDump ⟨"a"⟩ dump (root.child "a") Config.standard).run
    workspace = (.ok r, w') := by
  obtain ⟨overview, hoverview⟩ := exists_overview
  obtain ⟨listing, hlisting⟩ := exists_listing
  have hfast : failsFast Config.standard = .ok false := rfl
  obtain ⟨ns, hfrom⟩ := run_fromDump ⟨"a"⟩ [] hfast loadCrate_dump hoverview hlisting
    publicItems_crate isOfItem_of_error
  exact returns_of_unobstructed hfrom unobstructed Corpus.besidePages_standard (by decide)
    (by decide)

end TwoItems

/-- In a corpus with a page for `S` and none for `T`, both are looked up. -/
theorem resolve_two_items : ∃ r w' text, (buildFromDump ⟨"a"⟩ TwoItems.dump
      (TwoItems.root.child "a") Config.standard).run TwoItems.workspace = (.ok r, w') ∧
    Rustdoc.itemPage TwoItems.crate TwoItems.good = .ok text ∧
    Resolver.LeadsTo ⟨TwoItems.root, .str "metadata.json", []⟩ w'.disk
      (writtenPath "a" [(.dot, "S")]) text ∧
    Resolver.resolveText ⟨TwoItems.root, .str "metadata.json", []⟩ w'.disk
      (writtenPath "a" [(.colons, "T")]) =
        .error (.problem (.unresolved (writtenPath "a" [(.colons, "T")]) "a")) := by
  obtain ⟨r, w', hrun⟩ := TwoItems.returns
  obtain ⟨text, htext⟩ := TwoItems.itemPage_good
  obtain ⟨overview, -, h⟩ := resolve_of_buildFromDump TwoItems.loadCrate_dump
    TwoItems.publicItems_crate TwoItems.toldApart Corpus.besidePages_standard hrun
  obtain ⟨-, hitems⟩ := h "a" rfl
  obtain ⟨hpage, -, -⟩ := hitems TwoItems.good (by simp) [(.dot, "S")] rfl
  obtain ⟨-, hmissing, hor⟩ := hitems TwoItems.bad (by simp) [(.colons, "T")] rfl
  refine ⟨r, w', text, hrun, htext, hpage text htext, hmissing ?_⟩
  rcases hor with ⟨text', htext'⟩ | hfailure
  · rw [TwoItems.itemPage_bad] at htext'
    cases htext'
  · exact hfailure

end CrateBook.Build
