import CrateBook.Proofs.Build.Run

/-!
# What becomes of items

Both kinds of build go through their items in order and end with each either in a page or in a
failure of the report. `Outcome` says which, and what has been built is a fold over the outcomes
(`writeItems_ok`, `convertItems_ok`). So the report lists the items in order, and the item map and
the files are those of the pages, set one after another: `builtFrom` is what is built from outcomes,
and the lemmas about it read off its report, its item map and its files.
-/

namespace CrateBook.Build

open Corpus (Built Omission Resolver)
open Json (setMember setMembers)
open Rustdoc (Crate Item)

/-- What becomes of an item. -/
inductive Outcome where
  | made (itemPath page text : String)
  | omitted (o : Omission)

namespace Outcome

/-- The full path of the item. -/
def itemPath : Outcome → String
  | made itemPath _ _ => itemPath
  | omitted o => o.itemPath

/-- The item with its page, if it has one: its full path, the name of the page and its text. -/
def page? : Outcome → Option (String × String × String)
  | made itemPath page text => some (itemPath, page, text)
  | omitted _ => none

/-- The failure, if there is one. -/
def omission? : Outcome → Option Omission
  | made .. => none
  | omitted o => some o

/-- What has been built after an item. -/
def add (b : Built) : Outcome → Built
  | made itemPath page text => addPage b itemPath page text
  | omitted o => addOmission b o.itemPath o.source o.cause

end Outcome

/-- The items with pages. -/
def pages (os : List Outcome) : List (String × String × String) := os.filterMap Outcome.page?

/-- What has been built after items. -/
def Outcome.addAll (b : Built) (os : List Outcome) : Built := os.foldl Outcome.add b

variable {b built : Built} {os : List Outcome}

theorem converted_addAll : (Outcome.addAll b os).report.converted =
    b.report.converted ++ (pages os).map (·.1) := by
  induction os generalizing b with
  | nil => simp [Outcome.addAll, pages]
  | cons o os ih =>
    refine (ih (b := o.add b)).trans ?_
    cases o <;>
      simp [pages, List.filterMap_cons, Outcome.page?, Outcome.add, addPage, addOmission,
        Corpus.Report.addConverted, Corpus.Report.addFailure]

theorem failures_addAll : (Outcome.addAll b os).report.failures =
    b.report.failures ++ os.filterMap Outcome.omission? := by
  induction os generalizing b with
  | nil => simp [Outcome.addAll]
  | cons o os ih =>
    refine (ih (b := o.add b)).trans ?_
    cases o <;>
      simp [List.filterMap_cons, Outcome.omission?, Outcome.add, addPage, addOmission,
        Corpus.Report.addConverted, Corpus.Report.addFailure]

theorem itemMap_addAll : (Outcome.addAll b os).itemMap =
    setMembers ((pages os).map fun e => (e.1, e.2.1)) b.itemMap := by
  induction os generalizing b with
  | nil => rfl
  | cons o os ih =>
    refine (ih (b := o.add b)).trans ?_
    cases o <;> rfl

theorem files_addAll : (Outcome.addAll b os).files =
    setMembers ((pages os).map (·.2)) b.files := by
  induction os generalizing b with
  | nil => rfl
  | cons o os ih =>
    refine (ih (b := o.add b)).trans ?_
    cases o <;> rfl

/-! ## Items in order -/

theorem sublist_pages (os : List Outcome) :
    ((pages os).map (·.1)).Sublist (os.map Outcome.itemPath) := by
  induction os with
  | nil => exact .slnil
  | cons o os ih =>
    cases o with
    | made itemPath page text => exact ih.cons_cons itemPath
    | omitted o => exact ih.cons o.itemPath

theorem sublist_omissions (os : List Outcome) :
    ((os.filterMap Outcome.omission?).map (·.itemPath)).Sublist (os.map Outcome.itemPath) := by
  induction os with
  | nil => exact .slnil
  | cons o os ih =>
    cases o with
    | made itemPath page text => exact ih.cons itemPath
    | omitted o => exact ih.cons_cons o.itemPath

/-- Every item has a page or a failure. -/
theorem perm_itemPaths (os : List Outcome) :
    ((pages os).map (·.1) ++ (os.filterMap Outcome.omission?).map (·.itemPath)).Perm
      (os.map Outcome.itemPath) := by
  induction os with
  | nil => exact .nil
  | cons o os ih =>
    cases o with
    | made itemPath page text => exact ih.cons itemPath
    | omitted o => exact List.perm_middle.trans (ih.cons o.itemPath)

/-! ## What is built -/

/-- What is built from outcomes, after the two pages of the library itself. -/
def builtFrom (library : LibraryName) (config : Json) (overview listing : String)
    (os : List Outcome) : Built :=
  Outcome.addAll
    { files := [(Resolver.overviewName, overview), (Resolver.listingName, listing)]
      report := { library := library.declared, digest := Config.digest config } } os

section

variable {library : LibraryName} {config : Json} {overview listing : String}
  {e : String × String × String}

theorem converted_builtFrom :
    (builtFrom library config overview listing os).report.converted = (pages os).map (·.1) :=
  converted_addAll.trans (List.nil_append _)

theorem failures_builtFrom :
    (builtFrom library config overview listing os).report.failures =
      os.filterMap Outcome.omission? :=
  failures_addAll.trans (List.nil_append _)

theorem itemMap_builtFrom :
    (builtFrom library config overview listing os).itemMap =
      setMembers ((pages os).map fun e => (e.1, e.2.1)) [] := itemMap_addAll

theorem files_builtFrom :
    (builtFrom library config overview listing os).files =
      setMembers ((pages os).map (·.2))
        [(Resolver.overviewName, overview), (Resolver.listingName, listing)] := files_addAll

theorem nodup_itemMap_builtFrom :
    ((builtFrom library config overview listing os).itemMap.map (·.1)).Nodup := by
  rw [itemMap_builtFrom]
  exact Json.nodup_keys_setMembers List.nodup_nil

theorem nodup_files_builtFrom :
    ((builtFrom library config overview listing os).files.map (·.1)).Nodup := by
  rw [files_builtFrom]
  exact Json.nodup_keys_setMembers (by simp [Resolver.overviewName, Resolver.listingName])

/-- The files of a build are the pages of items, the overview and the listing. -/
theorem mem_keys_files {name : String} :
    name ∈ (builtFrom library config overview listing os).files.map (·.1) ↔
      (∃ e ∈ pages os, e.2.1 = name) ∨ name = Resolver.overviewName ∨
        name = Resolver.listingName := by
  rw [files_builtFrom, Json.mem_keys_setMembers]
  simp

/-- The item map has the page of an item when no item of the same path has another page. -/
theorem lookup_itemMap_builtFrom (he : e ∈ pages os)
    (hu : ∀ e' ∈ pages os, e'.1 = e.1 → e'.2.1 = e.2.1) :
    (builtFrom library config overview listing os).itemMap.lookup e.1 = some e.2.1 := by
  rw [itemMap_builtFrom]
  refine Json.lookup_setMembers_of_mem (List.mem_map.2 ⟨e, he, rfl⟩) fun page hpage => ?_
  obtain ⟨e', he', h⟩ := List.mem_map.1 hpage
  obtain ⟨hkey, rfl⟩ := Prod.mk.inj h
  exact hu e' he' hkey

theorem lookup_itemMap_eq_none {k : String} (h : ∀ e ∈ pages os, e.1 ≠ k) :
    (builtFrom library config overview listing os).itemMap.lookup k = none := by
  rw [itemMap_builtFrom, Json.lookup_setMembers_of_not_mem]
  · rfl
  · rw [List.map_map, List.mem_map]
    rintro ⟨e, he, rfl⟩
    exact h e he rfl

/-- A file holds the page of an item when no other text was written under its name. -/
theorem lookup_files_builtFrom (he : e ∈ pages os)
    (hu : ∀ e' ∈ pages os, e'.2.1 = e.2.1 → e'.2.2 = e.2.2) :
    (builtFrom library config overview listing os).files.lookup e.2.1 = some e.2.2 := by
  rw [files_builtFrom]
  refine Json.lookup_setMembers_of_mem (List.mem_map.2 ⟨e, he, rfl⟩) fun text htext => ?_
  obtain ⟨e', he', h⟩ := List.mem_map.1 htext
  have hname : e'.2.1 = e.2.1 := by rw [h]
  rw [← hu e' he' hname, h]

/-- What stands under the name of no page of an item is kept. -/
theorem lookup_own_builtFrom {name : String} (h : ∀ e ∈ pages os, e.2.1 ≠ name) :
    (builtFrom library config overview listing os).files.lookup name =
      [(Resolver.overviewName, overview), (Resolver.listingName, listing)].lookup name := by
  rw [files_builtFrom, Json.lookup_setMembers_of_not_mem]
  rw [List.map_map, List.mem_map]
  rintro ⟨e, he, hname⟩
  exact h e he hname

/-- The overview is kept when no item has a page of its name. -/
theorem lookup_overview_builtFrom (h : ∀ e ∈ pages os, e.2.1 ≠ Resolver.overviewName) :
    (builtFrom library config overview listing os).files.lookup Resolver.overviewName =
      some overview := lookup_own_builtFrom h

theorem lookup_listing_builtFrom (h : ∀ e ∈ pages os, e.2.1 ≠ Resolver.listingName) :
    (builtFrom library config overview listing os).files.lookup Resolver.listingName =
      some listing := lookup_own_builtFrom h

end

/-! ## Items of a dump -/

variable {library : LibraryName} {crate : Crate} {failFast : Bool} {items : List Item}
  {ns ns' : List Notice}

/-- What becomes of an item of a dump. -/
def itemOutcome (library : LibraryName) (crate : Crate) (item : Item) : Outcome :=
  let itemPath := fullPath library crate item
  match Rustdoc.itemPage crate item with
  | .ok text => .made itemPath (pageName itemPath) text
  | .error f => .omitted ⟨itemPath, item.id, f.message⟩

theorem writeItems_ok
    (h : (writeItems library crate failFast items b).run ns = (.ok built, ns')) :
    built = Outcome.addAll b (items.map (itemOutcome library crate)) := by
  induction items generalizing b ns with
  | nil => cases h; rfl
  | cons item rest ih =>
    rw [writeItems] at h
    dsimp only at h
    split at h <;> rename_i hpage
    · refine (ih h).trans ?_
      simp [Outcome.addAll, itemOutcome, hpage, Outcome.add]
    · rename_i f
      cases hstop : failFast || !isOfItem f with
      | true =>
        rw [hstop] at h
        cases h
      | false =>
        rw [hstop, if_neg Bool.false_ne_true] at h
        obtain ⟨_, _, -, hrest⟩ := of_run_bind h
        refine (ih hrest).trans ?_
        simp [Outcome.addAll, itemOutcome, hpage, Outcome.add]

/-- A build goes on past every item whose fault concerns only that item. -/
theorem writeItems_returns (hof : ∀ item ∈ items, ∀ f, Rustdoc.itemPage crate item = .error f →
    isOfItem f = true) (ns : List Notice) :
    ∃ ns', (writeItems library crate false items b).run ns =
      (.ok (Outcome.addAll b (items.map (itemOutcome library crate))), ns') := by
  induction items generalizing b ns with
  | nil => exact ⟨ns, rfl⟩
  | cons item rest ih =>
    have hrest := fun {b} ns => ih (b := b) (fun i hi => hof i (List.mem_cons_of_mem _ hi)) ns
    rw [writeItems]
    dsimp only
    cases hpage : Rustdoc.itemPage crate item with
    | ok text =>
      obtain ⟨ns', h⟩ := hrest ns
      refine ⟨ns', h.trans ?_⟩
      simp [Outcome.addAll, itemOutcome, hpage, Outcome.add]
    | error f =>
      obtain ⟨ns', h⟩ := hrest (ns ++ [.skipped (fullPath library crate item) f.message])
      refine ⟨ns', Eq.trans ?_ (h.trans ?_)⟩
      · dsimp only
        rw [hof item List.mem_cons_self f hpage]
        rfl
      · simp [Outcome.addAll, itemOutcome, hpage, Outcome.add]

/-! ## Items of a listing -/

variable {disk : Disk} {skip : Page.SkipRules} {docs : Path} {entries : List (String × String)}

/-- What becomes of an item of a listing. -/
def entryOutcome (disk : Disk) (skip : Page.SkipRules) (docs : Path) (entry : String × String) :
    Outcome :=
  match convertPage disk skip (docs.child entry.2), Listing.markdownPath entry.2 with
  | .ok text, .ok page => .made entry.1 page text
  | .ok _, .error f => .omitted ⟨entry.1, entry.2, f.message⟩
  | .error f, _ => .omitted ⟨entry.1, entry.2, f.message⟩

theorem convertItems_ok
    (h : (convertItems disk skip docs failFast entries b).run ns = (.ok built, ns')) :
    built = Outcome.addAll b (entries.map (entryOutcome disk skip docs)) := by
  induction entries generalizing b ns with
  | nil => cases h; rfl
  | cons entry rest ih =>
    obtain ⟨itemPath, fragment⟩ := entry
    rw [convertItems] at h
    split at h <;> rename_i hpage
    · obtain ⟨page, _, hpath, hrest⟩ := of_run_bind h
      have hpath := (of_run_orFault hpath).1
      refine (ih hrest).trans ?_
      simp [Outcome.addAll, entryOutcome, hpage, hpath, Outcome.add]
    · cases h
    · cases failFast with
      | true => cases h
      | false =>
        obtain ⟨_, _, -, hrest⟩ := of_run_bind h
        refine (ih hrest).trans ?_
        simp [Outcome.addAll, entryOutcome, hpage, Outcome.add, Failure.message]

/-- A build goes on past every page that cannot be converted, unless that is more than a problem of
the page. -/
theorem convertItems_cases (hpath : ∀ entry ∈ entries, ∀ text,
    convertPage disk skip (docs.child entry.2) = .ok text →
      ∃ page, Listing.markdownPath entry.2 = .ok page) (ns : List Notice) :
    ((∀ entry ∈ entries, ∀ f, convertPage disk skip (docs.child entry.2) ≠ .error (.fault f)) ∧
      ∃ ns', (convertItems disk skip docs false entries b).run ns =
        (.ok (Outcome.addAll b (entries.map (entryOutcome disk skip docs))), ns')) ∨
    ∃ entry ∈ entries, ∃ f ns', convertPage disk skip (docs.child entry.2) = .error (.fault f) ∧
      (convertItems disk skip docs false entries b).run ns = (.error (.fault f), ns') := by
  induction entries generalizing b ns with
  | nil => exact .inl ⟨fun _ h => absurd h List.not_mem_nil, ns, rfl⟩
  | cons entry rest ih =>
    obtain ⟨itemPath, fragment⟩ := entry
    have hrest := fun {b} ns => ih (b := b) (fun e he => hpath e (List.mem_cons_of_mem _ he)) ns
    rw [convertItems]
    cases hpage : convertPage disk skip (docs.child fragment) with
    | ok text =>
      obtain ⟨page, hp⟩ := hpath (itemPath, fragment) List.mem_cons_self text hpage
      have hstep := run_bind (g := fun page => convertItems disk skip docs false rest
        (addPage b itemPath page text)) (run_orFault hp ns)
      rcases hrest (b := addPage b itemPath page text) ns with ⟨hnone, ns', h⟩ |
        ⟨e, he, f, ns', hf, h⟩
      · refine .inl ⟨List.forall_mem_cons.2 ⟨fun f => ?_, hnone⟩, ns', hstep.trans (h.trans ?_)⟩
        · simp [hpage]
        · simp [Outcome.addAll, entryOutcome, hpage, hp, Outcome.add]
      · exact .inr ⟨e, List.mem_cons_of_mem _ he, f, ns', hf, hstep.trans h⟩
    | error f =>
      cases f with
      | fault f => exact .inr ⟨_, List.mem_cons_self, f, ns, hpage, rfl⟩
      | problem p =>
        rcases hrest (b := addOmission b itemPath fragment p.message)
          (ns ++ [.skipped itemPath p.message]) with ⟨hnone, ns', h⟩ | ⟨e, he, f, ns', hf, h⟩
        · refine .inl ⟨List.forall_mem_cons.2 ⟨fun f => ?_, hnone⟩, ns', Eq.trans rfl (h.trans ?_)⟩
          · simp [hpage]
          · simp [Outcome.addAll, entryOutcome, hpage, Outcome.add, Failure.message]
        · exact .inr ⟨e, List.mem_cons_of_mem _ he, f, ns', hf, Eq.trans rfl h⟩

end CrateBook.Build
