import CrateBook.Proofs.Build.IdForms
import CrateBook.Proofs.Build.Isolation
import CrateBook.Proofs.Rustdoc.Tables

/-!
# The order of the tables of a dump does not matter

Dumps that record the same crate are built alike, `Crate.SameTables.fromCrate`: the pages are the
same, and public items with different names are written in one order. A dump is built from the crate
that it records, and with the tables in another order it records the same crate or none.
-/

namespace CrateBook.Build

open Corpus (Built)
open Rustdoc (Crate Item Reordered SucceedAlike HasDistinctIds)

variable {library : LibraryName} {dump dump' out : Path} {config : Json} {disk : Disk}
  {c c' : Crate} {v v' : Json} {w : Workspace}

/-! ## Faults before anything is written -/

/-- The computations are the same, or both only raise a fault. -/
def SameOrFault {α : Type} (x y : Reported α) : Prop :=
  x = y ∨ ∃ f g : Fault, x = throw (.fault f) ∧ y = throw (.fault g)

theorem SameOrFault.orFault {α β γ : Type} {R : α → β → Prop} {x : Except Fault α}
    {y : Except Fault β} {k : α → Reported γ} {k' : β → Reported γ} (h : SucceedAlike R x y)
    (hk : ∀ a b, R a b → SameOrFault (k a) (k' b)) :
    SameOrFault (orFault x >>= k) (orFault y >>= k') := by
  cases h with
  | error f g => exact .inr ⟨f, g, rfl, rfl⟩
  | ok h => exact hk _ _ h

/-! ## Building from a crate -/

theorem writeItems_sameTables (h : c.SameTables c') (failFast : Bool) (items : List Item)
    (b : Built) :
    writeItems library c' failFast items b = writeItems library c failFast items b := by
  have hpath (i : Item) : fullPath library c' i = fullPath library c i := by
    rw [fullPath, fullPath, h.qualifiedName]
  induction items generalizing b with
  | nil => rfl
  | cons i items ih =>
    rw [writeItems, writeItems, hpath, h.itemPage]
    simp only [ih]

theorem fromCrate_sameTables (h : c.SameTables c')
    (hnames : ∀ items, c.publicItems = .ok items → (items.map c.qualifiedName).Nodup)
    (library : LibraryName) (config : Json) (failFast : Bool) :
    SameOrFault (fromCrate library config failFast c) (fromCrate library config failFast c') := by
  refine SameOrFault.orFault (h.overviewPage hnames) fun overview overview' hoverview =>
    SameOrFault.orFault (h.listing hnames) fun listing listing' hlisting =>
      SameOrFault.orFault (h.publicItems hnames) fun items items' hitems => .inl ?_
  rw [hoverview, hlisting, hitems, writeItems_sameTables h]

/-! ## Building from a dump -/

/-- The dump tells its items apart: the entries of its index record different ids, and its public
items have different full names. -/
structure IsUnambiguous (v : Json) : Prop where
  ids : HasDistinctIds v
  names : ∀ c items, Crate.ofJson v = .ok c → c.publicItems = .ok items →
    (items.map c.qualifiedName).Nodup

theorem Holds.hasDistinctKeys (h : Holds disk dump v) : v.HasDistinctKeys := by
  obtain ⟨text, _, hv⟩ := h
  exact Json.hasDistinctKeys_of_read? hv

theorem fromDump_reordered (h : Reordered v v') (hv : IsUnambiguous v)
    (hold : Holds disk dump v) (hnew : Holds disk dump' v') :
    SameOrFault (fromDump disk library dump config) (fromDump disk library dump' config) := by
  rw [fromDump_eq, fromDump_eq, hold.loadCrate_eq, hnew.loadCrate_eq]
  have hcrates := (h.ofJson hold.hasDistinctKeys hv.ids).imp fun c _ hc _ h => And.intro hc h
  refine SameOrFault.orFault (.refl (R := Eq) (fun _ => rfl) (failsFast config))
    fun failFast _ hfast => ?_
  subst hfast
  refine SameOrFault.orFault hcrates fun c c' hboth => ?_
  obtain ⟨hc, hsame⟩ := hboth
  exact fromCrate_sameTables hsame (hv.names c · hc) library config failFast

/-- A fault before anything is written leaves the workspace as it is. -/
theorem run_buildFromDump_throw (out : Path) {f : Failure}
    (h : fromDump w.disk library dump config = throw f) :
    (buildFromDump library dump out config).run w = (.error f, w) := by
  have hrun : (Work.ofReported (throw f : Reported Built)).run w = (.error f, w) := by
    rw [Work.run_ofReported]
    refine Prod.ext rfl ?_
    change { w with notices := w.notices ++ [] } = w
    rw [List.append_nil]
  rw [buildFromDump, run_bind (x := Work.disk) (a := w.disk) (t := w) rfl, h]
  exact run_bind_error hrun

/-- **The order of tables does not matter.** When a dump tells its items apart, building from it and
from a dump with the same tables in another order gives the same report and leaves the same
workspace, or both raise a fault before anything is written. -/
theorem tables_reorderable (h : Reordered v v') (hv : IsUnambiguous v)
    (hold : Holds w.disk dump v) (hnew : Holds w.disk dump' v') :
    (buildFromDump library dump out config).run w =
        (buildFromDump library dump' out config).run w ∨
      ∃ f g, (buildFromDump library dump out config).run w = (.error (.fault f), w) ∧
        (buildFromDump library dump' out config).run w = (.error (.fault g), w) := by
  rcases fromDump_reordered h hv hold hnew with hsame | ⟨f, g, hf, hg⟩
  · exact .inl (run_buildFromDump_congr out hsame)
  · exact .inr ⟨f, g, run_buildFromDump_throw out hf, run_buildFromDump_throw out hg⟩

/-! ## A dump of two traits -/

namespace TwoTraits

/-- The entry of a trait in the index. -/
def entry (id name : String) : String × Json := (id, .obj [("id", .str id), ("name", .str name),
  ("visibility", .str "public"), ("inner", .obj [("trait", .obj [])])])

/-- The path of a trait. -/
def summary (id name : String) : String × Json :=
  (id, .obj [("path", .arr [.str "a", .str name])])

/-- A dump with these tables. -/
def value (index paths : List (String × Json)) : Json :=
  .obj [("root", .str "0"), ("index", .obj index), ("paths", .obj paths)]

/-- The dump with the traits in one order. -/
def before : Json := value [entry "1" "S", entry "2" "T"] [summary "1" "S", summary "2" "T"]

/-- The dump with the traits in the other order. -/
def after : Json := value [entry "2" "T", entry "1" "S"] [summary "2" "T", summary "1" "S"]

/-- A workspace with both dumps. -/
def workspace : Workspace where
  disk := ⟨[(["before.json"], .file (Text.Utf8.encode before.compact)),
    (["after.json"], .file (Text.Utf8.encode after.compact))]⟩

theorem reordered : Reordered before after :=
  .obj <| .cons (.refl _) <| .cons (.table (.inl rfl) (.swap ..)) <|
    .cons (.table (.inr rfl) (.swap ..)) .nil

theorem isUnambiguous : IsUnambiguous before where
  ids rows h := by
    cases h
    decide
  names c items hc hitems := by
    cases hc
    exact Crate.nodup_publicItems (by decide) hitems

theorem holds_before : Holds workspace.disk ⟨"", ["before.json"]⟩ before :=
  holds_of_find (by simp [before, value, entry, summary, Json.IsIntegral, Json.AllIntegralMembers,
    Json.AllIntegral]) rfl

theorem holds_after : Holds workspace.disk ⟨"", ["after.json"]⟩ after :=
  holds_of_find (by simp [after, value, entry, summary, Json.IsIntegral, Json.AllIntegralMembers,
    Json.AllIntegral]) rfl

/-- What building from a dump in the workspace does. -/
def built (name : String) : Except Failure Corpus.Report × Workspace :=
  (buildFromDump ⟨"a"⟩ ⟨"", [name]⟩ ⟨"", ["out"]⟩ Config.standard).run workspace

/-! ### The build returns -/

def item (id name : String) : Item := ⟨id, .str name, .pub, .null, "trait", .obj [], true⟩

/-- The crate that the first dump records. -/
def crate : Crate where
  root := "0"
  items := [("1", item "1" "S"), ("2", item "2" "T")]
  paths := [("1", [.str "a", .str "S"]), ("2", [.str "a", .str "T"])]
  pathKinds := [("1", .str ""), ("2", .str "")]
  version := .null
  formatVersion := .null

theorem publicItems_crate : crate.publicItems = .ok [item "1" "S", item "2" "T"] := by
  have hids : crate.memberIds = .ok [] := by rfl
  have hsort : [item "1" "S", item "2" "T"].mergeSort (fun a b =>
      Text.le (crate.qualifiedName a) (crate.qualifiedName b)) = [item "1" "S", item "2" "T"] := by
    apply List.mergeSort_of_pairwise
    rw [List.pairwise_pair]
    decide
  rw [Crate.publicItems, hids]
  exact congrArg Except.ok hsort

theorem exists_itemPage :
    ∀ i ∈ [item "1" "S", item "2" "T"], ∃ text, Rustdoc.itemPage crate i = .ok text := by
  simp only [List.forall_mem_cons]
  exact ⟨⟨_, rfl⟩, ⟨_, rfl⟩, List.forall_mem_nil _⟩

theorem returns_before : ∃ r w', built "before.json" = (.ok r, w') := by
  have hcrate : loadCrate workspace.disk ⟨"", ["before.json"]⟩ = .ok crate :=
    holds_before.loadCrate_eq.trans rfl
  have hnames : ∀ i ∈ [item "1" "S", item "2" "T"], i.name.IsStr := by
    simp only [List.forall_mem_cons]
    exact ⟨⟨"S", rfl⟩, ⟨"T", rfl⟩, List.forall_mem_nil _⟩
  obtain ⟨overview, hoverview⟩ := Rustdoc.exists_overviewPage publicItems_crate hnames rfl
  obtain ⟨listing, hlisting⟩ := Rustdoc.exists_listing publicItems_crate hnames
  have hfast : failsFast Config.standard = .ok false := rfl
  obtain ⟨ns, hfrom⟩ := run_fromDump ⟨"a"⟩ [] hfast hcrate hoverview hlisting publicItems_crate
    fun i hi f hf => by
      obtain ⟨text, htext⟩ := exists_itemPage i hi
      cases hf.symm.trans htext
  have hfree : workspace.disk.Unobstructed ⟨"", ["out"]⟩ :=
    Disk.unobstructed_of_new (show Path.IsPlain "out" by decide) (by decide) rfl rfl (by decide)
      (by decide) (by decide) (by decide)
  exact returns_of_unobstructed hfrom hfree Corpus.besidePages_standard (by decide) (by decide)

end TwoTraits

/-- The traits are built in both orders, with one report and into one workspace. -/
theorem tables_reorderable_traits : Reordered TwoTraits.before TwoTraits.after ∧
    IsUnambiguous TwoTraits.before ∧
    Holds TwoTraits.workspace.disk ⟨"", ["before.json"]⟩ TwoTraits.before ∧
    Holds TwoTraits.workspace.disk ⟨"", ["after.json"]⟩ TwoTraits.after ∧
    ∃ r w', TwoTraits.built "before.json" = (.ok r, w') ∧
      TwoTraits.built "after.json" = (.ok r, w') := by
  refine ⟨TwoTraits.reordered, TwoTraits.isUnambiguous, TwoTraits.holds_before,
    TwoTraits.holds_after, ?_⟩
  obtain ⟨r, w', hbefore⟩ := TwoTraits.returns_before
  refine ⟨r, w', hbefore, ?_⟩
  have hsame : TwoTraits.built "before.json" = TwoTraits.built "after.json" ∨
      ∃ f g, TwoTraits.built "before.json" = (.error (.fault f), TwoTraits.workspace) ∧
        TwoTraits.built "after.json" = (.error (.fault g), TwoTraits.workspace) :=
    tables_reorderable TwoTraits.reordered TwoTraits.isUnambiguous TwoTraits.holds_before
      TwoTraits.holds_after
  rcases hsame with hsame | ⟨f, g, hfault, -⟩
  · exact hsame ▸ hbefore
  · cases hbefore.symm.trans hfault

end CrateBook.Build
