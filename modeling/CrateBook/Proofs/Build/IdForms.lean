import CrateBook.Proofs.Build.Dump
import CrateBook.Proofs.Rustdoc.Ids.Dumps

/-!
# Old and new forms of ids

Dumps that differ only in how they write the ids of items, as numbers or as texts, are built alike.
What is built from a crate, `fromCrate`, is what is built from the crate with texts for ids, and two
such dumps record the same crate with texts for ids.
-/

namespace CrateBook.Build

open Corpus (Built Resolver)
open Rustdoc (Crate Item respell)

variable {library : LibraryName} {dump dump' out : Path} {config : Json} {disk : Disk}
  {c c' : Crate} {v v' : Json} {w : Workspace}

/-! ## Building from a crate -/

/-- What is built from a crate. -/
def fromCrate (library : LibraryName) (config : Json) (failFast : Bool) (crate : Crate) :
    Reported Built := do
  let overview ← orFault (Rustdoc.overviewPage crate)
  let listing ← orFault (Rustdoc.listing crate)
  writeItems library crate failFast (← orFault crate.publicItems)
    { files := [(Resolver.overviewName, overview),
        (Resolver.listingName, Listing.page library.canonical listing)]
      report := { library := library.declared, digest := Config.digest config } }

theorem fromDump_eq (disk : Disk) (library : LibraryName) (dump : Path) (config : Json) :
    fromDump disk library dump config = (do
      let failFast ← orFault (failsFast config)
      fromCrate library config failFast (← orFault (loadCrate disk dump))) := rfl

theorem writeItems_textIds (failFast : Bool) (items : List Item) (b : Built) :
    writeItems library c.textIds failFast (items.map Item.textIds) b =
      writeItems library c failFast items b := by
  have hpath (i : Item) : fullPath library c.textIds i.textIds = fullPath library c i := by
    rw [fullPath, fullPath, c.spelledAs_textIds.qualifiedName]
  induction items generalizing b with
  | nil => rfl
  | cons i items ih =>
    rw [List.map_cons, writeItems, writeItems, hpath, c.spelledAs_textIds.itemPage]
    simp only [ih, Item.id_textIds]

theorem orFault_map {α β γ : Type} (f : α → β) (r : Except Fault α) (g : β → Reported γ) :
    orFault (f <$> r) >>= g = orFault r >>= fun a => g (f a) := by
  cases r <;> rfl

/-- A crate is built as it is with texts for ids. -/
theorem fromCrate_textIds (library : LibraryName) (config : Json) (failFast : Bool) (c : Crate) :
    fromCrate library config failFast c.textIds = fromCrate library config failFast c := by
  rw [fromCrate, fromCrate, Crate.overviewPage_textIds, Crate.listing_textIds,
    Crate.publicItems_textIds]
  simp only [orFault_map, writeItems_textIds]

/-! ## Dumps -/

/-- The file holds the value. -/
def Holds (disk : Disk) (dump : Path) (v : Json) : Prop :=
  ∃ text, disk.read dump = .ok text ∧ Json.read? text = some v

theorem Holds.loadCrate_eq (h : Holds disk dump v) : loadCrate disk dump = Crate.ofJson v := by
  obtain ⟨text, hread, hv⟩ := h
  rw [loadCrate, hread]
  simp only [bind, Except.bind, hv]

/-- The dumps differ only in the form of their ids. -/
def SameButIds (v v' : Json) : Prop := respell .dump v = respell .dump v'

/-- Dumps that differ only in the form of their ids record the same crate with texts for ids, or
have the same fault. -/
theorem SameButIds.textIds_ofJson (h : SameButIds v v') :
    Crate.textIds <$> Crate.ofJson v = Crate.textIds <$> Crate.ofJson v' := by
  rw [← Crate.ofJson_respell, ← Crate.ofJson_respell, h]

theorem fromDump_textIds (hv : Holds disk dump v) : fromDump disk library dump config = (do
    let failFast ← orFault (failsFast config)
    fromCrate library config failFast (← orFault (Crate.textIds <$> Crate.ofJson v))) := by
  simp only [fromDump_eq, hv.loadCrate_eq, orFault_map, fromCrate_textIds]

/-- Of a dump only what is built from it counts. -/
theorem run_buildFromDump_congr (out : Path)
    (h : fromDump w.disk library dump config = fromDump w.disk library dump' config) :
    (buildFromDump library dump out config).run w =
      (buildFromDump library dump' out config).run w := by
  rw [buildFromDump, buildFromDump, run_bind (x := Work.disk) (a := w.disk) (t := w) rfl,
    run_bind (x := Work.disk) (a := w.disk) (t := w) rfl, h]

theorem SameButIds.run_buildFromDump (h : SameButIds v v') (hv : Holds w.disk dump v)
    (hv' : Holds w.disk dump' v') : (buildFromDump library dump out config).run w =
      (buildFromDump library dump' out config).run w := by
  refine run_buildFromDump_congr out ?_
  rw [fromDump_textIds hv, fromDump_textIds hv', h.textIds_ofJson]

/-- The names of the public items, alone and with their modules, in order. -/
def publicNames (c : Crate) : Except Fault (List (Json × String)) :=
  List.map (fun i => (i.name, c.qualifiedName i)) <$> c.publicItems

theorem publicNames_textIds (c : Crate) : publicNames c.textIds = publicNames c := by
  rw [publicNames, publicNames, Crate.publicItems_textIds]
  simp [Function.comp_def, c.spelledAs_textIds.qualifiedName]

/-- The page of the item with a key, if there is one. -/
def pageOf? (c : Crate) (key : String) : Option (Except Fault String) :=
  (c.item? key).map (Rustdoc.itemPage c)

theorem pageOf?_textIds (c : Crate) (key : String) : pageOf? c.textIds key = pageOf? c key := by
  rw [pageOf?, pageOf?, c.spelledAs_textIds.item, Option.map_map]
  exact congrArg (Option.map · _) (funext c.spelledAs_textIds.itemPage)

/-- **The form of ids does not matter.** Dumps that differ only in whether their ids are numbers or
texts are both no crates, with the same fault, or record crates with the same public items in the
same order and the same page for every item; and building from one of them leaves the same report
and the same workspace as building from the other. -/
theorem ids_interchangeable (h : SameButIds v v') :
    (∀ f, Crate.ofJson v = .error f ↔ Crate.ofJson v' = .error f) ∧
    (∀ c c', Crate.ofJson v = .ok c → Crate.ofJson v' = .ok c' →
      publicNames c = publicNames c' ∧ ∀ key, pageOf? c key = pageOf? c' key) ∧
    ∀ library dump dump' out config (w : Workspace), Holds w.disk dump v → Holds w.disk dump' v' →
      (buildFromDump library dump out config).run w =
        (buildFromDump library dump' out config).run w := by
  have hcrates := h.textIds_ofJson
  refine ⟨fun f => ?_, fun c c' hc hc' => ?_, fun _ _ _ _ _ _ => h.run_buildFromDump⟩
  · have hfault (r : Except Fault Crate) : r = .error f ↔ Crate.textIds <$> r = .error f := by
      cases r <;> simp
    rw [hfault (Crate.ofJson v), hfault (Crate.ofJson v'), hcrates]
  · rw [hc, hc'] at hcrates
    have hsame : c.textIds = c'.textIds := Except.ok.inj hcrates
    refine ⟨?_, fun key => ?_⟩
    · rw [← publicNames_textIds, hsame, publicNames_textIds]
    · rw [← pageOf?_textIds, hsame, pageOf?_textIds]

/-! ## A dump with one field -/

namespace OneField

/-- A dump of a struct with one field, with these ids for the root, the struct, the field and the
type of the field. -/
def value (root struct field type : Json) : Json := .obj [("root", root),
  ("index", .obj [
    ("1", .obj [("id", struct), ("name", .str "S"), ("visibility", .str "public"),
      ("inner", .obj [("struct", .obj [
        ("kind", .obj [("plain", .obj [("fields", .arr [field])])]), ("impls", .arr [])])])]),
    ("2", .obj [("id", field), ("name", .str "f"), ("visibility", .str "public"),
      ("inner", .obj [("struct_field", .obj [
        ("resolved_path", .obj [("path", .str "T"), ("id", type)])])])])]),
  ("paths", .obj [("1", .obj [("path", .arr [.str "a", .str "S"])])])]

/-- The dump with numbers for ids. -/
def numbered : Json := value (.int 0) (.int 1) (.int 2) (.int 3)

/-- The dump with texts for ids. -/
def written : Json := value (.str "0") (.str "1") (.str "2") (.str "3")

/-- A workspace with both dumps. -/
def workspace : Workspace where
  disk := ⟨[(["new.json"], .file (Text.Utf8.encode numbered.compact)),
    (["old.json"], .file (Text.Utf8.encode written.compact))]⟩

def newDump : Path := ⟨"", ["new.json"]⟩

def oldDump : Path := ⟨"", ["old.json"]⟩

end OneField

theorem holds_of_find (hv : v.IsIntegral)
    (h : disk.find dump = .ok (.file (Text.Utf8.encode v.compact))) : Holds disk dump v :=
  ⟨v.compact, Disk.read_of_find h (Json.return_not_mem_compact v hv), Json.read?_compact hv⟩

/-- The struct is built alike from both dumps. -/
theorem ids_interchangeable_field : SameButIds OneField.numbered OneField.written ∧
    Holds OneField.workspace.disk OneField.newDump OneField.numbered ∧
    Holds OneField.workspace.disk OneField.oldDump OneField.written ∧
    (buildFromDump ⟨"a"⟩ OneField.newDump ⟨"", ["out"]⟩ Config.standard).run OneField.workspace =
      (buildFromDump ⟨"a"⟩ OneField.oldDump ⟨"", ["out"]⟩ Config.standard).run
        OneField.workspace := by
  have hsame : SameButIds OneField.numbered OneField.written := rfl
  have hnew : Holds OneField.workspace.disk OneField.newDump OneField.numbered :=
    holds_of_find (by simp [OneField.numbered, OneField.value, Json.IsIntegral,
      Json.AllIntegralMembers, Json.AllIntegral]) rfl
  have hold : Holds OneField.workspace.disk OneField.oldDump OneField.written :=
    holds_of_find (by simp [OneField.written, OneField.value, Json.IsIntegral,
      Json.AllIntegralMembers, Json.AllIntegral]) rfl
  exact ⟨hsame, hnew, hold, (ids_interchangeable hsame).2.2 _ _ _ _ _ _ hnew hold⟩

end CrateBook.Build
