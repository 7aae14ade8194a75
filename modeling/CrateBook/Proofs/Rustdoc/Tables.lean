import CrateBook.Proofs.Json.Distinct
import CrateBook.Proofs.Rustdoc.Ids.Dumps

/-!
# The order of the tables of a dump

A dump records items and paths in two tables, objects whose rows may stand in any order. When the
rows record different ids, lookups in the crate do not depend on their order (`Crate.SameTables`),
so it has the same pages; and when its public items have different names, they have one order, so
its overview and its listing are the same too. Which row is read first matters only to the fault of
a dump with several malformed rows: `SucceedAlike` relates results up to faults.
-/

namespace CrateBook.Rustdoc

/-! ## Results up to faults -/

/-- Both results are faults, or both are values that are related. -/
inductive SucceedAlike {α β : Type} (R : α → β → Prop) : Except Fault α → Except Fault β → Prop
  | error (f g : Fault) : SucceedAlike R (.error f) (.error g)
  | ok {a : α} {b : β} (h : R a b) : SucceedAlike R (.ok a) (.ok b)

namespace SucceedAlike

variable {α β γ δ : Type} {R : α → β → Prop} {S : γ → δ → Prop} {x : Except Fault α}
  {y : Except Fault β} {f : α → Except Fault γ} {g : β → Except Fault δ}

theorem refl {R : α → α → Prop} (hR : ∀ a, R a a) (x : Except Fault α) : SucceedAlike R x x := by
  cases x with
  | error e => exact .error e e
  | ok a => exact .ok (hR a)

theorem trans {R R' : α → α → Prop} {x y z : Except Fault α} (h : SucceedAlike R x y)
    (h' : SucceedAlike R' y z) {T : α → α → Prop} (hT : ∀ a b c, R a b → R' b c → T a c) :
    SucceedAlike T x z := by
  cases h with
  | error e _ =>
    cases h' with
    | error _ e' => exact .error e e'
  | ok h =>
    cases h' with
    | ok h' => exact .ok (hT _ _ _ h h')

theorem bind (h : SucceedAlike R x y) (hfg : ∀ a b, R a b → SucceedAlike S (f a) (g b)) :
    SucceedAlike S (x >>= f) (y >>= g) := by
  cases h with
  | error e e' => exact .error e e'
  | ok h => exact hfg _ _ h

theorem imp {T : α → β → Prop} (h : SucceedAlike R x y)
    (hT : ∀ a b, x = .ok a → y = .ok b → R a b → T a b) : SucceedAlike T x y := by
  cases h with
  | error e e' => exact .error e e'
  | ok h => exact .ok (hT _ _ rfl rfl h)

/-- The order in which values are made matters only to the first fault. -/
theorem mapM_perm {l l' : List α} (h : l.Perm l') (f : α → Except Fault γ) :
    SucceedAlike List.Perm (l.mapM f) (l'.mapM f) := by
  induction h with
  | nil => exact .ok .nil
  | @cons a l l' _ ih =>
    rw [List.mapM_cons, List.mapM_cons]
    exact (refl (fun _ => rfl) (f a)).bind fun c c' hc =>
      ih.bind fun cs cs' hcs => .ok (hc ▸ hcs.cons c)
  | swap a b l =>
    simp only [List.mapM_cons]
    -- the faults of the two heads are found in either order
    cases f a with
    | error e =>
      cases f b with
      | error e' => exact .error e' e
      | ok d => exact .error e e
    | ok c =>
      cases f b with
      | error e => exact .error e e
      | ok d =>
        cases l.mapM f with
        | error e => exact .error e e
        | ok cs => exact .ok (.swap c d cs)
  | trans _ _ ih ih' => exact ih.trans ih' fun _ _ _ => .trans

/-- The order in which values are checked matters only to the first fault. -/
theorem forM_perm {l l' : List α} (h : l.Perm l') (f : α → Except Fault PUnit) :
    SucceedAlike Eq (l.forM f) (l'.forM f) := by
  rw [forM_eq_mapM, forM_eq_mapM]
  exact (mapM_perm h f).bind fun _ _ _ => .ok rfl

end SucceedAlike

/-! ## Rows with distinct keys -/

/-- The second list has the rows of the first one, whose keys are distinct. -/
structure SameRows {α : Type} (l l' : List (String × α)) : Prop where
  perm : l.Perm l'
  nodup : (l.map (·.1)).Nodup

namespace SameRows

variable {α β : Type} {l l' : List (String × α)}

theorem nodup' (h : SameRows l l') : (l'.map (·.1)).Nodup :=
  (h.perm.map _).nodup_iff.1 h.nodup

theorem lookup_eq (h : SameRows l l') (key : String) : l.lookup key = l'.lookup key :=
  Json.lookup_perm h.nodup h.perm

theorem map_snd (h : SameRows l l') (f : α → β) :
    SameRows (l.map fun e => (e.1, f e.2)) (l'.map fun e => (e.1, f e.2)) where
  perm := h.perm.map _
  nodup := by simpa [Function.comp_def] using h.nodup

theorem keys_mapM {rows : List α} {f : α → Except Fault (String × β)} {key : α → String}
    (hkey : ∀ a ∈ rows, ∀ b, f a = .ok b → b.1 = key a) {l : List (String × β)}
    (hl : rows.mapM f = .ok l) : l.map (·.1) = rows.map key := by
  have hread := forall₂_of_mapM hl
  clear hl
  induction hread with
  | nil => rfl
  | cons hb _ ih =>
    obtain ⟨ha, hrows⟩ := List.forall_mem_cons.1 hkey
    rw [List.map_cons, List.map_cons, ha _ hb, ih hrows]

/-- Rows that are read in another order are the same rows. -/
theorem mapM {rows rows' : List α} (hp : rows.Perm rows') {f : α → Except Fault (String × β)}
    {key : α → String} (hkey : ∀ a ∈ rows, ∀ b, f a = .ok b → b.1 = key a)
    (hn : (rows.map key).Nodup) : SucceedAlike SameRows (rows.mapM f) (rows'.mapM f) :=
  (SucceedAlike.mapM_perm hp f).imp fun _ _ hl _ h => ⟨h, by rwa [keys_mapM hkey hl]⟩

end SameRows

/-! ## Crates -/

/-- The crates record the same items and paths, in any order. -/
structure Crate.SameTables (c c' : Crate) : Prop where
  items : SameRows c.items c'.items
  paths : SameRows c.paths c'.paths
  root : c'.root = c.root
  version : c'.version = c.version

variable {c c' : Crate} {i : Item}

/-- Public items have different names if all items have. -/
theorem Crate.nodup_publicItems {items : List Item}
    (hn : (c.items.map fun e => c.qualifiedName e.2).Nodup) (hitems : c.publicItems = .ok items) :
    (items.map c.qualifiedName).Nodup := by
  obtain ⟨ms, _, hitems⟩ := exists_of_bind_eq_ok hitems
  obtain ⟨_, _, hitems⟩ := exists_of_bind_eq_ok hitems
  cases hitems
  refine ((List.mergeSort_perm _ _).map _).nodup_iff.2 (.sublist (List.filter_sublist.map _) ?_)
  rwa [List.map_map]

namespace Crate.SameTables

variable (h : c.SameTables c')

include h

/-- Crates that are looked up in alike are spelled alike. -/
theorem spelledAs : c'.SpelledAs c.textIds where
  item key := by
    rw [c.spelledAs_textIds.item, Crate.item?, Crate.item?, h.items.lookup_eq]
  path key := by rw [c.spelledAs_textIds.path, Crate.path?, Crate.path?, h.paths.lookup_eq]
  isEmpty_paths := h.paths.perm.isEmpty_eq
  root := h.root.symm
  version := h.version.symm

theorem rootItem? : c'.rootItem? = c.rootItem? := by
  rw [Crate.rootItem?, Crate.rootItem?, Crate.item?, Crate.item?, h.root, h.items.lookup_eq]

theorem name : c'.name = c.name := by
  rw [← h.spelledAs.name, c.spelledAs_textIds.name]

theorem qualifiedName (i : Item) : c'.qualifiedName i = c.qualifiedName i := by
  rw [← h.spelledAs.qualifiedName, c.spelledAs_textIds.qualifiedName]

theorem itemPage (i : Item) : itemPage c' i = itemPage c i := by
  rw [← h.spelledAs.itemPage, c.spelledAs_textIds.itemPage]

theorem isListed (i : Item) : c'.isListed i = c.isListed i := by
  rw [Crate.isListed, Crate.isListed, h.root, Crate.path?, Crate.path?, h.paths.lookup_eq,
    h.paths.perm.isEmpty_eq]

/-! ## Public items -/

theorem memberIds : SucceedAlike List.Perm c.memberIds c'.memberIds :=
  (SucceedAlike.mapM_perm (h.items.perm.filter _) _).bind fun _ _ hids =>
    .ok (hids.flatten.filterMap _)

/-- Public items with different names have one order. -/
theorem publicItems
    (hnames : ∀ items, c.publicItems = .ok items → (items.map c.qualifiedName).Nodup) :
    SucceedAlike Eq c.publicItems c'.publicItems := by
  have hmembers := h.memberIds.imp fun ms ms' hms _ hp => And.intro hms hp
  rw [Crate.publicItems, Crate.publicItems]
  refine hmembers.bind fun ms ms' hboth => ?_
  obtain ⟨hms, hp⟩ := hboth
  have hfound : ((c.items.map (·.2)).filter fun i => c.isListed i && !ms.contains i.id).Perm
      ((c'.items.map (·.2)).filter fun i => c'.isListed i && !ms'.contains i.id) := by
    have hcontains (i : Item) : ms.contains i.id = ms'.contains i.id := by
      rw [Bool.eq_iff_iff, List.contains_iff_mem, List.contains_iff_mem, hp.mem_iff]
    simp only [h.isListed, ← hcontains]
    exact (h.items.perm.map _).filter _
  have hcheck : c'.checkPath 0 = c.checkPath 0 := funext fun i => by
    rw [Crate.checkPath, Crate.checkPath, h.paths.lookup_eq]
  simp only [h.qualifiedName, hcheck]
  have hpaths := (SucceedAlike.forM_perm hfound (c.checkPath 0)).imp fun _ _ ha _ _ => ha
  refine hpaths.bind fun _ _ ha => .ok ?_
  have hnodup := hnames _ (by rw [Crate.publicItems, hms, ok_bind]; dsimp only; rw [ha]; rfl)
  refine Json.mergeSort_eq ?_ ((List.mergeSort_perm _ _).trans hfound.symm)
    (Json.pairwise_mergeSort c.qualifiedName _)
  exact ((List.mergeSort_perm _ _).map _).nodup_iff.1 hnodup

/-! ## The overview and the listing -/

variable (hnames : ∀ items, c.publicItems = .ok items → (items.map c.qualifiedName).Nodup)

include hnames

theorem overviewPage : SucceedAlike Eq (overviewPage c) (overviewPage c') := by
  rw [Rustdoc.overviewPage, Rustdoc.overviewPage, h.rootItem?, h.name, h.version]
  refine (h.publicItems hnames).bind fun items items' hitems => ?_
  subst hitems
  exact .refl (fun _ => rfl) _

theorem listing : SucceedAlike Eq (listing c) (listing c') := by
  have hinner (i : Item) : innerPath c' i = innerPath c i := by
    rw [innerPath, innerPath, h.qualifiedName]
  rw [Rustdoc.listing, Rustdoc.listing]
  refine (h.publicItems hnames).bind fun items items' hitems => ?_
  subst hitems
  simp only [hinner]
  exact .refl (fun _ => rfl) _

end Crate.SameTables

/-! ## Dumps -/

/-- The second member is the first one, up to the order of rows if it is a table. -/
inductive SameMember : String × Json → String × Json → Prop
  | refl (m : String × Json) : SameMember m m
  | table {key : String} {rows rows' : List (String × Json)}
      (hkey : key = "index" ∨ key = "paths") (hrows : rows.Perm rows') :
      SameMember (key, .obj rows) (key, .obj rows')

/-- The second dump is the first one with the members of its tables in another order. -/
inductive Reordered : Json → Json → Prop
  | refl (v : Json) : Reordered v v
  | obj {ms ms' : List (String × Json)} (h : List.Forall₂ SameMember ms ms') :
      Reordered (.obj ms) (.obj ms')

/-- The id that an entry of an index records, empty if it records none. -/
def recordedId (entry : Json) : String := ((entry.get? "id").bind Item.key?).getD ""

/-- The entries of the index record different ids. -/
def HasDistinctIds (v : Json) : Prop := ∀ rows, v.get? "index" = some (.obj rows) →
  (rows.map fun m => recordedId m.2).Nodup ∧ ∀ m ∈ rows, recordedId m.2 ≠ ""

/-- The rows of a table. -/
def rowsOf (key : String) (v : Json) : Except Fault (List (String × Json)) := do
  (← v.memberOrNull key).orObject.members

section

variable {key : String} {v v' : Json} {rows ms ms' : List (String × Json)}

theorem rowsOf_obj (key : String) (ms : List (String × Json)) :
    rowsOf key (.obj ms) = ((ms.lookup key).getD .null).orObject.members := rfl

theorem members_orObject_obj (rows : List (String × Json)) :
    (Json.obj rows).orObject.members = .ok rows := by
  cases rows <;> rfl

theorem get?_of_rowsOf (h : rowsOf key v = .ok rows) :
    rows = [] ∨ v.get? key = some (.obj rows) := by
  cases v with
  | obj ms =>
    rw [rowsOf_obj] at h
    rw [Json.get?]
    cases hw : ms.lookup key with
    | none =>
      rw [hw] at h
      cases h
      exact .inl rfl
    | some w =>
      rw [hw, Option.getD_some, Json.orObject] at h
      split at h
      · cases w with
        | obj rows' =>
          cases h
          exact .inr rfl
        | _ => cases h
      · cases h
        exact .inl rfl
  | _ => cases h

theorem lookup_sameMember (h : List.Forall₂ SameMember ms ms') (key : String) :
    ms.lookup key = ms'.lookup key ∨ (key = "index" ∨ key = "paths") ∧ ∃ rows rows',
      ms.lookup key = some (.obj rows) ∧ ms'.lookup key = some (.obj rows') ∧
        rows.Perm rows' := by
  induction h with
  | nil => exact .inl rfl
  | @cons m m' ms ms' hm _ ih =>
    rw [List.lookup_cons, List.lookup_cons]
    cases hm with
    | refl =>
      cases key == m.1
      · exact ih
      · exact .inl rfl
    | @table k rows rows' hkey hrows =>
      cases hk : key == k
      · exact ih
      · exact .inr ⟨eq_of_beq hk ▸ hkey, rows, rows', rfl, rfl, hrows⟩

namespace Reordered

theorem memberOrNull_eq (h : Reordered v v') (hkey : ¬ (key = "index" ∨ key = "paths")) :
    v'.memberOrNull key = v.memberOrNull key := by
  cases h with
  | refl => rfl
  | obj h =>
    rcases lookup_sameMember h key with h | ⟨h, _⟩
    · rw [Json.memberOrNull, Json.memberOrNull, Json.member?, Json.member?, h]
    · exact absurd h hkey

theorem rowsOf (h : Reordered v v') (key : String) :
    SucceedAlike List.Perm (rowsOf key v) (rowsOf key v') := by
  cases h with
  | refl => exact .refl .refl _
  | obj h =>
    rw [rowsOf_obj, rowsOf_obj]
    rcases lookup_sameMember h key with h | ⟨_, rows, rows', h, h', hp⟩
    · rw [h]
      exact .refl .refl _
    · rw [h, h', Option.getD_some, Option.getD_some, members_orObject_obj, members_orObject_obj]
      exact .ok hp

end Reordered

/-! ## Reading a dump -/

theorem id_of_ofJson (h : Item.ofJson v = .ok i) : i.id = recordedId v := by
  cases v with
  | obj ms =>
    simp only [Item.ofJson, Json.memberOrNull, Json.member?, ok_bind, pure_bind] at h
    obtain ⟨inner, _, h⟩ := exists_of_bind_eq_ok h
    cases h
    rw [recordedId, Json.get?]
    cases ms.lookup "id" <;> rfl
  | _ => cases h

/-- An entry of an index, read. -/
def readEntry (m : String × Json) : Except Fault (String × Item) := do
  let item ← Item.ofJson m.2
  return (if item.id == "" then m.1 else item.id, item)

/-- A path that is recorded, read with the kind of its item. -/
def readSummary (m : String × Json) : Except Fault (String × List Json × Json) := do
  let segments ← (← m.2.memberOrNull "path").partsIfAny
  return (m.1, segments, (← m.2.member? "kind").getD (.str ""))

/-- The entries of the index. -/
def entriesOf (v : Json) : Except Fault (List (String × Item)) := do
  (← rowsOf "index" v).mapM readEntry

/-- The paths that are recorded. -/
def summariesOf (v : Json) : Except Fault (List (String × List Json × Json)) := do
  (← rowsOf "paths" v).mapM readSummary

theorem ofJson_eq (v : Json) : Crate.ofJson v = (do
    let entries ← entriesOf v
    let summaries ← summariesOf v
    return {
      root := (Item.key? (← v.memberOrNull "root")).getD ""
      items := Json.lastOfEach entries
      paths := summaries.map fun s => (s.1, s.2.1)
      pathKinds := summaries.map fun s => (s.1, s.2.2)
      version := ← v.memberOrNull "crate_version"
      formatVersion := ← v.memberOrNull "format_version" }) := by
  simp only [Crate.ofJson, Crate.readItems, entriesOf, summariesOf, rowsOf, bind_assoc, pure_bind]
  rfl

theorem key_readEntry {m : String × Json} {e : String × Item} (hm : recordedId m.2 ≠ "")
    (he : readEntry m = .ok e) : e.1 = recordedId m.2 := by
  obtain ⟨i, hi, he⟩ := exists_of_bind_eq_ok he
  cases he
  rw [← id_of_ofJson hi] at hm ⊢
  exact if_neg (by simpa using hm)

theorem key_readSummary {m : String × Json} {e : String × List Json × Json}
    (he : readSummary m = .ok e) : e.1 = m.1 := by
  obtain ⟨path, _, he⟩ := exists_of_bind_eq_ok he
  obtain ⟨segments, _, he⟩ := exists_of_bind_eq_ok he
  obtain ⟨kind, _, he⟩ := exists_of_bind_eq_ok he
  cases he
  rfl

namespace Reordered

variable (h : Reordered v v')

include h

theorem rowsOf_ok (key : String) : SucceedAlike
    (fun rows rows' => (rows = [] ∨ v.get? key = some (.obj rows)) ∧ rows.Perm rows')
    (Rustdoc.rowsOf key v) (Rustdoc.rowsOf key v') :=
  (h.rowsOf key).imp fun _ _ hrows _ hp => ⟨get?_of_rowsOf hrows, hp⟩

theorem entriesOf (hids : HasDistinctIds v) :
    SucceedAlike SameRows (entriesOf v) (entriesOf v') := by
  refine (h.rowsOf_ok "index").bind fun rows rows' hboth => ?_
  obtain ⟨hrows, hp⟩ := hboth
  have hall : (rows.map fun m => recordedId m.2).Nodup ∧ ∀ m ∈ rows, recordedId m.2 ≠ "" := by
    rcases hrows with rfl | hrows
    · simp
    · exact hids rows hrows
  exact SameRows.mapM hp (fun m hm e he => key_readEntry (hall.2 m hm) he) hall.1

theorem summariesOf (hkeys : v.HasDistinctKeys) :
    SucceedAlike SameRows (summariesOf v) (summariesOf v') := by
  refine (h.rowsOf_ok "paths").bind fun rows rows' hboth => ?_
  obtain ⟨hrows, hp⟩ := hboth
  have hn : (rows.map (·.1)).Nodup := by
    rcases hrows with rfl | hrows
    · exact List.nodup_nil
    · exact (hkeys.of_get? hrows).nodup
  exact SameRows.mapM hp (fun m _ e he => key_readSummary he) hn

/-- Dumps that differ in the order of their tables record the same crate, if they record one. -/
theorem ofJson (hkeys : v.HasDistinctKeys) (hids : HasDistinctIds v) :
    SucceedAlike Crate.SameTables (Crate.ofJson v) (Crate.ofJson v') := by
  rw [ofJson_eq, ofJson_eq, h.memberOrNull_eq (by simp), h.memberOrNull_eq (by simp),
    h.memberOrNull_eq (by simp)]
  refine (h.entriesOf hids).bind fun entries entries' hentries =>
    (h.summariesOf hkeys).bind fun summaries summaries' hsummaries => ?_
  rw [Json.lastOfEach_of_nodup hentries.nodup, Json.lastOfEach_of_nodup hentries.nodup']
  have hsame {α : Type} (x : Except Fault α) : SucceedAlike Eq x x := .refl (fun _ => rfl) x
  refine (hsame (v.memberOrNull "root")).bind fun root root' hroot =>
    (hsame (v.memberOrNull "crate_version")).bind fun version version' hversion =>
      (hsame (v.memberOrNull "format_version")).bind fun _ _ _ => .ok ?_
  exact ⟨hentries, hsummaries.map_snd Prod.fst, hroot ▸ rfl, hversion ▸ rfl⟩

end Reordered

end

end CrateBook.Rustdoc
