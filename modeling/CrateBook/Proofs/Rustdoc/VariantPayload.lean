import CrateBook.Proofs.Rustdoc.Filling.Declarations
import CrateBook.Proofs.Rustdoc.VariantTable

/-!
# What a variant is shown to hold

The declaration of an enum and the table of its variants read what a variant holds alike, and both
show it: the signature behind the name, the cell by itself. Where every variant and every field is
recorded, a cell shows just what the signature shows, unless the variant is an empty tuple: its
signature is the bare name, while the cell shows the argument of the alias in its place
(`variantsTable_agrees`).
-/

namespace CrateBook.Rustdoc

variable {crate : Crate} {subst : Subst} {arguments : List Json} {item v : Item} {name : String}
  {ids : List Json} {variants : List Item} {p : Payload}

/-! ## Enums that are recorded -/

/-- The id is that of an item whose type can be read. -/
def IsField (crate : Crate) (id : Json) (type : Ty) : Prop :=
  ∃ field, crate.get? id = some field ∧ readTy field.fieldType = .ok type

/-- Every field that the variant holds is an item of the crate, with a type. A tuple holds types,
and not values that stand for one. -/
inductive IsRecorded (crate : Crate) (v : Item) : Prop where
  | plain {shape : String} {data : Json} : readShape "plain" v = .ok (shape, data) →
    shape ≠ "tuple" → shape ≠ "struct" → IsRecorded crate v
  | tuple {data : Json} {ids : List Json} : readShape "plain" v = .ok ("tuple", data) →
    data.partsIfAny = .ok ids →
    (∀ id ∈ ids, ∃ type, IsField crate id type ∧ type.raw? = none) → IsRecorded crate v
  | named {data fields : Json} {ids : List Json} : readShape "plain" v = .ok ("struct", data) →
    data.orObject.memberOrNull "fields" = .ok fields → fields.partsIfAny = .ok ids →
    (∀ id ∈ ids, ∃ type, IsField crate id type) → IsRecorded crate v

/-- The variant is declared with parentheses and nothing between them. -/
def IsEmptyTuple (v : Item) : Prop :=
  ∃ data, readShape "plain" v = .ok ("tuple", data) ∧ data.partsIfAny = .ok []

/-- A cell shows what a signature shows behind the name: nothing, the types of a tuple, or fields
with their types. -/
inductive SameShown (name : String) : String → String → Prop where
  | nothing : SameShown name name "N/A"
  | types {types : List String} : types ≠ [] →
    SameShown name (name ++ "(" ++ ", ".intercalate types ++ ")")
      ("`" ++ ", ".intercalate types ++ "`")
  | fields {fields : List String} : fields ≠ [] →
    SameShown name (name ++ " \x7b " ++ ", ".intercalate fields ++ " \x7d")
      ("`" ++ ", ".intercalate fields ++ "`")

/-- The row of a variant shows what its signature shows, and nothing exactly where the signature is
the bare name. For an empty tuple it does neither. -/
def RowAgrees (crate : Crate) (subst : Subst) (v : Item) (row : List String) : Prop :=
  ∃ signature cell, variantSignature crate subst v = .ok signature ∧ row = variantRow v cell ∧
    (SameShown v.displayName signature cell ↔ ¬ IsEmptyTuple v) ∧
    ((cell = "N/A" ↔ signature = v.displayName) ↔ ¬ IsEmptyTuple v)

/-! ## One variant -/

theorem append_ne_self {s t : String} (h : t ≠ "") : s ++ t ≠ s := by
  intro he
  have hlength := congrArg (·.toList.length) he
  simp only [String.toList_append, List.length_append] at hlength
  exact h (String.toList_eq_nil_iff.1 (List.length_eq_zero_iff.1 (by omega)))

theorem quoted_ne_notAvailable (s : String) : "`" ++ s ++ "`" ≠ "N/A" := by
  intro h
  have hhead := congrArg (·.toList.head?) h
  simp at hhead

theorem tuple_ne_name (shown : String) : name ++ "(" ++ shown ++ ")" ≠ name := by
  rw [String.append_assoc, String.append_assoc]
  exact append_ne_self (by simp)

theorem named_ne_name (shown : String) : name ++ " \x7b " ++ shown ++ " \x7d" ≠ name := by
  rw [String.append_assoc, String.append_assoc]
  exact append_ne_self (by simp)

/-- Nothing is shown exactly where the signature is the bare name. -/
theorem SameShown.cell_eq_iff {signature cell : String} (h : SameShown name signature cell) :
    cell = "N/A" ↔ signature = name := by
  cases h with
  | nothing => exact iff_of_true rfl rfl
  | types => exact iff_of_false (quoted_ne_notAvailable _) (tuple_ne_name _)
  | fields => exact iff_of_false (quoted_ne_notAvailable _) (named_ne_name _)

/-- No type of a tuple is missing. -/
def Payload.IsKnown (p : Payload) : Prop :=
  ∀ types, p = .tuple types → ∃ texts : List String, types = texts.map some

/-- The cell of what a variant holds shows what the signature shows, if it is not an empty tuple. -/
theorem Payload.exists_cell (hp : p.IsKnown) (hne : p ≠ .tuple [])
    (argument : Except Fault (Option String)) (name : String) :
    ∃ cell, p.cell argument = .ok cell ∧ SameShown name (p.signature name) cell := by
  cases p with
  | none => exact ⟨"N/A", rfl, .nothing⟩
  | tuple types =>
    obtain ⟨texts, rfl⟩ := hp types rfl
    have htexts : texts ≠ [] := by
      rintro rfl
      exact hne rfl
    have hempty : (texts.map some).isEmpty = false := by simpa using htexts
    have hall : (texts.map some).all Option.isSome = true := by simp
    refine ⟨"`" ++ commas ((texts.map some).filterMap id) ++ "`", ?_, ?_⟩
    · rw [Payload.cell, hempty, hall]
      rfl
    · rw [Payload.signature, hempty, if_neg Bool.false_ne_true, List.filterMap_map, List.map_map]
      have hshown : SameShown name _ _ := .types htexts
      simpa [Function.comp_def, commas] using hshown
  | named fields =>
    rw [Payload.cell, Payload.signature]
    cases fields with
    | nil => exact ⟨"N/A", rfl, .nothing⟩
    | cons f fields => exact ⟨_, rfl, .fields (List.cons_ne_nil f fields)⟩

/-- For an empty tuple the cell shows an argument, and the signature shows nothing. -/
theorem Payload.exists_cell_emptyTuple {argument : Except Fault (Option String)} {a : Option String}
    (ha : argument = .ok a) :
    ∃ cell, (Payload.tuple []).cell argument = .ok cell ∧ cell ≠ "N/A" := by
  rw [ha]
  exact ⟨_, rfl, quoted_ne_notAvailable _⟩

/-! ## Reading what a variant holds -/

theorem tupleType_of_isField {id : Json} {type : Ty} (h : IsField crate id type)
    (hraw : type.raw? = none) : tupleType crate id = .ok (some type) := by
  obtain ⟨field, hget, hread⟩ := h
  cases id with
  | null => cases hget
  | _ =>
    simp only [tupleType, hget, hread, ok_bind, hraw]
    rfl

theorem exists_namedType? {id : Json} {type : Ty} (h : IsField crate id type) :
    ∃ field, namedType? crate id = .ok field := by
  obtain ⟨field, hget, hread⟩ := h
  rw [namedType?, hget]
  dsimp only
  rw [hread]
  split
  · exact ⟨_, rfl⟩
  · exact ⟨_, rfl⟩

theorem joinable_of_forall {raws : List (Option Json)} (h : ∀ raw ∈ raws, raw = none)
    (place : Nat) : joinable place raws = .ok () := by
  induction raws generalizing place with
  | nil => rfl
  | cons raw raws ih =>
    obtain ⟨rfl, hraws⟩ := List.forall_mem_cons.1 h
    exact ih hraws (place + 1)

/-- The types of a tuple whose fields are recorded. -/
theorem exists_types {ids : List Json}
    (h : ∀ id ∈ ids, ∃ type, IsField crate id type ∧ type.raw? = none) :
    ∃ types : List Ty, ids.mapM (tupleType crate) = .ok (types.map some) ∧
      types.length = ids.length ∧ joinable 0 ((types.map some).map rawIn) = .ok () := by
  obtain ⟨types, htypes, hread⟩ := exists_mapM_map (f := tupleType crate) (g := some)
    (R := fun _ type => type.raw? = none) fun id hid => by
      obtain ⟨type, hfield, hraw⟩ := h id hid
      exact ⟨type, tupleType_of_isField hfield hraw, hraw⟩
  have hraw : ∀ type ∈ types, type.raw? = none :=
    (forall_mem_iff_of_forall₂ (p := fun _ => True) hread fun _ _ hraw =>
      iff_of_true trivial hraw).1 fun _ _ => trivial
  refine ⟨types, htypes, hread.length_eq.symm, joinable_of_forall ?_ 0⟩
  rw [List.map_map, List.forall_mem_map]
  exact hraw

theorem not_isEmptyTuple {shape : String} {data : Json}
    (h : readShape "plain" v = .ok (shape, data)) (hshape : shape ≠ "tuple") :
    ¬ IsEmptyTuple v := by
  rintro ⟨data', h', -⟩
  rw [h] at h'
  exact hshape (congrArg Prod.fst (Except.ok.inj h'))

/-- What a recorded variant holds can be read, and no type is missing. -/
theorem exists_payload (subst : Subst) (hv : IsRecorded crate v) :
    ∃ p, payload crate subst v = .ok p ∧ p.IsKnown ∧ (p = .tuple [] ↔ IsEmptyTuple v) := by
  cases hv with
  | @plain shape data hshape htuple hstruct =>
    refine ⟨.none, ?_, ?_, iff_of_false (fun h => by cases h) (not_isEmptyTuple hshape htuple)⟩
    · rw [payload_eq, readContent, hshape, ok_bind]
      dsimp only
      rw [if_neg htuple, if_neg hstruct]
      rfl
    · intro types h
      cases h
  | @tuple data ids hshape hids hfields =>
    obtain ⟨types, htypes, hlength, hjoin⟩ := exists_types hfields
    refine ⟨.tuple ((types.map (·.text subst)).map some), ?_, ?_, ?_⟩
    · rw [payload_eq, readContent, hshape, ok_bind]
      dsimp only
      rw [if_pos rfl, hids, ok_bind, htypes, ok_bind, hjoin, ok_bind]
      change Except.ok (Content.payload subst (.tuple (types.map some))) = _
      rw [Content.payload, List.map_map, List.map_map]
      rfl
    · intro texts h
      cases h
      exact ⟨types.map (·.text subst), rfl⟩
    · rw [Payload.tuple.injEq, List.map_eq_nil_iff, List.map_eq_nil_iff, ← List.length_eq_zero_iff,
        hlength, List.length_eq_zero_iff]
      constructor
      · rintro rfl
        exact ⟨data, hshape, hids⟩
      · rintro ⟨data', hshape', hnil⟩
        rw [hshape] at hshape'
        cases hshape'
        rw [hids] at hnil
        exact Except.ok.inj hnil
  | @named data fields ids hshape hfields hids hread =>
    obtain ⟨named, hnamed, -⟩ := exists_mapM (f := namedType? crate) (l := ids)
      (R := fun _ _ => True) fun id hid => by
        obtain ⟨type, hfield⟩ := hread id hid
        obtain ⟨field, hfield⟩ := exists_namedType? hfield
        exact ⟨field, hfield, trivial⟩
    refine ⟨Content.payload subst (.named (named.filterMap id)), ?_, ?_,
      iff_of_false (fun h => by cases h) (not_isEmptyTuple hshape (by decide))⟩
    · rw [payload_eq, readContent, hshape, ok_bind]
      dsimp only
      rw [if_neg (by decide), if_pos rfl, hfields, ok_bind, hids, ok_bind, hnamed, ok_bind]
      rfl
    · intro types h
      cases h

/-! ## Tables of variants -/

theorem variantsTable_eq_mapM (crate : Crate) (subst : Subst) (arguments : List Json)
    (item : Item) : variantsTable crate subst arguments item = (do
      let rows ← (← crate.variants item).zipIdx.mapM fun v => do
        let cell ← typeCell crate subst arguments v
        Docs.check v.1.docs
        return variantRow v.1 cell
      return Markdown.tableUnlessEmpty variantColumns rows) := by
  have hrow (v : Item × Nat) : (do
        let cell ← typeCell crate subst arguments v
        Docs.check v.1.docs
        return variantRow v.1 cell : Except Fault (List String)) =
      (do
        let p ← payload crate subst v.1
        let cell ← p.cell (arguments[v.2]?.mapM fun a => return (← readArg a).text [])
        Docs.check v.1.docs
        return variantRow v.1 cell) := by
    rw [typeCell, bind_assoc]
  simp only [hrow]
  rfl

/-- The items of an enum that are all recorded are its variants. -/
theorem variants_of_forall₂ (hids : (item.part "variants").partsIfAny = .ok ids)
    (hvariants : List.Forall₂ (fun id v => crate.get? id = some v ∧ v.kind = "variant")
      ids variants) : crate.variants item = .ok variants := by
  have hfound : (ids.filterMap crate.get?).filter (·.kind == "variant") = variants := by
    clear hids
    induction hvariants with
    | nil => rfl
    | cons hv _ ih =>
      rw [List.filterMap_cons_some hv.1, List.filter_cons_of_pos (by simp [hv.2]), ih]
  rw [Crate.variants, hids, ok_bind, hfound]
  rfl

/-- The row of a recorded variant. Where it is an empty tuple, the argument in its place is read. -/
theorem exists_row (subst : Subst) (hv : IsRecorded crate v) {place : Nat}
    (hargument : IsEmptyTuple v → ∀ a ∈ arguments[place]?, ∃ r, readArg a = .ok r) :
    ∃ cell, typeCell crate subst arguments (v, place) = .ok cell ∧
      RowAgrees crate subst v (variantRow v cell) := by
  obtain ⟨p, hp, hknown, hempty⟩ := exists_payload subst hv
  have hsignature : variantSignature crate subst v = .ok (p.signature v.displayName) := by
    rw [variantSignature, hp]
    rfl
  by_cases hempty' : IsEmptyTuple v
  · -- The argument in the place of the variant is read and shown.
    obtain rfl := hempty.2 hempty'
    obtain ⟨argument, hread⟩ : ∃ argument, arguments[place]?.mapM (fun a => do
        return (← readArg a).text []) = (.ok argument : Except Fault (Option String)) := by
      cases ha : arguments[place]? with
      | none => exact ⟨none, rfl⟩
      | some a =>
        obtain ⟨r, hr⟩ := hargument hempty' a ha
        exact ⟨some (r.text []), by rw [Option.mapM_some, hr]; rfl⟩
    obtain ⟨cell, hcell, hne⟩ := Payload.exists_cell_emptyTuple hread
    refine ⟨cell, by rw [typeCell, hp]; exact hcell, _, cell, hsignature, rfl, ?_, ?_⟩
    · exact iff_of_false (fun h => hne (h.cell_eq_iff.2 rfl)) (not_not.2 hempty')
    · exact iff_of_false (fun h => hne (h.2 rfl)) (not_not.2 hempty')
  · obtain ⟨cell, hcell, hshown⟩ := Payload.exists_cell hknown (mt hempty.1 hempty')
      (arguments[place]?.mapM fun a => do return (← readArg a).text []) v.displayName
    refine ⟨cell, by rw [typeCell, hp]; exact hcell, _, cell, hsignature, rfl, ?_, ?_⟩
    · exact iff_of_true hshown hempty'
    · exact iff_of_true hshown.cell_eq_iff hempty'

/-- The table of an enum whose variants and fields are all recorded, the variants with a text or
nothing as documentation, has a row for each variant, in order, and a row shows what the signature
of its variant shows unless that is an empty tuple. -/
theorem variantsTable_agrees (hids : (item.part "variants").partsIfAny = .ok ids)
    (hvariants : List.Forall₂ (fun id v => crate.get? id = some v ∧ v.kind = "variant")
      ids variants)
    (hrecorded : ∀ v ∈ variants, IsRecorded crate v)
    (hdocs : ∀ v ∈ variants, Docs.check v.docs = .ok ())
    (harguments : ∀ v ∈ variants.zipIdx, IsEmptyTuple v.1 →
      ∀ a ∈ arguments[v.2]?, ∃ r, readArg a = .ok r) :
    ∃ rows, variantsTable crate subst arguments item =
        .ok (Markdown.tableUnlessEmpty ["Variant", "Type", "Description"] rows) ∧
      List.Forall₂ (RowAgrees crate subst) variants rows := by
  obtain ⟨rows, hrows, hagree⟩ := exists_mapM (l := variants.zipIdx)
    (f := fun v => do
      let cell ← typeCell crate subst arguments v
      Docs.check v.1.docs
      return variantRow v.1 cell)
    (R := fun v row => RowAgrees crate subst v.1 row) fun v hv => by
      have hmem := List.fst_mem_of_mem_zipIdx hv
      obtain ⟨cell, hcell, hagrees⟩ := exists_row subst (hrecorded v.1 hmem) (harguments v hv)
      exact ⟨variantRow v.1 cell, by rw [hcell, ok_bind, hdocs v.1 hmem]; rfl, hagrees⟩
  refine ⟨rows, ?_, ?_⟩
  · rw [variantsTable_eq_mapM, variants_of_forall₂ hids hvariants, ok_bind, hrows]
    rfl
  · have hall := (List.forall₂_map_left_iff (f := Prod.fst) (R := RowAgrees crate subst)).2 hagree
    rwa [List.zipIdx_map_fst] at hall

namespace Slots

def variant (id name : String) (held : Json) : Item :=
  ⟨id, .str name, .unmarked, .null, "variant", .obj [("kind", held)], true⟩

/-- A field of the type that the enum takes. -/
def field (id name : String) : Item :=
  ⟨id, .str name, .unmarked, .null, "struct_field", .obj [("generic", .str "T")], true⟩

def closed : Item := variant "2" "Closed" (.str "plain")

def full : Item := variant "3" "Full" (.obj [("tuple", .arr [.int 6])])

def held : Item := variant "4" "Held" (.obj [("struct", .obj [("fields", .arr [.int 7])])])

/-- The variant `Empty()`. -/
def empty : Item := variant "5" "Empty" (.obj [("tuple", .arr [])])

/-- The enum with the variants of these ids. -/
def slot (ids : List Json) : Item :=
  ⟨"1", .str "Slot", .pub, .null, "enum", .obj [("variants", .arr ids)], true⟩

def slots : Crate where
  root := "0"
  items := [("2", closed), ("3", full), ("4", held), ("5", empty), ("6", field "6" "0"),
    ("7", field "7" "by")]
  paths := []
  pathKinds := []
  version := .null
  formatVersion := .null

/-- The arguments of an alias of `Slot<u8>`. -/
def bytes : List Json := [.obj [("type", .obj [("primitive", .str "u8")])]]

theorem isRecorded_closed : IsRecorded slots closed :=
  .plain (by rfl) (by decide) (by decide)

theorem isRecorded_full : IsRecorded slots full := by
  refine .tuple (by rfl) (show (Json.arr [.int 6]).partsIfAny = _ from rfl) ?_
  intro id hid
  obtain rfl := List.mem_singleton.1 hid
  exact ⟨.generic "T", ⟨field "6" "0", by rfl, by rfl⟩, rfl⟩

theorem isRecorded_held : IsRecorded slots held := by
  refine .named (by rfl) (by rfl) (show (Json.arr [.int 7]).partsIfAny = _ from rfl) ?_
  intro id hid
  obtain rfl := List.mem_singleton.1 hid
  exact ⟨.generic "T", field "7" "by", by rfl, by rfl⟩

theorem isRecorded_empty : IsRecorded slots empty := by
  refine .tuple (by rfl) (show (Json.arr []).partsIfAny = _ from rfl) ?_
  intro id hid
  cases hid

/-- The ids of the variants, in the order in which they are declared. -/
def order : List Json := [.int 5, .int 2, .int 3, .int 4]

/-- The table that an alias of `Slot<u8>` shows. -/
def table : String :=
  "| Variant | Type | Description |\n| --- | --- | --- |\n| `Empty` | `u8` |  |\n" ++
    "| `Closed` | N/A |  |\n| `Full` | `u8` |  |\n| `Held` | `by: u8` |  |"

theorem exists_readArg_of_mem_bytes {a : Json} (h : a ∈ bytes) : ∃ r, readArg a = .ok r := by
  obtain rfl := List.mem_singleton.1 h
  exact ⟨_, rfl⟩

end Slots

set_option maxRecDepth 2000 in
open Slots in
/-- The table of an alias of `Slot<u8>`, whose variants are of each kind. -/
theorem variantsTable_agrees_slot :
    ((slot order).part "variants").partsIfAny = .ok order ∧
      (∀ v ∈ [empty, closed, full, held], IsRecorded slots v ∧ Docs.check v.docs = .ok ()) ∧
      (∀ a ∈ bytes, ∃ r, readArg a = .ok r) ∧
      variantsTable slots [("T", "u8")] bytes (slot order) = .ok table ∧
      ∃ rows, variantsTable slots [("T", "u8")] bytes (slot order) =
          .ok (Markdown.tableUnlessEmpty ["Variant", "Type", "Description"] rows) ∧
        List.Forall₂ (RowAgrees slots [("T", "u8")]) [empty, closed, full, held] rows := by
  have hrecorded : ∀ v ∈ [empty, closed, full, held], IsRecorded slots v := by
    simp only [List.forall_mem_cons]
    exact ⟨isRecorded_empty, isRecorded_closed, isRecorded_full, isRecorded_held,
      List.forall_mem_nil _⟩
  have hids : ((slot order).part "variants").partsIfAny = .ok order := by rfl
  have hdocs : ∀ v ∈ [empty, closed, full, held], Docs.check v.docs = .ok () := by
    simp only [List.forall_mem_cons]
    exact ⟨rfl, rfl, rfl, rfl, List.forall_mem_nil _⟩
  refine ⟨hids, fun v hv => ⟨hrecorded v hv, hdocs v hv⟩,
    fun a ha => exists_readArg_of_mem_bytes ha, by rfl, ?_⟩
  refine variantsTable_agrees hids ?_ hrecorded hdocs ?_
  · exact .cons ⟨by rfl, rfl⟩ (.cons ⟨by rfl, rfl⟩ (.cons ⟨by rfl, rfl⟩ (.cons ⟨by rfl, rfl⟩ .nil)))
  · intro v _ _ a ha
    exact exists_readArg_of_mem_bytes (List.mem_of_getElem? ha)

set_option maxRecDepth 2000 in
open Slots in
/-- The signature of an empty tuple is the bare name, and yet the table shows that it holds the
argument of the alias. -/
theorem emptyTuple_shown_as_argument :
    IsRecorded slots empty ∧ variantSignature slots [("T", "u8")] empty = .ok "Empty" ∧
      variantsTable slots [("T", "u8")] bytes (slot [.int 5]) =
        .ok "| Variant | Type | Description |\n| --- | --- | --- |\n| `Empty` | `u8` |  |" :=
  ⟨isRecorded_empty, by rfl, by rfl⟩

end CrateBook.Rustdoc
