import CrateBook.Proofs.Rustdoc.Filling.Types
import CrateBook.Proofs.Rustdoc.Results
import CrateBook.Rustdoc.ItemPage

/-!
# Declarations in terms of an alias

What a struct or an enum declares is read before it is written: its predicates, and the types of its
fields or variants. `readDeclaration` is the reading alone, and `Declaration.text` the writing
(`declaration_eq`). So the declaration of the target of an alias can be filled with the arguments of
the alias as a whole, and the page of the alias can be compared with what is written of the filled
declaration without any substitution.
-/

namespace CrateBook.Rustdoc

/-! ## What is declared -/

/-- What a variant holds, with its types. -/
inductive Content where
  | none
  | tuple (types : List (Option Ty))
  | named (fields : List (String × Ty))

/-- A variant with what it holds and the value that is declared for it. -/
structure DeclaredVariant where
  item : Item
  content : Content
  discriminant : String

/-- What a struct or an enum holds. -/
inductive Body where
  | unit
  /-- The fields of a tuple, none in the place of a field that is not known. -/
  | tuple (places : List (Option (Visibility × Ty)))
  | fields (fields : List (Item × Ty)) (stripped : Bool)
  | variants (variants : List DeclaredVariant) (stripped : Bool)

/-- What a struct or an enum declares. -/
structure Declaration where
  item : Item
  predicates : List WherePredicate
  body : Body

/-! ## Reading -/

/-- The name and the type of a field of a variant, none when the crate does not record it under a
name. -/
def namedType? (crate : Crate) (id : Json) : Except Fault (Option (String × Ty)) :=
  match crate.get? id with
  | none => return none
  | some field =>
    if field.name.truthy then return some (field.name.display, ← readTy field.fieldType)
    else return none

/-- What a variant holds. -/
def readContent (crate : Crate) (variant : Item) : Except Fault Content := do
  let (word, data) ← readShape "plain" variant
  if word = "tuple" then
    let types ← (← data.partsIfAny).mapM (tupleType crate)
    joinable 0 (types.map rawIn)
    return .tuple types
  else if word = "struct" then
    let ids ← (← data.orObject.memberOrNull "fields").partsIfAny
    return .named ((← ids.mapM (namedType? crate)).filterMap id)
  else return .none

/-- A variant of an enum. -/
def readVariant (crate : Crate) (variant : Item) : Except Fault DeclaredVariant := do
  let content ← readContent crate variant
  return ⟨variant, content, ← discriminantText variant⟩

/-- A field of a tuple. -/
def readPlace (crate : Crate) (id : Json) : Except Fault (Option (Visibility × Ty)) :=
  match id, crate.field? id with
  | .null, _ | _, none => return none
  | _, some field => return some (field.visibility, ← readTy field.fieldType)

/-- Fields with names. -/
def readFields (crate : Crate) (ids : List Json) : Except Fault (List (Item × Ty)) :=
  (ids.filterMap crate.field?).mapM fun field => return (field, ← readTy field.fieldType)

/-- What a struct holds. -/
def structBody (crate : Crate) (item : Item) : Except Fault Body := do
  let (word, data) ← readShape "unit" item
  if word = "tuple" then return .tuple (← (← data.partsIfAny).mapM (readPlace crate))
  else if word = "plain" then
    let ids ← data.memberOrNull "fields"
    let stripped ← data.memberOrNull "has_stripped_fields"
    return .fields (← readFields crate (← ids.partsIfAny)) stripped.truthy
  else return .unit

/-- What an enum holds. -/
def enumBody (crate : Crate) (item : Item) : Except Fault Body := do
  let variants ← (← crate.variants item).mapM (readVariant crate)
  return .variants variants (item.part "has_stripped_variants").truthy

/-- What a struct or an enum holds. -/
def readBody (crate : Crate) (item : Item) : Except Fault Body :=
  if item.kind == "enum" then enumBody crate item else structBody crate item

/-- What a struct or an enum declares. -/
def readDeclaration (crate : Crate) (item : Item) : Except Fault Declaration := do
  let predicates ← readPredicates item.generics
  return ⟨item, predicates, ← readBody crate item⟩

/-! ## Writing -/

variable (subst : Subst)

/-- What a variant holds, with its types as texts. -/
def Content.payload : Content → Payload
  | .none => .none
  | .tuple types => .tuple (types.map fun t => t.map (·.text subst))
  | .named fields => .named (fields.map fun f => f.1 ++ ": " ++ f.2.text subst)

/-- The line of a declaration for a variant. -/
def DeclaredVariant.line (v : DeclaredVariant) : String :=
  "    " ++ (v.content.payload subst).signature v.item.displayName ++ v.discriminant ++ ","

/-- The line of a declaration for a field. -/
def fieldLine (f : Item × Ty) : String :=
  "    " ++ f.1.visibility.keyword ++ f.1.name.display ++ ": " ++ f.2.text subst ++ ","

/-- A field of a tuple as it is declared. -/
def placeText : Option (Visibility × Ty) → String
  | none => "_"
  | some p => p.1.keyword ++ p.2.text subst

/-- Lines between braces after a head. -/
def bracedIfAny (head : String) (body : List String) : String :=
  if body.isEmpty then head ++ " \x7b\x7d" else braced head body

/-- What the declaration of a struct or an enum begins with, with the text of the parameters. -/
def Item.opening (params : String) (item : Item) : String :=
  item.visibility.keyword ++ (if item.kind == "enum" then "enum " else "struct ") ++
    item.displayName ++ params

/-- A declaration, with the text of the parameters. -/
def Declaration.text (params : String) (d : Declaration) : String :=
  let head := d.item.opening params
  let predicates := whereText subst d.predicates
  match d.body with
  | .unit => head ++ predicates ++ ";"
  | .tuple places =>
    head ++ ("(" ++ commas (places.map (placeText subst)) ++ ")") ++ predicates ++ ";"
  | .fields fields stripped =>
    bracedIfAny (head ++ predicates)
      (fields.map (fieldLine subst) ++ if stripped then ["    /* private fields */"] else [])
  | .variants variants stripped =>
    bracedIfAny (head ++ predicates)
      (variants.map (·.line subst) ++ if stripped then ["    // some variants omitted"] else [])

/-- The rows of the table of variants, for an alias with these arguments. -/
def variantRows (arguments : List Json) (variants : List DeclaredVariant) :
    Except Fault (List (List String)) :=
  variants.zipIdx.mapM fun (v, place) => do
    let argument := arguments[place]?.mapM fun a => return (← readArg a).text []
    let cell ← (v.content.payload subst).cell argument
    Docs.check v.item.docs
    return ["`" ++ v.item.displayName ++ "`", cell,
      Text.replace (Docs.summaryOf v.item.docs) "|" "\\|"]

/-- The section with the table of the variants of an enum, nothing when there are none. -/
def Declaration.variantLines (arguments : List Json) (d : Declaration) :
    Except Fault (List String) :=
  match d.body with
  | .variants variants _ => do
    let rows ← variantRows subst arguments variants
    let table := Markdown.tableUnlessEmpty ["Variant", "Type", "Description"] rows
    return if table == "" then [] else ["---", "", Markdown.heading 2 "Variants", "", table, ""]
  | _ => return []

variable {crate : Crate} {item target : Item} {subst}

theorem namedField?_eq (id : Json) : namedField? crate subst id =
    (Option.map fun f => f.1 ++ ": " ++ f.2.text subst) <$> namedType? crate id := by
  rw [namedField?, namedType?]
  cases crate.get? id with
  | none => rfl
  | some field =>
    dsimp only
    rw [map_ite]
    refine ite_congr rfl (fun _ => ?_) fun _ => rfl
    simp only [fieldTypeText, bind_assoc, pure_bind, map_bind, map_pure, Option.map_some]

theorem payload_eq (variant : Item) :
    payload crate subst variant = Content.payload subst <$> readContent crate variant := by
  rw [payload, readContent, map_bind]
  refine bind_congr fun shape => ?_
  split
  · dsimp only
    rw [if_pos rfl]
    simp only [map_bind, map_pure, Content.payload]
  · have hfields (ids : List Json) : ids.mapM (namedField? crate subst) =
        List.map (Option.map fun f => f.1 ++ ": " ++ f.2.text subst) <$>
          ids.mapM (namedType? crate) := by
      rw [funext namedField?_eq]
      exact mapM_map_result _ _ ids
    dsimp only
    rw [if_neg (by decide), if_pos rfl]
    simp only [hfields, map_bind, bind_map_left, map_pure, Content.payload, List.filterMap_map,
      List.map_filterMap]
    rfl
  · rename_i htuple hstruct
    obtain ⟨word, data⟩ := shape
    dsimp only
    rw [if_neg fun h => htuple data (by rw [h]), if_neg fun h => hstruct data (by rw [h])]
    rfl

theorem variantDeclaration_eq (v : Item) : (do
      let signature ← variantSignature crate subst v
      return "    " ++ signature ++ (← discriminantText v) ++ "," : Except Fault String) =
    DeclaredVariant.line subst <$> readVariant crate v := by
  simp only [variantSignature, payload_eq, readVariant, bind_map_left, bind_assoc, pure_bind,
    map_bind, map_pure, DeclaredVariant.line]

theorem tupleDeclaration_eq (ids : List Json) : tupleDeclaration crate subst ids =
    (fun places => "(" ++ commas (places.map (placeText subst)) ++ ")") <$>
      ids.mapM (readPlace crate) := by
  calc tupleDeclaration crate subst ids
      = ids.mapM (fun id => placeText subst <$> readPlace crate id) >>=
          fun parts => pure ("(" ++ commas parts ++ ")") := by
        rw [tupleDeclaration]
        congr 2
        funext id
        rw [readPlace.eq_def]
        generalize crate.field? id = field
        cases id <;> cases field <;> simp [fieldTypeText, placeText]
    _ = _ := by
        rw [mapM_map_result, bind_map_left]
        rfl

theorem fieldDeclarations_eq (stripped : Bool) (ids : List Json) :
    fieldDeclarations crate subst stripped ids =
      (fun fields => fields.map (fieldLine subst) ++
        if stripped then ["    /* private fields */"] else []) <$> readFields crate ids := by
  have hfield (field : Item) : (do
      let type ← fieldTypeText subst field
      return "    " ++ field.visibility.keyword ++ field.name.display ++ ": " ++ type ++ "," :
        Except Fault String) =
      fieldLine subst <$> do return (field, ← readTy field.fieldType) := by
    simp only [fieldTypeText, bind_assoc, pure_bind, map_bind, map_pure, fieldLine]
  rw [fieldDeclarations, readFields, funext hfield, mapM_map_result, bind_map_left]
  rfl

theorem variantDeclarations_eq (item : Item) : variantDeclarations crate subst item = do
    let variants ← (← crate.variants item).mapM (readVariant crate)
    return variants.map (·.line subst) ++
      if (item.part "has_stripped_variants").truthy then ["    // some variants omitted"]
      else [] := by
  rw [variantDeclarations, funext variantDeclaration_eq]
  simp only [mapM_map_result, bind_map_left]

/-- The declaration of a struct or an enum is what is read, written. -/
theorem declaration_eq (params : String) (hkind : item.kind = "enum" ∨ item.kind = "struct") :
    (if item.kind == "enum" then enumDeclaration crate subst (some params) item
      else structDeclaration crate subst (some params) item) =
      Declaration.text subst params <$> readDeclaration crate item := by
  -- Both sides read the same values in the same order, so they are compared bind by bind.
  rw [readDeclaration, readBody]
  rcases hkind with hkind | hkind
  · have henum : (item.kind == "enum") = true := beq_iff_eq.2 hkind
    simp only [henum, if_true, enumDeclaration, enumBody, ownPredicates, variantDeclarations_eq,
      bind_assoc, pure_bind, map_bind, map_pure, Declaration.text, Item.opening]
    refine bind_congr fun predicates => bind_congr fun variants => bind_congr fun declared => ?_
    exact (apply_ite pure _ _ _).symm
  · have hstruct : (item.kind == "enum") = false := by rw [hkind]; decide
    simp only [hstruct, Bool.false_eq_true, if_false, structDeclaration, structBody, ownPredicates,
      bind_assoc, pure_bind, map_bind, map_pure]
    refine bind_congr fun predicates => bind_congr fun shape => ?_
    split
    · dsimp only
      rw [if_pos rfl]
      simp only [tupleDeclaration_eq, bind_assoc, pure_bind, bind_map_left, Declaration.text,
        Item.opening, hstruct, Bool.false_eq_true, if_false]
    · dsimp only
      rw [if_neg (by decide), if_pos rfl]
      simp only [fieldDeclarations_eq, bind_assoc, pure_bind, bind_map_left, Declaration.text,
        Item.opening, hstruct, Bool.false_eq_true, if_false]
      refine bind_congr fun ids => bind_congr fun stripped => bind_congr fun given =>
        bind_congr fun fields => ?_
      exact (apply_ite pure _ _ _).symm
    · rename_i htuple hplain
      obtain ⟨word, data⟩ := shape
      dsimp only
      rw [if_neg fun h => htuple data (by rw [h]), if_neg fun h => hplain data (by rw [h])]
      simp only [pure_bind, Declaration.text, Item.opening, hstruct, Bool.false_eq_true, if_false]

/-! ## The table of variants -/

theorem of_readVariant {variant : Item} {v : DeclaredVariant}
    (h : readVariant crate variant = .ok v) :
    v.item = variant ∧ readContent crate variant = .ok v.content := by
  rw [readVariant] at h
  obtain ⟨content, hcontent, h⟩ := exists_of_bind_eq_ok h
  obtain ⟨discriminant, -, h⟩ := exists_of_bind_eq_ok h
  cases h
  exact ⟨rfl, hcontent⟩

/-- The table of variants is written from what the declaration has read. -/
theorem variantsTable_eq {items : List Item} {variants : List DeclaredVariant}
    (hitems : crate.variants target = .ok items)
    (hvariants : items.mapM (readVariant crate) = .ok variants) (arguments : List Json) :
    variantsTable crate subst arguments target =
      Markdown.tableUnlessEmpty ["Variant", "Type", "Description"] <$>
        variantRows subst arguments variants := by
  rw [variantsTable, hitems, variantRows, ok_bind, map_eq_pure_bind]
  congr 1
  refine mapM_zipIdx_congr ((forall₂_of_mapM hvariants).imp fun variant v hv place => ?_) 0
  obtain ⟨rfl, hcontent⟩ := of_readVariant hv
  dsimp only
  rw [payload_eq, hcontent]
  rfl

theorem readBody_of_readDeclaration {d : Declaration}
    (h : readDeclaration crate target = .ok d) : readBody crate target = .ok d.body := by
  rw [readDeclaration] at h
  obtain ⟨predicates, -, h⟩ := exists_of_bind_eq_ok h
  obtain ⟨body, hbody, h⟩ := exists_of_bind_eq_ok h
  cases h
  exact hbody

theorem of_enumBody {body : Body} (h : enumBody crate target = .ok body) :
    ∃ items variants stripped, crate.variants target = .ok items ∧
      items.mapM (readVariant crate) = .ok variants ∧ body = .variants variants stripped := by
  rw [enumBody] at h
  obtain ⟨items, hitems, h⟩ := exists_of_bind_eq_ok h
  obtain ⟨variants, hvariants, h⟩ := exists_of_bind_eq_ok h
  cases h
  exact ⟨items, variants, _, hitems, hvariants, rfl⟩

theorem structBody_ne_variants {vs : List DeclaredVariant} {stripped : Bool} :
    structBody crate target ≠ .ok (.variants vs stripped) := by
  intro h
  rw [structBody] at h
  obtain ⟨⟨word, data⟩, -, h⟩ := exists_of_bind_eq_ok h
  dsimp only at h
  by_cases htuple : word = "tuple"
  · rw [if_pos htuple] at h
    obtain ⟨ids, -, h⟩ := exists_of_bind_eq_ok h
    obtain ⟨places, -, h⟩ := exists_of_bind_eq_ok h
    cases h
  rw [if_neg htuple] at h
  by_cases hplain : word = "plain"
  · rw [if_pos hplain] at h
    obtain ⟨ids, -, h⟩ := exists_of_bind_eq_ok h
    obtain ⟨flag, -, h⟩ := exists_of_bind_eq_ok h
    obtain ⟨given, -, h⟩ := exists_of_bind_eq_ok h
    obtain ⟨fields, -, h⟩ := exists_of_bind_eq_ok h
    cases h
  rw [if_neg hplain] at h
  cases h

/-- A struct has no table of variants. -/
theorem Declaration.variantLines_of_struct (hkind : target.kind = "struct") {d : Declaration}
    (h : readDeclaration crate target = .ok d) (arguments : List Json) :
    d.variantLines subst arguments = .ok [] := by
  have hbody := readBody_of_readDeclaration h
  rw [readBody, if_neg (by rw [hkind]; decide)] at hbody
  rw [variantLines]
  split
  · rename_i vs stripped hvs
    rw [hvs] at hbody
    exact (structBody_ne_variants hbody).elim
  · rfl

/-! ## Filling -/

/-- What a variant holds, with the arguments in the place of the parameters. -/
def Content.fill (σ : Filling) : Content → Content
  | .none => .none
  | .tuple types => .tuple (types.map fun t => t.map (·.fill σ []))
  | .named fields => .named (fields.map fun f => (f.1, f.2.fill σ []))

/-- The types in what a variant holds fit. -/
def Content.fits (σ : Filling) : Content → Bool
  | .none => true
  | .tuple types => types.all fun t => t.all (·.fits σ [])
  | .named fields => fields.all (·.2.fits σ [])

/-- What a struct or an enum holds, with the arguments in the place of the parameters. -/
def Body.fill (σ : Filling) : Body → Body
  | .unit => .unit
  | .tuple places => .tuple (places.map fun p => p.map fun p => (p.1, p.2.fill σ []))
  | .fields fs stripped => .fields (fs.map fun f => (f.1, f.2.fill σ [])) stripped
  | .variants vs stripped =>
    .variants (vs.map fun v => { v with content := v.content.fill σ }) stripped

/-- The types in what a struct or an enum holds fit. -/
def Body.fits (σ : Filling) : Body → Bool
  | .unit => true
  | .tuple places => places.all fun p => p.all (·.2.fits σ [])
  | .fields fs _ => fs.all (·.2.fits σ [])
  | .variants vs _ => vs.all (·.content.fits σ)

/-- The declaration with the arguments in the place of the parameters. -/
def Declaration.fill (σ : Filling) (d : Declaration) : Declaration :=
  { d with predicates := d.predicates.map (·.fill σ), body := d.body.fill σ }

/-- The types of the declaration fit. -/
def Declaration.fits (σ : Filling) (d : Declaration) : Bool :=
  d.predicates.all (·.fits σ) && d.body.fits σ

variable {σ : Filling}

theorem Content.payload_fill {content : Content} (h : content.fits σ = true) :
    (content.fill σ).payload [] = content.payload σ.texts := by
  cases content with
  | none => rfl
  | tuple types =>
    refine congrArg Payload.tuple (map_map_fill (fun t ht => ?_) h)
    cases t with
    | none => rfl
    | some t => exact congrArg some (t.text_fill σ [] ht)
  | named fields =>
    refine congrArg Payload.named (map_map_fill (fun f hf => ?_) h)
    exact congrArg (f.1 ++ ": " ++ ·) (f.2.text_fill σ [] hf)

theorem whereText_fill {predicates : List WherePredicate}
    (h : predicates.all (·.fits σ) = true) :
    whereText [] (predicates.map (·.fill σ)) = whereText σ.texts predicates := by
  rw [whereText, whereText, map_map_fill (WherePredicate.text_fill σ) h, List.isEmpty_map]

/-- A declaration that fits is written with the texts of the arguments as it is when it is
filled. -/
theorem Declaration.text_fill {d : Declaration} (h : d.fits σ = true) (params : String) :
    (d.fill σ).text [] params = d.text σ.texts params := by
  obtain ⟨item, predicates, body⟩ := d
  rw [fits, Bool.and_eq_true] at h
  obtain ⟨hpredicates, hbody⟩ := h
  cases body with
  | unit => simp only [text, fill, Body.fill, whereText_fill hpredicates]
  | tuple places =>
    have hplaces : (places.map fun p => p.map fun p => (p.1, p.2.fill σ [])).map (placeText []) =
        places.map (placeText σ.texts) := by
      refine map_map_fill (fun p hp => ?_) hbody
      cases p with
      | none => rfl
      | some p => exact congrArg (p.1.keyword ++ ·) (p.2.text_fill σ [] hp)
    simp only [text, fill, Body.fill, whereText_fill hpredicates, hplaces]
  | fields fields stripped =>
    have hfields : (fields.map fun f => (f.1, f.2.fill σ [])).map (fieldLine []) =
        fields.map (fieldLine σ.texts) := by
      refine map_map_fill (fun f hf => ?_) hbody
      rw [fieldLine, fieldLine, f.2.text_fill σ [] hf]
    simp only [text, fill, Body.fill, whereText_fill hpredicates, hfields]
  | variants variants stripped =>
    have hvariants : (variants.map fun v => { v with content := v.content.fill σ }).map
        (·.line []) = variants.map (·.line σ.texts) := by
      refine map_map_fill (fun v hv => ?_) hbody
      rw [DeclaredVariant.line, DeclaredVariant.line, Content.payload_fill hv]
    simp only [text, fill, Body.fill, whereText_fill hpredicates, hvariants]

theorem variantRows_fill {variants : List DeclaredVariant}
    (h : variants.all (·.content.fits σ) = true) (arguments : List Json) :
    variantRows [] arguments (variants.map fun v => { v with content := v.content.fill σ }) =
      variantRows σ.texts arguments variants := by
  refine mapM_zipIdx_congr
    (List.forall₂_map_left_iff.2 (List.forall₂_same.2 fun v hv place => ?_)) 0
  dsimp only
  rw [Content.payload_fill (List.all_eq_true.1 h v hv)]

theorem Declaration.variantLines_fill {d : Declaration} (h : d.fits σ = true)
    (arguments : List Json) :
    (d.fill σ).variantLines [] arguments = d.variantLines σ.texts arguments := by
  obtain ⟨item, predicates, body⟩ := d
  rw [fits, Bool.and_eq_true] at h
  cases body with
  | variants variants stripped =>
    simp only [variantLines, fill, Body.fill, variantRows_fill h.2]
  | unit | tuple | fields => rfl

end CrateBook.Rustdoc
