import CrateBook.Proofs.Rustdoc.Ids.Types
import CrateBook.Rustdoc.Overview

/-!
# Pages are written however ids are spelled

Ids are only looked up, and an id and its text are looked up under one key. So a crate whose items
have texts for ids, `Crate.SpelledAs`, has the pages of the crate itself: each function that writes
a part of a page writes the same for both (`itemPage_textIds` at the end).
-/

namespace CrateBook.Rustdoc

/-- The item with texts for the ids in what it is made of. -/
def Item.textIds (item : Item) : Item := { item with inner := respell .payload item.inner }

/-- The crates record the same items, the second one with texts for ids. -/
structure Crate.SpelledAs (c c' : Crate) : Prop where
  item : ∀ key, c'.item? key = (c.item? key).map Item.textIds
  path : ∀ key, c'.path? key = c.path? key
  isEmpty_paths : c'.paths.isEmpty = c.paths.isEmpty
  root : c'.root = c.root
  version : c'.version = c.version

variable {c c' : Crate} {i : Item} {key : String} (subst : Subst)

/-! ## Items -/

namespace Item

@[simp] theorem id_textIds : i.textIds.id = i.id := rfl

@[simp] theorem name_textIds : i.textIds.name = i.name := rfl

@[simp] theorem visibility_textIds : i.textIds.visibility = i.visibility := rfl

@[simp] theorem docs_textIds : i.textIds.docs = i.docs := rfl

@[simp] theorem kind_textIds : i.textIds.kind = i.kind := rfl

@[simp] theorem isOwn_textIds : i.textIds.isOwn = i.isOwn := rfl

@[simp] theorem isPublic_textIds : i.textIds.isPublic = i.isPublic := rfl

@[simp] theorem displayName_textIds : i.textIds.displayName = i.displayName := rfl

@[simp] theorem part?_textIds (key : String) :
    i.textIds.part? key = (i.part? key).map (respell (Place.payload.under key)) :=
  get?_respell .payload key i.inner

@[simp] theorem part_textIds (key : String) :
    i.textIds.part key = respell (Place.payload.under key) (i.part key) := by
  rw [part, part, part?_textIds]
  cases i.part? key <;> rfl

/-- A list of ids is respelled id by id. -/
theorem partsIfAny_textIds (i : Item) (key : String) (h : Place.payload.under key = .listOf .id) :
    (i.textIds.part key).partsIfAny = List.map (respell .id) <$> (i.part key).partsIfAny := by
  rw [part_textIds, h, partsIfAny_respell]

@[simp] theorem generics_textIds : i.textIds.generics = respell .generics i.generics := by
  rw [generics, generics, part_textIds]
  exact orObject_respell (by decide) _

@[simp] theorem signature_textIds : i.textIds.signature = respell .signature i.signature := by
  rw [signature, signature, part?_textIds, part_textIds]
  cases i.part? "sig" <;> exact orObject_respell (by decide) _

@[simp] theorem fieldType_textIds : readTy i.textIds.fieldType = readTy i.fieldType := by
  rw [fieldType, fieldType, part?_textIds]
  cases i.part? "value" with
  | none => exact readTy_respell_payload i.inner
  | some v => exact readTy_respell v

/-- An id and its text stand for one key. -/
@[simp] theorem key?_respell (id : Json) : key? (respell .id id) = key? id := by
  cases id with
  | int n => rfl
  | arr vs => rw [respell_arr, respellItems_eq_self (fun _ => rfl) fun v _ => respell_other v]
  | obj ms =>
    have hms : ms.map (fun m => (m.1, respell (Place.id.under m.1) m.2)) = ms :=
      List.map_id'' (fun m => congrArg (Prod.mk m.1) (respell_other m.2)) ms
    rw [respell_obj, respellMembers_eq_map, hms]
  | _ => rfl

end Item

/-! ## Lookups -/

namespace Crate.SpelledAs

variable (h : c.SpelledAs c')

include h

theorem get? (id : Json) : c'.get? id = (c.get? id).map Item.textIds := by
  rw [Crate.get?, Crate.get?]
  cases Item.key? id with
  | none => rfl
  | some key => exact h.item key

theorem get?_respell (id : Json) : c'.get? (respell .id id) = (c.get? id).map Item.textIds := by
  rw [← h.get? id, Crate.get?, Item.key?_respell]
  rfl

theorem rootItem? : c'.rootItem? = c.rootItem?.map Item.textIds := by
  rw [Crate.rootItem?, Crate.rootItem?, h.root, h.item]

theorem name : c'.name = c.name := by
  rw [Crate.name, Crate.name, h.rootItem?]
  cases c.rootItem? <;> rfl

theorem qualifiedName (i : Item) : c'.qualifiedName i.textIds = c.qualifiedName i := by
  rw [Crate.qualifiedName, Crate.qualifiedName, Item.id_textIds, Item.displayName_textIds, h.path,
    h.name]

theorem namespace? (i : Item) : c'.namespace? i.textIds = c.namespace? i := by
  rw [Crate.namespace?, Crate.namespace?, Item.id_textIds, h.path]

theorem field? (id : Json) : c'.field? (respell .id id) = (c.field? id).map Item.textIds := by
  rw [Crate.field?, Crate.field?, h.get?_respell]
  exact Option.filter_map ..

theorem filterMap_get? (ids : List Json) :
    (ids.map (respell .id)).filterMap c'.get? = (ids.filterMap c.get?).map Item.textIds := by
  rw [List.filterMap_map, List.map_filterMap]
  exact congrArg (ids.filterMap ·) (funext h.get?_respell)

theorem filterMap_field? (ids : List Json) :
    (ids.map (respell .id)).filterMap c'.field? = (ids.filterMap c.field?).map Item.textIds := by
  rw [List.filterMap_map, List.map_filterMap]
  exact congrArg (ids.filterMap ·) (funext h.field?)

end Crate.SpelledAs

/-! ## Parts of items -/

theorem readShape_textIds (default : String) (i : Item) : readShape default i.textIds =
    (fun m => (m.1, respell (Place.shape.under m.1) m.2)) <$> readShape default i := by
  rw [readShape, readShape, Item.part?_textIds]
  cases i.part? "kind" with
  | none => rfl
  | some v =>
    cases v with
    | str s => rfl
    | arr vs => rfl
    | obj ms => exact firstMember_respell (by decide) _
    | _ => rfl

@[simp] theorem fieldTypeText_textIds (i : Item) :
    fieldTypeText subst i.textIds = fieldTypeText subst i := by simp [fieldTypeText]

@[simp] theorem fieldTypeCode_textIds (i : Item) :
    fieldTypeCode subst i.textIds = fieldTypeCode subst i := by simp [fieldTypeCode]

@[simp] theorem ownParams_textIds (i : Item) : ownParams subst i.textIds = ownParams subst i := by
  rw [ownParams, ownParams, Item.generics_textIds, listed_respell (by simp) rfl, bind_map_left]
  simp

@[simp] theorem ownPredicates_textIds (i : Item) :
    ownPredicates subst i.textIds = ownPredicates subst i := by simp [ownPredicates]

@[simp] theorem parameterLines_textIds (i : Item) :
    parameterLines i.textIds = parameterLines i := by
  simp [parameterLines, Place.under, Place.members, List.lookup]

@[simp] theorem signatureText_textIds (visibility : Visibility) (i : Item) :
    signatureText subst visibility i.textIds = signatureText subst visibility i := by
  rw [signatureText, signatureText, Item.generics_textIds, listed_respell (by simp) rfl]
  simp [Place.under, Place.members, Place.typeKinds, List.lookup]

@[simp] theorem discriminantText_textIds (i : Item) :
    discriminantText i.textIds = discriminantText i := by
  simp [discriminantText, Place.under, Place.members, Place.typeKinds, List.lookup]

@[simp] theorem functionLine_textIds (visibility : Visibility) (i : Item) :
    functionLine visibility i.textIds = functionLine visibility i := by simp [functionLine]

/-! ## Fields -/

namespace Crate.SpelledAs

variable (h : c.SpelledAs c')

include h

theorem namedFieldLines (ids : List Json) :
    namedFieldLines c' subst (ids.map (respell .id)) = namedFieldLines c subst ids := by
  rw [Rustdoc.namedFieldLines, Rustdoc.namedFieldLines, h.filterMap_field?]
  refine mapM_map_congr (fun field => ?_) _
  rw [fieldTypeCode_textIds]
  rfl

theorem tupleFieldLine? (id : Json) (place : Nat) :
    tupleFieldLine? c' subst (respell .id id) place = tupleFieldLine? c subst id place := by
  have hfield := h.field? id
  cases id with
  | null => rfl
  | _ =>
    simp only [respell, ↓reduceIte] at hfield ⊢
    simp only [Rustdoc.tupleFieldLine?, hfield]
    cases c.field? _ with
    | none => rfl
    | some field => simp

theorem tupleFieldLines (ids : List Json) :
    tupleFieldLines c' subst (ids.map (respell .id)) = tupleFieldLines c subst ids := by
  rw [Rustdoc.tupleFieldLines, Rustdoc.tupleFieldLines, List.zipIdx_map]
  exact congrArg (· >>= _) (mapM_map_congr (fun p => h.tupleFieldLine? subst p.1 p.2) _)

theorem structFieldLines (i : Item) :
    structFieldLines c' subst i.textIds = structFieldLines c subst i := by
  rw [Rustdoc.structFieldLines, Rustdoc.structFieldLines, readShape_textIds, bind_map_left]
  refine bind_congr fun m => ?_
  obtain ⟨shape, data⟩ := m
  by_cases hplain : shape = "plain"
  · subst hplain
    simp [h.namedFieldLines, Place.under, Place.members]
  by_cases htuple : shape = "tuple"
  · subst htuple
    simp [h.tupleFieldLines, Place.under, Place.members, List.lookup]
  · simp [hplain, htuple]

theorem fieldDeclarations (stripped : Bool) (ids : List Json) :
    fieldDeclarations c' subst stripped (ids.map (respell .id)) =
      fieldDeclarations c subst stripped ids := by
  rw [Rustdoc.fieldDeclarations, Rustdoc.fieldDeclarations, h.filterMap_field?]
  refine congrArg (· >>= _) (mapM_map_congr (fun field => ?_) _)
  rw [fieldTypeText_textIds]
  rfl

theorem tupleDeclaration (ids : List Json) :
    tupleDeclaration c' subst (ids.map (respell .id)) = tupleDeclaration c subst ids := by
  rw [Rustdoc.tupleDeclaration, Rustdoc.tupleDeclaration]
  refine congrArg (· >>= _) (mapM_map_congr (fun id => ?_) _)
  rw [h.field?]
  cases id with
  | null => rfl
  | _ =>
    simp only [respell]
    cases c.field? _ with
    | none => rfl
    | some field => simp

/-! ## Variants -/

theorem variants (i : Item) :
    c'.variants i.textIds = List.map Item.textIds <$> c.variants i := by
  rw [Crate.variants, Crate.variants, i.partsIfAny_textIds "variants" rfl, bind_map_left]
  simp [h.filterMap_get?, List.filter_map, Function.comp_def]

theorem tupleType (id : Json) : tupleType c' (respell .id id) = tupleType c id := by
  have hget := h.get?_respell id
  cases id with
  | null => rfl
  | _ =>
    simp only [respell, ↓reduceIte] at hget ⊢
    simp only [Rustdoc.tupleType, hget]
    cases c.get? _ with
    | none => rfl
    | some field => simp

theorem namedField? (id : Json) :
    namedField? c' subst (respell .id id) = namedField? c subst id := by
  rw [Rustdoc.namedField?, Rustdoc.namedField?, h.get?_respell]
  cases c.get? id with
  | none => rfl
  | some field => simp

theorem payload (i : Item) : payload c' subst i.textIds = payload c subst i := by
  rw [Rustdoc.payload, Rustdoc.payload, readShape_textIds, bind_map_left]
  refine bind_congr fun m => ?_
  obtain ⟨shape, data⟩ := m
  by_cases htuple : shape = "tuple"
  · subst htuple
    simp [mapM_map_congr h.tupleType, Place.under, Place.members, List.lookup]
  by_cases hstruct : shape = "struct"
  · subst hstruct
    simp [mapM_map_congr (h.namedField? subst), Place.under, Place.members, List.lookup]
  · simp [htuple, hstruct]

theorem variantSignature (i : Item) :
    variantSignature c' subst i.textIds = variantSignature c subst i := by
  rw [Rustdoc.variantSignature, Rustdoc.variantSignature, h.payload]
  rfl

theorem variantLines (i : Item) : variantLines c' i.textIds = variantLines c i := by
  rw [Rustdoc.variantLines, Rustdoc.variantLines, h.variants, bind_map_left]
  refine bind_congr fun vs => mapM_map_congr (fun v => ?_) vs
  rw [h.variantSignature, discriminantText_textIds]
  rfl

theorem variantDeclarations (i : Item) :
    variantDeclarations c' subst i.textIds = variantDeclarations c subst i := by
  have hstripped : Place.payload.under "has_stripped_variants" = .other := rfl
  rw [Rustdoc.variantDeclarations, Rustdoc.variantDeclarations, h.variants, bind_map_left,
    Item.part_textIds, hstripped, respell_other]
  refine bind_congr fun vs => congrArg (· >>= _) (mapM_map_congr (fun v => ?_) vs)
  rw [h.variantSignature, discriminantText_textIds]

theorem variantsTable (arguments : List Json) (i : Item) :
    variantsTable c' subst (arguments.map (respell .arg)) i.textIds =
      variantsTable c subst arguments i := by
  rw [Rustdoc.variantsTable, Rustdoc.variantsTable, h.variants, bind_map_left]
  refine bind_congr fun vs => ?_
  rw [List.zipIdx_map]
  refine congrArg (· >>= _) (mapM_map_congr (fun p => ?_) vs.zipIdx)
  obtain ⟨v, place⟩ := p
  have hargument : ((arguments.map (respell .arg))[place]?.mapM fun a => do
      return (← readArg a).text []) = arguments[place]?.mapM fun a => do
      return (← readArg a).text [] := by
    rw [List.getElem?_map]
    cases arguments[place]? <;> simp
  dsimp only [Prod.map, id]
  rw [h.payload, hargument]
  rfl

/-! ## Declarations -/

theorem structDeclaration (params : Option String) (i : Item) :
    structDeclaration c' subst params i.textIds = structDeclaration c subst params i := by
  unfold Rustdoc.structDeclaration
  rw [ownParams_textIds, ownPredicates_textIds, readShape_textIds]
  -- What follows is the same for parameters that are given and for those of the item.
  cases params
  all_goals
    refine bind_congr fun params => bind_congr fun predicates => ?_
    rw [bind_map_left]
    refine bind_congr fun m => ?_
    obtain ⟨shape, data⟩ := m
    by_cases htuple : shape = "tuple"
    · subst htuple
      simp [h.tupleDeclaration, Place.under, Place.members, List.lookup]
    by_cases hplain : shape = "plain"
    · subst hplain
      simp [h.fieldDeclarations, Place.under, Place.members, List.lookup]
    · simp [htuple, hplain]

theorem enumDeclaration (params : Option String) (i : Item) :
    enumDeclaration c' subst params i.textIds = enumDeclaration c subst params i := by
  unfold Rustdoc.enumDeclaration
  rw [ownParams_textIds, ownPredicates_textIds, h.variantDeclarations]
  rfl

theorem unionDeclaration (i : Item) : unionDeclaration c' i.textIds = unionDeclaration c i := by
  have hstripped : Place.payload.under "has_stripped_fields" = .other := rfl
  rw [Rustdoc.unionDeclaration, Rustdoc.unionDeclaration, ownParams_textIds, ownPredicates_textIds,
    i.partsIfAny_textIds "fields" rfl, Item.part_textIds, hstripped, respell_other]
  simp [h.fieldDeclarations]

end Crate.SpelledAs

/-! ## Aliases -/

theorem Item.targetPath?_textIds (i : Item) :
    i.textIds.targetPath? = i.targetPath?.map (respell .path) := by
  rw [targetPath?, targetPath?, Item.part_textIds, get?_respell]
  rfl

theorem aliasDeclaration_textIds (i : Item) :
    aliasDeclaration i.textIds = aliasDeclaration i := by
  rw [aliasDeclaration, aliasDeclaration, Item.targetPath?_textIds, ownParams_textIds,
    ownPredicates_textIds]
  cases i.targetPath? <;> simp [readPathName_respell, Place.under, Place.members, List.lookup]

theorem angleArguments_respell (args : Json) : angleArguments (respell .args args) =
    List.map (respell .arg) <$> angleArguments args := by
  rw [angleArguments, angleArguments, truthy_respell (by simp)]
  cases args.truthy with
  | false => rfl
  | true =>
    rw [mentions_respell (by simp) (by simp), member_respell (by simp)]
    cases args.mentions "angle_bracketed" with
    | error f => rfl
    | ok found =>
      cases found with
      | false => rfl
      | true => simp [ok_bind, Place.under, Place.members]

theorem Item.targetArguments_textIds (i : Item) :
    i.textIds.targetArguments = List.map (respell .arg) <$> i.targetArguments := by
  rw [targetArguments, targetArguments, Item.targetPath?_textIds]
  cases i.targetPath? with
  | none => rfl
  | some path => simp [angleArguments_respell, Place.under, Place.members, List.lookup]

theorem aliasSubst_textIds (i target : Item) :
    aliasSubst i.textIds target.textIds = aliasSubst i target := by
  have hparams : Place.generics.under "params" = .listOf .param := rfl
  rw [aliasSubst, aliasSubst, Item.generics_textIds, memberOrNull_respell (by simp), hparams,
    bind_map_left, Item.targetArguments_textIds]
  simp [List.zip_map_right, List.mapM_map, Function.comp_def]

theorem aliasParams_textIds (i : Item) : aliasParams i.textIds = aliasParams i := by
  rw [aliasParams, aliasParams, Item.generics_textIds, listed_respell (by simp) rfl]
  simp

theorem declaration?_textIds (i : Item) : declaration? i.textIds = declaration? i := by
  rw [declaration?, declaration?, ownParams_textIds, Item.kind_textIds]
  refine bind_congr fun params => ?_
  split
  case h_1 => simp
  case h_2 => simp [Place.under, Place.members, Place.typeKinds, List.lookup]
  case h_3 => simp [Place.under, Place.members, Place.typeKinds, List.lookup]
  case h_4 => simp [Place.under, Place.members, Place.typeKinds, List.lookup]
  case h_5 => simp
  case h_6 =>
    have hvalue : Place.payload.under "value" = .type := rfl
    rw [Item.part_textIds, hvalue]
    cases i.part "value" with
    | arr vs =>
      have htruthy := truthy_respell (p := .type) (by simp) (.arr vs)
      rw [respell_arr] at htruthy ⊢
      simp only [macroText?, htruthy]
      rfl
    | obj ms =>
      have htruthy := truthy_respell (p := .type) (by simp) (.obj ms)
      rw [respell_obj] at htruthy ⊢
      simp only [macroText?, htruthy]
      rfl
    | _ => rfl
  case h_7 => simp

theorem targetName_textIds (i : Item) (target : Option Item) :
    targetName i.textIds (target.map Item.textIds) = targetName i target := by
  cases target with
  | some target => rfl
  | none =>
    have hpath := i.targetPath?_textIds
    cases hi : i.targetPath? with
    | none =>
      rw [hi, Option.map_none] at hpath
      simp [targetName, hpath, hi, Place.under, Place.members, List.lookup]
    | some path =>
      rw [hi, Option.map_some] at hpath
      simp [targetName, hpath, hi, readPathName_respell]

theorem associatedLine?_textIds (i : Item) : associatedLine? i.textIds = associatedLine? i := by
  rw [associatedLine?, associatedLine?, Item.kind_textIds]
  split
  case h_1 => rw [functionLine_textIds]
  case h_2 => rfl
  case h_3 => simp [Place.under, Place.members, List.lookup]
  case h_4 => rfl

namespace Crate.SpelledAs

variable (h : c.SpelledAs c')

include h

theorem target? (i : Item) :
    c'.target? i.textIds = Option.map Item.textIds <$> c.target? i := by
  rw [Crate.target?, Crate.target?, Item.targetPath?_textIds]
  cases i.targetPath? with
  | none => rfl
  | some path => simp [h.get?_respell, Place.under, Place.members]

theorem aliasedCode (i : Item) (target : Option Item) :
    aliasedCode c' i.textIds (target.map Item.textIds) = aliasedCode c i target := by
  have hfilter :
      (target.map Item.textIds).filter (fun t => t.kind == "enum" || t.kind == "struct") =
        (target.filter fun t => t.kind == "enum" || t.kind == "struct").map Item.textIds :=
    Option.filter_map ..
  rw [Rustdoc.aliasedCode, Rustdoc.aliasedCode, hfilter]
  cases target.filter fun t => t.kind == "enum" || t.kind == "struct" with
  | none => simp [Place.under, Place.members, List.lookup]
  | some target =>
    simp [aliasSubst_textIds, aliasParams_textIds, h.enumDeclaration, h.structDeclaration]

/-! ## Implementations -/

theorem implementations (i : Item) :
    c'.implementations i.textIds = List.map Item.textIds <$> c.implementations i := by
  rw [Crate.implementations, Crate.implementations, i.partsIfAny_textIds "impls" rfl]
  simp only [h.filterMap_get?, List.filter_map, bind_map_left, map_bind, map_pure]
  refine bind_congr fun ids => congrArg (pure <| List.map Item.textIds ·) ?_
  rw [Function.comp_def, Function.comp_def]
  refine List.filter_congr fun impl _ => ?_
  have hsynthetic : Place.payload.under "is_synthetic" = .other := rfl
  have hblanket : Place.payload.under "blanket_impl" = .type := rfl
  rw [Item.part_textIds, Item.part_textIds, hsynthetic, hblanket, respell_other]
  cases impl.part "blanket_impl" <;> rfl

theorem contribution (impl : Item) : contribution c' impl.textIds = contribution c impl := by
  have htrait : Place.payload.under "trait" = .path := rfl
  rw [Rustdoc.contribution, Rustdoc.contribution, impl.partsIfAny_textIds "items" rfl,
    Item.part_textIds, htrait, bind_map_left]
  refine bind_congr fun ids => ?_
  rw [h.filterMap_get?]
  cases impl.part "trait" with
  | null => simp [respell, List.filter_map, List.mapM_map, Function.comp_def]
  | arr vs =>
    have hpath := readPath_respell (.arr vs)
    rw [respell_arr] at hpath ⊢
    simp [hpath, Place.under, Place.members, Place.typeKinds, List.lookup]
  | obj ms =>
    have hpath := readPath_respell (.obj ms)
    rw [respell_obj] at hpath ⊢
    simp [hpath, Place.under, Place.members, Place.typeKinds, List.lookup]
  | _ => simp [respell, Place.under, Place.members, Place.typeKinds, List.lookup]

theorem implementationLines (impls : List Item) :
    implementationLines c' (impls.map Item.textIds) = implementationLines c impls := by
  rw [Rustdoc.implementationLines, Rustdoc.implementationLines, mapM_map_congr h.contribution]

theorem implementationsSection (i : Item) :
    implementationsSection c' i.textIds = implementationsSection c i := by
  rw [Rustdoc.implementationsSection, Rustdoc.implementationsSection, h.implementations]
  simp [h.implementationLines]

theorem inheritedSection (targetName : String) (target : Option Item) :
    inheritedSection c' targetName (target.map Item.textIds) =
      inheritedSection c targetName target := by
  cases target with
  | none => rfl
  | some target =>
    simp [Rustdoc.inheritedSection, h.implementations, h.implementationLines]

/-! ## Pages -/

theorem headLines (i : Item) : headLines c' i.textIds = headLines c i := by
  rw [Rustdoc.headLines, Rustdoc.headLines, namespaceLines, namespaceLines, h.namespace?]
  rfl

theorem nextLines (i : Item) : nextLines c' i.textIds = nextLines c i := by
  rw [Rustdoc.nextLines, Rustdoc.nextLines, h.qualifiedName, h.name]

theorem structPage (i : Item) : structPage c' i.textIds = structPage c i := by
  rw [Rustdoc.structPage, Rustdoc.structPage, h.structDeclaration, h.structFieldLines,
    parameterLines_textIds, h.implementationsSection, h.headLines, h.nextLines]
  rfl

theorem enumPage (i : Item) : enumPage c' i.textIds = enumPage c i := by
  rw [Rustdoc.enumPage, Rustdoc.enumPage, h.enumDeclaration, h.variantLines,
    parameterLines_textIds, h.implementationsSection, h.headLines, h.nextLines]
  rfl

theorem unionPage (i : Item) : unionPage c' i.textIds = unionPage c i := by
  rw [Rustdoc.unionPage, Rustdoc.unionPage, h.unionDeclaration, i.partsIfAny_textIds "fields" rfl,
    parameterLines_textIds, h.implementationsSection, h.headLines, h.nextLines]
  simp [h.namedFieldLines]
  rfl

theorem aliasVariantLines (i : Item) (target : Option Item) :
    aliasVariantLines c' i.textIds (target.map Item.textIds) = aliasVariantLines c i target := by
  have hfilter : (target.map Item.textIds).filter (·.kind == "enum") =
      (target.filter (·.kind == "enum")).map Item.textIds := Option.filter_map ..
  rw [Rustdoc.aliasVariantLines, Rustdoc.aliasVariantLines, hfilter]
  cases target.filter (·.kind == "enum") with
  | none => rfl
  | some target =>
    simp [aliasSubst_textIds, Item.targetArguments_textIds, h.variantsTable]

theorem associatedLines (i : Item) : associatedLines c' i.textIds = associatedLines c i := by
  rw [Rustdoc.associatedLines, Rustdoc.associatedLines, i.partsIfAny_textIds "items" rfl]
  simp [h.filterMap_get?, mapM_map_congr associatedLine?_textIds]

theorem aliasPage (i : Item) : aliasPage c' i.textIds = aliasPage c i := by
  rw [Rustdoc.aliasPage, Rustdoc.aliasPage, h.target?, bind_map_left]
  refine bind_congr fun target => ?_
  rw [aliasDeclaration_textIds, h.aliasedCode, h.aliasVariantLines, targetName_textIds, h.headLines,
    h.nextLines]
  refine bind_congr fun code => bind_congr fun aliased => bind_congr fun _ =>
    bind_congr fun variants => bind_congr fun name => ?_
  rw [h.inheritedSection]
  rfl

theorem plainPage (i : Item) : plainPage c' i.textIds = plainPage c i := by
  rw [Rustdoc.plainPage, Rustdoc.plainPage, declaration?_textIds, h.associatedLines,
    parameterLines_textIds, h.headLines, h.nextLines]
  rfl

/-- The page of an item is the same however ids are spelled. -/
theorem itemPage (i : Item) : itemPage c' i.textIds = itemPage c i := by
  rw [Rustdoc.itemPage, Rustdoc.itemPage, Item.kind_textIds]
  cases PageShape.ofKind i.kind with
  | struct => exact h.structPage i
  | enum => exact h.enumPage i
  | union => exact h.unionPage i
  | typeAlias => exact h.aliasPage i
  | plain => exact h.plainPage i

end Crate.SpelledAs

end CrateBook.Rustdoc
