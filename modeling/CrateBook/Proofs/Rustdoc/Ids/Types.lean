import CrateBook.Proofs.Rustdoc.Ids.Places
import CrateBook.Proofs.Rustdoc.Results
import CrateBook.Rustdoc.Function

/-!
# Types are read however ids are spelled

No reader of types and generic parameters looks at an id, so a value and its respelling are read
alike. The readers call each other with a smaller bound; `ReadsAlike` says it of all of them for one
bound, and `readsAlike` follows by induction on the bound.
-/

namespace CrateBook.Rustdoc

variable {n : Nat} {p : Place}

/-! ## Within a bound -/

/-- Types and what stands in them are read alike within a bound, however the ids in them are
spelled. What a field is made of is read as a type. -/
structure ReadsAlike (n : Nat) : Prop where
  ty : ∀ p, p = .type ∨ p = .payload → ∀ v, readTyWithin n (respell p v) = readTyWithin n v
  path : ∀ v, readPathWithin n (respell .path v) = readPathWithin n v
  args : ∀ v, readArgsWithin n (respell .args v) = readArgsWithin n v
  arg : ∀ v, readArgWithin n (respell .arg v) = readArgWithin n v
  term : ∀ v, readTermWithin n (respell .arg v) = readTermWithin n v
  constraint : ∀ v, readConstraintWithin n (respell .constraint v) = readConstraintWithin n v
  bounds : ∀ v, readBoundsWithin n (respell (.listOf .bound) v) = readBoundsWithin n v
  bound : ∀ v, readBoundWithin n (respell .bound v) = readBoundWithin n v
  binder : ∀ v, readBinderWithin n (respell (.listOf .param) v) = readBinderWithin n v
  param : ∀ v, readParamWithin n (respell .param v) = readParamWithin n v
  inputs : ∀ named v,
    readInputsWithin n named (respell .signature v) = readInputsWithin n named v

theorem ReadsAlike.type (h : ReadsAlike n) (v : Json) :
    readTyWithin n (respell .type v) = readTyWithin n v := h.ty .type (.inl rfl) v

theorem readPathName_respell (v : Json) : readPathName (respell .path v) = readPathName v := by
  simp [readPathName, Place.under, Place.members, List.lookup]

theorem readConst_respell (v : Json) : readConst (respell .constant v) = readConst v := by
  simp [readConst, Place.under, Place.members, List.lookup]

theorem readPathWithin_succ (h : ReadsAlike n) (v : Json) :
    readPathWithin (n + 1) (respell .path v) = readPathWithin (n + 1) v := by
  simp [readPathWithin, readPathName_respell, h.args, Place.under, Place.members, List.lookup]

theorem readArgWithin_succ (h : ReadsAlike n) (v : Json) :
    readArgWithin (n + 1) (respell .arg v) = readArgWithin (n + 1) v := by
  simp [readArgWithin, h.type, readConst_respell, Place.under, Place.members, List.lookup]

theorem readTermWithin_succ (h : ReadsAlike n) (v : Json) :
    readTermWithin (n + 1) (respell .arg v) = readTermWithin (n + 1) v := by
  simp [readTermWithin, h.type, readConst_respell, Place.under, Place.members, List.lookup]

theorem readConstraintWithin_succ (h : ReadsAlike n) (v : Json) :
    readConstraintWithin (n + 1) (respell .constraint v) = readConstraintWithin (n + 1) v := by
  simp [readConstraintWithin, h.args, h.term, h.bounds, Place.under, Place.members, List.lookup]

theorem readBoundsWithin_succ (h : ReadsAlike n) (v : Json) :
    readBoundsWithin (n + 1) (respell (.listOf .bound) v) = readBoundsWithin (n + 1) v := by
  simp [readBoundsWithin, mapM_map_congr h.bound]

theorem readBoundWithin_succ (h : ReadsAlike n) (v : Json) :
    readBoundWithin (n + 1) (respell .bound v) = readBoundWithin (n + 1) v := by
  simp [readBoundWithin, h.binder, h.path, Place.under, Place.members, List.lookup]

theorem rawName?_respell (v : Json) (param : GenericParam) :
    rawName? (respell .param v) param = rawName? v param := by
  have hname : (respell .param v).get? "name" = v.get? "name" := by
    rw [get?_respell]
    simp [Place.under, Place.members, List.lookup, funext respell_other]
  cases param with
  | type name bounds => cases bounds <;> simp only [rawName?, hname]
  | _ => rfl

theorem rawNames_respell (vs : List Json) (params : List GenericParam) :
    List.zipWith rawName? (vs.map (respell .param)) params = List.zipWith rawName? vs params := by
  rw [List.zipWith_map_left]
  simp only [rawName?_respell]

theorem readBinderWithin_succ (h : ReadsAlike n) (v : Json) :
    readBinderWithin (n + 1) (respell (.listOf .param) v) = readBinderWithin (n + 1) v := by
  simp [readBinderWithin, mapM_map_congr h.param, rawNames_respell]

theorem readParamWithin_succ (h : ReadsAlike n) (v : Json) :
    readParamWithin (n + 1) (respell .param v) = readParamWithin (n + 1) v := by
  simp [readParamWithin, h.type, h.bounds, Place.under, Place.members, List.lookup]

/-- Null is told apart from other values however ids are spelled. -/
theorem match_respell {α : Type} (hp : p ≠ .id) (a : α) (f : Json → α)
    (hf : ∀ v, f (respell p v) = f v) (v : Json) :
    (match respell p v with | .null => a | w => f w) = match v with | .null => a | w => f w := by
  have hv := hf v
  cases v with
  | null => rfl
  | int n => rw [respell_int hp]
  | arr vs =>
    rw [respell_arr] at hv ⊢
    exact hv
  | obj ms =>
    rw [respell_obj] at hv ⊢
    exact hv
  | _ => rfl

theorem readArgsWithin_succ (h : ReadsAlike n) (v : Json) :
    readArgsWithin (n + 1) (respell .args v) = readArgsWithin (n + 1) v := by
  have hconstraints (v : Json) :
      (respell .angle v).memberOr "constraints" "bindings" =
        respell (.listOf .constraint) <$> v.memberOr "constraints" "bindings" :=
    memberOr_respell (by simp) "constraints" "bindings" rfl v
  rw [readArgsWithin, readArgsWithin, truthy_respell (by simp), isText_respell (by simp),
    mentions_respell (by simp) (by simp), mentions_respell (by simp) (by simp)]
  refine ite_congr rfl (fun _ => rfl) fun _ => ite_congr rfl (fun _ => rfl) fun _ =>
    bind_congr fun angle => ?_
  cases angle with
  | true =>
    simp [hconstraints, mapM_map_congr h.arg, mapM_map_congr h.constraint, Place.under,
      Place.members]
  | false =>
    refine bind_congr fun paren => ?_
    cases paren with
    | false => rfl
    | true =>
      have hparen : Place.args.under "parenthesized" = .paren := rfl
      have hinputs : Place.paren.under "inputs" = .listOf .type := rfl
      have houtput : Place.paren.under "output" = .type := rfl
      rw [if_pos rfl, if_pos rfl, member_respell (by simp), hparen, bind_map_left]
      refine bind_congr fun body => ?_
      rw [memberOrNull_respell (by simp), hinputs, bind_map_left]
      simp only [partsIfAny_respell, bind_map_left, mapM_map_congr h.type]
      refine bind_congr fun list => bind_congr fun parts => bind_congr fun inputs =>
        bind_congr fun _ => ?_
      rw [memberOrNull_respell (by simp), houtput, bind_map_left]
      refine bind_congr fun output => match_respell (p := .type) (by simp) _
        (fun output => do return Args.paren inputs (some (← readTyWithin n output)))
        (fun v => ?_) output
      rw [h.type]

/-! ## Inputs -/

theorem isSelf_respell (v : Json) : isSelf (respell .type v) = isSelf v := by
  cases v with
  | obj ms =>
    rw [respell_obj, respellMembers_eq_map]
    exact Place.Keeps.isSelf respell_other ms
  | _ => rfl

theorem isNoOutput_respell (v : Json) : isNoOutput (respell .type v) = isNoOutput v := by
  cases v with
  | obj ms =>
    rw [respell_obj, respellMembers_eq_map]
    exact (keeps_respell (by simp)).isNoOutput ms
  | _ => rfl

theorem readPair_respell (v : Json) : readPair (respell .input v) =
    (fun m => (m.1, respell .type m.2)) <$> readPair v :=
  (keeps_respell (by simp)).readPair respell_other (fun _ => rfl) v

theorem readReceiver_respell (type : Json) (read : Ty) :
    readReceiver (respell .type type) read = readReceiver type read := by
  unfold readReceiver
  rw [isSelf_respell]
  cases type with
  | obj ms =>
    simp only [respell_obj]
    rw [← respell_obj]
    simp [isSelf_respell, Place.under, Place.members, Place.typeKinds, List.lookup]
  | _ => rfl

theorem readInputsWithin_succ (h : ReadsAlike n) (named : Bool) (v : Json) :
    readInputsWithin (n + 1) named (respell .signature v) = readInputsWithin (n + 1) named v := by
  have hvariadic (v : Json) :
      (respell .signature v).memberOr "is_c_variadic" "c_variadic" =
        v.memberOr "is_c_variadic" "c_variadic" := by
    rw [memberOr_respell (by simp) "is_c_variadic" "c_variadic" rfl]
    simp [Place.under, Place.members, List.lookup, funext respell_other]
  simp [readInputsWithin, hvariadic, List.mapM_map, Function.comp_def, readPair_respell, h.type,
    readReceiver_respell, Place.under, Place.members]

/-! ## Types -/

@[simp] theorem regroup_respell (v : Json) (target : Ty) :
    regroup (respell .type v) target = regroup v target := by
  have hbounds : namedBounds (respell .type v) = namedBounds v :=
    Place.Keeps.namedBounds_eq (keeps_respell (by simp)) (keeps_respell (by simp))
      (keeps_respell (by simp)) respell_other (get?_respell .type "dyn_trait" v)
      (get?_respell .type "impl_trait" v)
  rw [regroup, regroup, hbounds]

theorem readTyWithin_succ (h : ReadsAlike n) (hp : p = .type ∨ p = .payload) (v : Json) :
    readTyWithin (n + 1) (respell p v) = readTyWithin (n + 1) v := by
  have hkinds := fun m => @Place.under_typeKinds p hp m
  simp only [Place.typeKinds, List.forall_mem_cons] at hkinds
  have hne : p ≠ .id := by rcases hp with rfl | rfl <;> simp
  have hsig (v : Json) : (respell .fnPointer v).memberOr "sig" "decl" =
      respell .signature <$> v.memberOr "sig" "decl" :=
    memberOr_respell (by simp) "sig" "decl" rfl v
  cases v with
  | obj ms =>
    cases ms with
    | nil => rw [respell_obj]; rfl
    | cons m ms =>
      obtain ⟨kind, w⟩ := m
      rw [respell_obj, respellMembers]
      simp only [readTyWithin, Json.firstMember, ok_bind]
      -- The cases are the kinds in the order of `Place.typeKinds`, and the unknown ones.
      split
      case h_1 => simp only [hkinds, h.path]
      case h_2 => simp only [hkinds, respell_other]
      case h_3 => simp only [hkinds, respell_other]
      case h_4 =>
        simp only [hkinds]
        simp [mapM_map_congr h.type]
      case h_5 => simp only [hkinds, h.type]
      case h_6 =>
        simp only [hkinds]
        simp [h.type, Place.under, Place.members, List.lookup]
      case h_7 =>
        simp only [hkinds]
        simp [h.type, Place.under, Place.members]
      case h_8 =>
        simp only [hkinds]
        simp [h.type, Place.under, Place.members, List.lookup]
      case h_9 =>
        simp only [hkinds]
        simp [h.type, Place.under, Place.members, List.lookup]
      case h_10 =>
        simp only [hkinds]
        simp [h.type, h.binder, h.inputs, hsig, isNoOutput_respell, Place.under, Place.members,
          List.lookup]
      case h_11 =>
        simp only [hkinds]
        simp [h.binder, h.path, Function.comp_def, Place.under, Place.members, List.lookup]
      case h_12 => simp only [hkinds, h.bounds]
      case h_13 =>
        have hself : (respell .qualified w).member "self_type" =
            respell .type <$> w.member "self_type" := member_respell (by simp) _ w
        have hname : (respell .qualified w).member "name" = w.member "name" := by
          rw [member_respell (by simp)]
          simp [Place.under, Place.members, List.lookup, funext respell_other]
        have hargs : (respell .qualified w).memberOrNull "args" =
            respell .args <$> w.memberOrNull "args" := memberOrNull_respell (by simp) _ w
        have htrait : (respell .qualified w).memberOrNull "trait" =
            respell .path <$> w.memberOrNull "trait" := memberOrNull_respell (by simp) _ w
        simp only [hkinds, hself, hname, hargs, htrait, bind_map_left, h.type, h.args]
        refine bind_congr fun _ => bind_congr fun self => bind_congr fun _ => bind_congr fun _ =>
          bind_congr fun args => bind_congr fun name => bind_congr fun trait =>
            match_respell (p := .path) (by simp) _ (fun trait => do
              return Ty.qualified self name args (some (← readPathWithin n trait)))
              (fun v => ?_) trait
        rw [h.path]
      case h_14 => simp
  | arr vs => rw [respell_arr]; rfl
  | int n => rw [respell_int hne]
  | _ => rfl

/-- Types are read alike within every bound. -/
theorem readsAlike (n : Nat) : ReadsAlike n := by
  induction n with
  | zero => constructor <;> intros <;> simp only [readTyWithin_zero, readPathWithin, readArgsWithin,
      readArgWithin, readTermWithin, readConstraintWithin, readBoundsWithin, readBoundWithin,
      readBinderWithin, readParamWithin, readInputsWithin]
  | succ n h =>
    exact {
      ty := fun _ hp => readTyWithin_succ h hp
      path := readPathWithin_succ h
      args := readArgsWithin_succ h
      arg := readArgWithin_succ h
      term := readTermWithin_succ h
      constraint := readConstraintWithin_succ h
      bounds := readBoundsWithin_succ h
      bound := readBoundWithin_succ h
      binder := readBinderWithin_succ h
      param := readParamWithin_succ h
      inputs := readInputsWithin_succ h }

/-! ## Whole values -/

variable (v : Json)

@[simp] theorem readTy_respell : readTy (respell .type v) = readTy v := by
  rw [readTy, readTy, depth_respell, (readsAlike _).type]

/-- What a field is made of is read as a type. -/
@[simp] theorem readTy_respell_payload : readTy (respell .payload v) = readTy v := by
  rw [readTy, readTy, depth_respell, (readsAlike _).ty _ (.inr rfl)]

@[simp] theorem readPath_respell : readPath (respell .path v) = readPath v := by
  rw [readPath, readPath, depth_respell, (readsAlike _).path]

@[simp] theorem readArgs_respell : readArgs (respell .args v) = readArgs v := by
  rw [readArgs, readArgs, depth_respell, (readsAlike _).args]

@[simp] theorem readArg_respell : readArg (respell .arg v) = readArg v := by
  rw [readArg, readArg, depth_respell, (readsAlike _).arg]

@[simp] theorem readTerm_respell : readTerm (respell .arg v) = readTerm v := by
  rw [readTerm, readTerm, depth_respell, (readsAlike _).term]

@[simp] theorem readBounds_respell : readBounds (respell (.listOf .bound) v) = readBounds v := by
  rw [readBounds, readBounds, depth_respell, (readsAlike _).bounds]

@[simp] theorem readBinder_respell : readBinder (respell (.listOf .param) v) = readBinder v := by
  rw [readBinder, readBinder, depth_respell, (readsAlike _).binder]

@[simp] theorem readInputs_respell (named : Bool) :
    readInputs named (respell .signature v) = readInputs named v := by
  rw [readInputs, readInputs, depth_respell, (readsAlike _).inputs]

@[simp] theorem readOutput_respell : readOutput (respell .signature v) = readOutput v := by
  simp [readOutput, isNoOutput_respell, Place.under, Place.members, List.lookup]

/-! ## Generic parameters -/

@[simp] theorem isSynthetic_respell : isSynthetic (respell .param v) = isSynthetic v := by
  simp [isSynthetic, Place.under, Place.members, List.lookup]

theorem visibleParams_respell (ps : List Json) : visibleParams (ps.map (respell .param)) =
    List.map (respell .param) <$> visibleParams ps := by
  induction ps with
  | nil => rfl
  | cons p ps ih =>
    rw [List.map_cons, visibleParams, visibleParams, isSynthetic_respell, ih]
    cases isSynthetic p with
    | error f => rfl
    | ok synthetic =>
      cases visibleParams ps with
      | error f => rfl
      | ok rest => cases synthetic <;> rfl

@[simp] theorem readParams_respell (ps : List Json) :
    readParams (ps.map (respell .param)) = readParams ps := by
  have hread (p : Json) : readParamWithin (p.depth + 1) (respell .param p) =
      readParamWithin (p.depth + 1) p := (readsAlike _).param p
  simp [readParams, visibleParams_respell, rawNames_respell, List.mapM_map, Function.comp_def,
    hread]

@[simp] theorem readParamNames_respell (ps : List Json) :
    readParamNames (ps.map (respell .param)) = readParamNames ps := by
  induction ps with
  | nil => rfl
  | cons p ps ih =>
    simp [readParamNames, ih, Place.under, Place.members, List.lookup]

/-- What a member lists is respelled as it is read. -/
theorem listed_respell {p q : Place} {key : String} (hp : p ≠ .id) (h : p.under key = .listOf q)
    (v : Json) : listed key (respell p v) = List.map (respell q) <$> listed key v := by
  rw [listed, listed, memberOrNull_respell hp, h]
  simp

@[simp] theorem readPredicate_respell : readPredicate (respell .predicate v) = readPredicate v := by
  simp [readPredicate, listed, Place.under, Place.members, List.lookup]

@[simp] theorem readPredicates_respell :
    readPredicates (respell .generics v) = readPredicates v := by
  rw [readPredicates, readPredicates, orObject_respell (by simp),
    listed_respell (by simp) rfl, bind_map_left]
  simp [mapM_map_congr readPredicate_respell]

@[simp] theorem paramLine?_respell : paramLine? (respell .param v) = paramLine? v := by
  simp [paramLine?, readParamKind, Place.under, Place.members, List.lookup]

@[simp] theorem paramLines_respell : paramLines (respell .generics v) = paramLines v := by
  rw [paramLines, paramLines, orObject_respell (by simp), listed_respell (by simp) rfl,
    bind_map_left]
  simp [mapM_map_congr paramLine?_respell]

end CrateBook.Rustdoc
