import CrateBook.Proofs.Rustdoc.Results
import CrateBook.Proofs.Rustdoc.Substitution.Places
import CrateBook.Proofs.Rustdoc.Substitution.Types
import CrateBook.Rustdoc.Generics

/-!
# Reading types with texts in the place of generic parameters

A value of a dump into which texts have been put is read as before, and the texts stand in the place
of generic parameters in what is read. The readers call each other with a smaller bound; `ReadsPut`
says it of all of them for one bound, and `readsPut` follows by induction on the bound. So a
substitution does the same to the text of a type as the edit of the type itself
(`texts_putTextsAt`). The name `Self` is told apart by the readers, and no text is put in its place.
-/

namespace CrateBook.Rustdoc

variable {s : Subst} {n : Nat} {p : Place}

/-- Parts that are each read with the texts put into them are so read one after another. -/
theorem mapM_putTextsAt {α : Type} {read : Json → Except Fault α} {put : α → α}
    {puts : List α → List α} (hputs : ∀ l, puts l = l.map put)
    (h : ∀ v, read (putTextsAt s p v) = put <$> read v) (vs : List Json) :
    (vs.map (putTextsAt s p)).mapM read = puts <$> vs.mapM read := by
  rw [mapM_map_congr h, mapM_map_result, funext hputs]

/-! ## Within a bound -/

/-- Types and what stands in them are read within a bound as before, with the texts in the place of
generic parameters. -/
structure ReadsPut (s : Subst) (n : Nat) : Prop where
  type : ∀ v, readTyWithin n (putTextsAt s .type v) = Ty.putTexts s <$> readTyWithin n v
  path : ∀ v, readPathWithin n (putTextsAt s .path v) = TraitPath.putTexts s <$> readPathWithin n v
  args : ∀ v, readArgsWithin n (putTextsAt s .args v) = Args.putTexts s <$> readArgsWithin n v
  arg : ∀ v, readArgWithin n (putTextsAt s .arg v) = Arg.putTexts s <$> readArgWithin n v
  term : ∀ v, readTermWithin n (putTextsAt s .arg v) = Arg.putTexts s <$> readTermWithin n v
  constraint : ∀ v, readConstraintWithin n (putTextsAt s .constraint v) =
    Constraint.putTexts s <$> readConstraintWithin n v
  bounds : ∀ v, readBoundsWithin n (putTextsAt s (.listOf .bound) v) =
    putBounds s <$> readBoundsWithin n v
  bound : ∀ v, readBoundWithin n (putTextsAt s .bound v) = Bound.putTexts s <$> readBoundWithin n v
  inputs : ∀ named v, readInputsWithin n named (putTextsAt s .signature v) =
    (fun m => (putInputs s m.1, m.2)) <$> readInputsWithin n named v

theorem readPathName_putTextsAt (v : Json) :
    readPathName (putTextsAt s .path v) = readPathName v := by
  simp [readPathName, Place.under, Place.members, List.lookup]

/-- A constant holds no type that could be replaced. -/
theorem map_readConst (s : Subst) (v : Json) : Arg.putTexts s <$> readConst v = readConst v := by
  rw [readConst, map_bind]
  refine bind_congr fun expr => ?_
  dsimp only
  rw [map_ite, map_bind, map_bind]
  -- The value is the newer member or the older one, and is read in one way.
  refine ite_congr rfl (fun _ => bind_congr fun value => ?_) fun _ => bind_congr fun value => ?_
  all_goals
    rw [map_ite]
    refine ite_congr rfl (fun _ => rfl) fun _ => ?_
    cases value <;> rfl

theorem readConst_putTextsAt (v : Json) :
    readConst (putTextsAt s .constant v) = Arg.putTexts s <$> readConst v := by
  rw [map_readConst]
  simp [readConst, Place.under, Place.members, List.lookup]

theorem readPathWithin_put (h : ReadsPut s n) (v : Json) :
    readPathWithin (n + 1) (putTextsAt s .path v) =
      TraitPath.putTexts s <$> readPathWithin (n + 1) v := by
  simp [readPathWithin, readPathName_putTextsAt, h.args, Place.under, Place.members, List.lookup,
    TraitPath.putTexts]

theorem readArgWithin_put (h : ReadsPut s n) (v : Json) :
    readArgWithin (n + 1) (putTextsAt s .arg v) = Arg.putTexts s <$> readArgWithin (n + 1) v := by
  simp [readArgWithin, h.type, readConst_putTextsAt, Place.under, Place.members, List.lookup,
    Arg.putTexts, map_ite]

theorem readTermWithin_put (h : ReadsPut s n) (v : Json) :
    readTermWithin (n + 1) (putTextsAt s .arg v) = Arg.putTexts s <$> readTermWithin (n + 1) v := by
  simp [readTermWithin, h.type, readConst_putTextsAt, Place.under, Place.members, List.lookup,
    Arg.putTexts, map_ite]

theorem readConstraintWithin_put (h : ReadsPut s n) (v : Json) :
    readConstraintWithin (n + 1) (putTextsAt s .constraint v) =
      Constraint.putTexts s <$> readConstraintWithin (n + 1) v := by
  simp [readConstraintWithin, h.args, h.term, h.bounds, Place.under, Place.members, List.lookup,
    map_ite, Constraint.putTexts]

theorem readBoundsWithin_put (h : ReadsPut s n) (v : Json) :
    readBoundsWithin (n + 1) (putTextsAt s (.listOf .bound) v) =
      putBounds s <$> readBoundsWithin (n + 1) v := by
  simp [readBoundsWithin, mapM_putTextsAt (putBounds_eq_map s) h.bound]

/-- Declared parameters are left alone. -/
@[simp] theorem putTextsAt_params (s : Subst) (v : Json) :
    putTextsAt s (.listOf .param) v = v := by
  have hkeeps := keeps_putTextsAt s (p := .listOf .param) (by simp) (by simp)
  cases v with
  | arr vs =>
    rw [hkeeps.arr]
    exact congrArg Json.arr (Place.Keeps.mapIdx_eq_self fun _ v _ => putTextsAt_param s v)
  | obj ms =>
    rw [hkeeps.obj]
    refine congrArg Json.obj ?_
    conv_rhs => rw [← List.map_id ms]
    exact List.map_congr_left fun m _ => congrArg (Prod.mk m.1) (putTextsAt_other s m.2)
  | _ => rfl

theorem readBoundWithin_put (h : ReadsPut s n) (v : Json) :
    readBoundWithin (n + 1) (putTextsAt s .bound v) =
      Bound.putTexts s <$> readBoundWithin (n + 1) v := by
  rw [readBoundWithin, readBoundWithin, mentions_putTextsAt (by simp) (by simp) (by simp) (by simp),
    map_bind]
  refine bind_congr fun isTrait => ?_
  cases isTrait with
  | true =>
    simp only [↓reduceIte, ne_eq, reduceCtorEq, not_false_eq_true, member_putTextsAt, Place.under,
      Place.members, List.lookup_cons_self, Option.getD_some, bind_map_left,
      memberOrNull_putTextsAt, List.lookup, String.reduceBEq, Option.getD_none, BEq.rfl, h.path,
      putTextsAt_other, putTextsAt_params, map_bind]
    refine bind_congr fun b => bind_congr fun params => bind_congr fun binder =>
      bind_congr fun modifier => bind_congr fun trait => bind_congr fun path => ?_
    cases path
    rfl
  | false => simp [Place.under, Place.members, List.lookup, map_ite, Bound.putTexts]

theorem joinable_args (as : List Arg) (place : Nat) :
    joinable place ((putArgs s as).map Arg.raw?) = joinable place (as.map Arg.raw?) := by
  rw [putArgs_eq_map, List.map_map]
  exact congrArg _ (List.map_congr_left fun a _ => a.raw?_putTexts s)

theorem joinable_tys (ts : List Ty) (place : Nat) :
    joinable place ((putTys s ts).map Ty.raw?) = joinable place (ts.map Ty.raw?) := by
  rw [putTys_eq_map, List.map_map]
  exact congrArg _ (List.map_congr_left fun t _ => t.raw?_putTexts s)

theorem joinable_inputs (is : List Input) (place : Nat) :
    joinable place ((putInputs s is).map Input.raw?) = joinable place (is.map Input.raw?) := by
  rw [putInputs_eq_map, List.map_map]
  exact congrArg _ (List.map_congr_left fun i _ => i.raw?_putTexts s)

/-- Null is told apart from other values as before. -/
theorem match_putTextsAt {α : Type} {g : α → α} {a b : Except Fault α}
    {f k : Json → Except Fault α} (ha : a = g <$> b) (hf : ∀ v, f (putTextsAt s p v) = g <$> k v)
    (v : Json) :
    (match putTextsAt s p v with | .null => a | w => f w) =
      g <$> match v with | .null => b | w => k w := by
  have hv := hf v
  cases v with
  | null => exact ha
  | arr vs =>
    rw [putTextsAt] at hv ⊢
    exact hv
  | obj ms =>
    obtain ⟨ms', hms⟩ : ∃ ms', putTextsAt s p (.obj ms) = .obj ms' := by
      rw [putTextsAt]
      split
      · exact ⟨_, rfl⟩
      · split <;> exact ⟨_, rfl⟩
    rw [hms] at hv ⊢
    exact hv
  | _ => exact hv

theorem readArgsWithin_put (h : ReadsPut s n) (v : Json) :
    readArgsWithin (n + 1) (putTextsAt s .args v) =
      Args.putTexts s <$> readArgsWithin (n + 1) v := by
  have hconstraints (v : Json) : (putTextsAt s .angle v).memberOr "constraints" "bindings" =
      putTextsAt s (.listOf .constraint) <$> v.memberOr "constraints" "bindings" :=
    memberOr_putTextsAt (by simp) (by simp) "constraints" "bindings" rfl v
  rw [readArgsWithin, readArgsWithin, truthy_putTextsAt (by simp) (by simp),
    isText_putTextsAt (by simp) (by simp),
    mentions_putTextsAt (by simp) (by simp) (by simp) (by simp),
    mentions_putTextsAt (by simp) (by simp) (by simp) (by simp), map_ite, map_ite, map_bind]
  refine ite_congr rfl (fun _ => rfl) fun _ => ite_congr rfl (fun _ => rfl) fun _ =>
    bind_congr fun angle => ?_
  cases angle with
  | true =>
    simp [hconstraints, mapM_putTextsAt (putArgs_eq_map s) h.arg,
      mapM_putTextsAt (putConstraints_eq_map s) h.constraint, joinable_args, Args.putTexts,
      Place.under, Place.members]
  | false =>
    simp only [Bool.false_eq_true, ↓reduceIte, map_bind]
    refine bind_congr fun paren => ?_
    cases paren with
    | false => rfl
    | true =>
      simp only [↓reduceIte, Place.under, Place.members, List.lookup, String.reduceBEq, BEq.rfl,
        Option.getD_some, ne_eq, reduceCtorEq, not_false_eq_true, member_putTextsAt,
        memberOrNull_putTextsAt, List.lookup_cons_self, bind_map_left, partsIfAny_putTextsAt,
        mapM_putTextsAt (putTys_eq_map s) h.type, joinable_tys, bind_pure_comp, map_bind]
      refine bind_congr fun body => bind_congr fun list => bind_congr fun parts =>
        bind_congr fun inputs => bind_congr fun _ => bind_congr fun output => ?_
      refine match_putTextsAt (g := Args.putTexts s) (b := pure (.paren inputs none))
        (f := fun output => (fun t => Args.paren (putTys s inputs) (some t)) <$>
          readTyWithin n output)
        (k := fun output => (fun t => Args.paren inputs (some t)) <$> readTyWithin n output)
        rfl (fun v => ?_) output
      simp [h.type, Args.putTexts, putOutput]

/-! ## Inputs -/

/-- `Self` is not replaced, and nothing becomes `Self`. -/
theorem isSelf_putTextsAt (hself : s.lookup "Self" = none) (v : Json) :
    isSelf (putTextsAt s .type v) = isSelf v := by
  cases v with
  | obj ms =>
    rcases putTextsAt_type_cases s ms with ⟨name, text, rest, rfl, hname, hput⟩ | ⟨-, hput⟩
    · have hne : name ≠ "Self" := by
        rintro rfl
        rw [hself] at hname
        cases hname
      rw [hput]
      cases rest <;> simp [isSelf, hne]
    · rw [hput, putMembers_eq_map]
      exact Place.Keeps.isSelf (putTextsAt_other s) ms
  | arr vs => rw [putTextsAt_arr fun _ => rfl]
  | _ => rfl

theorem isNoOutput_putTextsAt (v : Json) : isNoOutput (putTextsAt s .type v) = isNoOutput v := by
  cases v with
  | obj ms =>
    rcases putTextsAt_type_cases s ms with ⟨name, text, rest, rfl, -, hput⟩ | ⟨-, hput⟩
    · rw [hput]
      cases rest <;> simp [isNoOutput]
    · rw [hput, putMembers_eq_map]
      exact (keeps_putTextsAt s (by simp) (by simp)).isNoOutput ms
  | arr vs => rw [putTextsAt_arr fun _ => rfl]
  | _ => rfl

theorem readPair_putTextsAt (v : Json) : readPair (putTextsAt s .input v) =
    (fun m => (m.1, putTextsAt s .type m.2)) <$> readPair v :=
  (keeps_putTextsAt s (by simp) (by simp)).readPair (putTextsAt_other s) (fun _ => rfl) v

theorem readReceiver_putTextsAt (hself : s.lookup "Self" = none) (type : Json) (read : Ty) :
    readReceiver (putTextsAt s .type type) (read.putTexts s) =
      Input.putTexts s <$> readReceiver type read := by
  unfold readReceiver
  rw [isSelf_putTextsAt hself, map_ite]
  refine ite_congr rfl (fun _ => rfl) fun _ => ?_
  cases type with
  | obj ms =>
    obtain ⟨ms', hms⟩ : ∃ ms', putTextsAt s .type (.obj ms) = .obj ms' := ⟨_, putTextsAt_type s ms⟩
    have hmentions : (putTextsAt s .type (.obj ms)).mentions "borrowed_ref" =
        (Json.obj ms).mentions "borrowed_ref" :=
      mentions_putTextsAt_type (by simp) (by simp) ms
    have hmember : (putTextsAt s .type (.obj ms)).member "borrowed_ref" =
        putTextsAt s .typed <$> (Json.obj ms).member "borrowed_ref" :=
      member_putTextsAt_type (by simp) (by simp) ms
    rw [hms] at hmentions hmember ⊢
    simp [hmentions, hmember, isSelf_putTextsAt hself, Place.under, Place.members, List.lookup,
      map_ite, Input.putTexts]
  | arr vs => rw [putTextsAt_arr fun _ => rfl]; rfl
  | _ => rfl

theorem readInputsWithin_put (h : ReadsPut s n) (hself : s.lookup "Self" = none) (named : Bool)
    (v : Json) : readInputsWithin (n + 1) named (putTextsAt s .signature v) =
      (fun m => (putInputs s m.1, m.2)) <$> readInputsWithin (n + 1) named v := by
  have hvariadic (v : Json) :
      (putTextsAt s .signature v).memberOr "is_c_variadic" "c_variadic" =
        v.memberOr "is_c_variadic" "c_variadic" := by
    rw [memberOr_putTextsAt (by simp) (by simp) "is_c_variadic" "c_variadic" rfl]
    simp [Place.under, Place.members, List.lookup, funext (putTextsAt_other s)]
  have hinputs : Place.signature.under "inputs" = .listOf .input := rfl
  rw [readInputsWithin, readInputsWithin, memberOrNull_putTextsAt (by simp) (by simp), hinputs,
    bind_map_left, map_bind]
  refine bind_congr fun list => ?_
  rw [partsIfAny_putTextsAt, bind_map_left, map_bind]
  refine bind_congr fun parts => ?_
  rw [mapM_putTextsAt (putInputs_eq_map s) fun input => ?_, bind_map_left, map_bind]
  · refine bind_congr fun inputs => ?_
    rw [hvariadic, map_bind]
    refine bind_congr fun variadic => ?_
    rw [joinable_inputs, map_bind]
    rfl
  · rw [readPair_putTextsAt, bind_map_left, map_bind]
    refine bind_congr fun pair => ?_
    dsimp only
    rw [h.type, bind_map_left, map_bind]
    refine bind_congr fun read => ?_
    rw [map_ite, map_ite]
    exact ite_congr rfl (fun _ => readReceiver_putTextsAt hself pair.2 read) fun _ =>
      ite_congr rfl (fun _ => rfl) fun _ => rfl

/-! ## Types -/

@[simp] theorem regroup_putTextsAt (v : Json) (target : Ty) :
    regroup (putTextsAt s .type v) (target.putTexts s) =
      Ty.putTexts s <$> regroup v target := by
  have hbounds : namedBounds (putTextsAt s .type v) = namedBounds v :=
    Place.Keeps.namedBounds_eq (keeps_putTextsAt s (by simp) (by simp))
      (keeps_putTextsAt s (by simp) (by simp))
      (keeps_putTextsAt s (by simp) (by simp)) (putTextsAt_other s)
      (get?_putTextsAt_type (by simp) (by simp) v) (get?_putTextsAt_type (by simp) (by simp) v)
  rw [regroup, regroup, hbounds, map_bind]
  refine bind_congr fun count => ?_
  rw [Ty.isGrouped_putTexts, map_pure]
  split <;> rfl

/-- The texts are put in a reference when they are put in the target that it is read from. -/
theorem regroup_reference_put (s : Subst) (life : Option String) (isMut type : Json) (target : Ty) :
    (do
      let target ← regroup (putTextsAt s .type type) (target.putTexts s)
      match target.raw? with
      | some v => throw (Fault.typeMismatch
          ("can only concatenate str (not \"" ++ v.kindName ++ "\") to str"))
      | none => pure (Ty.reference life isMut.truthy target)) =
    (do
      let target ← regroup type target
      Ty.putTexts s <$> match target.raw? with
      | some v => throw (Fault.typeMismatch
          ("can only concatenate str (not \"" ++ v.kindName ++ "\") to str"))
      | none => pure (Ty.reference life isMut.truthy target)) := by
  rw [regroup_putTextsAt, bind_map_left]
  refine bind_congr fun target => ?_
  rw [Ty.raw?_putTexts]
  cases target.raw? <;> rfl

section

variable (h : ReadsPut s n) (w : Json) (ms ms' : List (String × Json))
include h

theorem readReference_put :
    readTyWithin (n + 1) (.obj (("borrowed_ref", putTextsAt s .typed w) :: ms')) =
      Ty.putTexts s <$> readTyWithin (n + 1) (.obj (("borrowed_ref", w) :: ms)) := by
  simp only [readTyWithin, Json.firstMember, ok_bind]
  simp only [ne_eq, reduceCtorEq, not_false_eq_true, memberOrNull_putTextsAt, Place.under,
    Place.members, List.lookup, String.reduceBEq, Option.getD_none, member_putTextsAt,
    List.lookup_cons_self, Option.getD_some, bind_map_left, h.type,
    putTextsAt_other, pure_bind, map_bind, map_ite]
  refine bind_congr fun life => ite_congr rfl (fun _ => ?_) fun _ => ?_
  · exact bind_congr fun l => bind_congr fun isMut => bind_congr fun type =>
      bind_congr fun target => regroup_reference_put s (some l) isMut type target
  · exact bind_congr fun isMut => bind_congr fun type => bind_congr fun target =>
      regroup_reference_put s none isMut type target

theorem readDyn_put :
    readTyWithin (n + 1) (.obj (("dyn_trait", putTextsAt s .dyn w) :: ms')) =
      Ty.putTexts s <$> readTyWithin (n + 1) (.obj (("dyn_trait", w) :: ms)) := by
  have htraits : Place.dyn.under "traits" = .listOf .polyTrait := rfl
  simp only [readTyWithin, Json.firstMember, ok_bind]
  rw [memberOrNull_putTextsAt (by simp) (by simp), htraits, bind_map_left, map_bind]
  refine bind_congr fun list => ?_
  rw [partsIfAny_putTextsAt, bind_map_left, map_bind]
  refine bind_congr fun parts => ?_
  rw [mapM_putTextsAt (putBounds_eq_map s) fun poly => ?_, bind_map_left, map_bind]
  · refine bind_congr fun traits => ?_
    simp [Place.under, Place.members, List.lookup, map_ite, Ty.putTexts]
  · simp only [ne_eq, reduceCtorEq, not_false_eq_true, memberOrNull_putTextsAt, Place.under,
      Place.members, List.lookup_cons_self, Option.getD_some, member_putTextsAt, List.lookup,
      String.reduceBEq, BEq.rfl, bind_map_left, h.path, putTextsAt_params, map_bind]
    refine bind_congr fun params => bind_congr fun binder => bind_congr fun trait =>
      bind_congr fun path => ?_
    cases path
    rfl

theorem readQualified_put :
    readTyWithin (n + 1) (.obj (("qualified_path", putTextsAt s .qualified w) :: ms')) =
      Ty.putTexts s <$> readTyWithin (n + 1) (.obj (("qualified_path", w) :: ms)) := by
  have htype : (putTextsAt s .qualified w).member "self_type" =
      putTextsAt s .type <$> w.member "self_type" :=
    member_putTextsAt (by simp) (by simp) _ w
  have hname : (putTextsAt s .qualified w).member "name" = w.member "name" := by
    rw [member_putTextsAt (by simp) (by simp)]
    simp [Place.under, Place.members, List.lookup, funext (putTextsAt_other s)]
  have hargs : (putTextsAt s .qualified w).memberOrNull "args" =
      putTextsAt s .args <$> w.memberOrNull "args" :=
    memberOrNull_putTextsAt (by simp) (by simp) _ w
  have htrait : (putTextsAt s .qualified w).memberOrNull "trait" =
      putTextsAt s .path <$> w.memberOrNull "trait" :=
    memberOrNull_putTextsAt (by simp) (by simp) _ w
  simp only [readTyWithin, Json.firstMember, ok_bind, htype, hname, hargs, htrait, bind_map_left,
    map_bind, h.type, h.args]
  refine bind_congr fun _ => bind_congr fun self => bind_congr fun _ => bind_congr fun _ =>
    bind_congr fun args => bind_congr fun name => bind_congr fun trait => ?_
  refine match_putTextsAt (g := Ty.putTexts s) (b := pure (.qualified self name args none))
    (f := fun trait => do
      return Ty.qualified (self.putTexts s) name (args.putTexts s)
        (some (← readPathWithin n trait)))
    (k := fun trait => do
      return Ty.qualified self name args (some (← readPathWithin n trait)))
    rfl (fun v => ?_) trait
  simp [h.path, Ty.putTexts]

end

theorem readTyWithin_put (h : ReadsPut s n) (v : Json) :
    readTyWithin (n + 1) (putTextsAt s .type v) = Ty.putTexts s <$> readTyWithin (n + 1) v := by
  have hkinds (m : String × Place) (hm : m ∈ Place.typeKinds) : Place.type.under m.1 = m.2 :=
    Place.under_typeKinds (.inl rfl) hm
  simp only [Place.typeKinds, List.forall_mem_cons] at hkinds
  have hsig (v : Json) : (putTextsAt s .fnPointer v).memberOr "sig" "decl" =
      putTextsAt s .signature <$> v.memberOr "sig" "decl" :=
    memberOr_putTextsAt (by simp) (by simp) "sig" "decl" rfl v
  cases v with
  | obj ms =>
    rcases putTextsAt_type_cases s ms with ⟨name, text, rest, rfl, hname, hput⟩ | ⟨hnone, hput⟩
    · rw [hput]
      simp [readTyWithin, Json.firstMember, ok_bind, textOrRaw, Ty.putTexts, Subst.ty, hname]
    · rw [hput]
      obtain _ | ⟨⟨kind, w⟩, ms⟩ := ms
      · rfl
      rw [putMembers]
      simp only [readTyWithin, Json.firstMember, ok_bind]
      -- The cases are the kinds in the order of `Place.typeKinds`, and the unknown ones.
      split
      case h_1 =>
        simp only [hkinds, h.path, bind_map_left, map_bind]
        refine bind_congr fun path => ?_
        cases path
        rfl
      case h_2 =>
        simp only [hkinds, putTextsAt_other]
        cases w with
        | str name => simp [textOrRaw, Ty.putTexts, Subst.ty, hnone name ms rfl]
        | _ => rfl
      case h_3 =>
        simp only [hkinds, putTextsAt_other]
        cases w <;> rfl
      case h_4 =>
        simp only [hkinds]
        simp [mapM_putTextsAt (putTys_eq_map s) h.type, joinable_tys, length_putTys, map_ite,
          Ty.putTexts]
      case h_5 =>
        simp only [hkinds, h.type]
        simp [Ty.putTexts]
      case h_6 =>
        simp only [hkinds]
        simp [h.type, Place.under, Place.members, List.lookup, Ty.putTexts]
      case h_7 =>
        simp only [hkinds]
        simp [h.type, Place.under, Place.members, Ty.putTexts]
      case h_8 =>
        simp only [hkinds]
        simp [h.type, Place.under, Place.members, List.lookup, Ty.putTexts]
      case h_9 => simpa only [hkinds, readTyWithin, Json.firstMember, ok_bind] using
        readReference_put h w ms (putMembers s .type ms)
      case h_10 =>
        simp only [hkinds]
        simp [h.type, h.inputs, hsig, isNoOutput_putTextsAt, Place.under, Place.members,
          List.lookup, map_ite, Ty.putTexts, putOutput]
      case h_11 => simpa only [hkinds, readTyWithin, Json.firstMember, ok_bind] using
        readDyn_put h w ms (putMembers s .type ms)
      case h_12 =>
        simp only [hkinds, h.bounds]
        simp [Ty.putTexts]
      case h_13 => simpa only [hkinds, readTyWithin, Json.firstMember, ok_bind] using
        readQualified_put h w ms (putMembers s .type ms)
      case h_14 => rfl
  | arr vs => rw [putTextsAt_arr fun _ => rfl]; rfl
  | str text =>
    change readTyWithin (n + 1) (.str text) = _
    simp only [readTyWithin]
    split <;> rfl
  | _ => rfl

/-- Types are read within every bound as before, with the texts in the place of generic
parameters. -/
theorem readsPut (hself : s.lookup "Self" = none) (n : Nat) : ReadsPut s n := by
  induction n with
  | zero =>
    constructor <;> intros <;> simp only [readTyWithin_zero, readPathWithin, readArgsWithin,
      readArgWithin, readTermWithin, readConstraintWithin, readBoundsWithin, readBoundWithin,
      readInputsWithin] <;> rfl
  | succ n h =>
    exact {
      type := readTyWithin_put h
      path := readPathWithin_put h
      args := readArgsWithin_put h
      arg := readArgWithin_put h
      term := readTermWithin_put h
      constraint := readConstraintWithin_put h
      bounds := readBoundsWithin_put h
      bound := readBoundWithin_put h
      inputs := readInputsWithin_put h hself }

/-! ## Whole values -/

section

variable (hself : s.lookup "Self" = none) (v : Json)
include hself

theorem readTy_putTextsAt : readTy (putTextsAt s .type v) = Ty.putTexts s <$> readTy v := by
  rw [readTy, readTy, depth_putTextsAt, (readsPut hself _).type]

theorem readTerm_putTextsAt : readTerm (putTextsAt s .arg v) = Arg.putTexts s <$> readTerm v := by
  rw [readTerm, readTerm, depth_putTextsAt, (readsPut hself _).term]

theorem readBounds_putTextsAt :
    readBounds (putTextsAt s (.listOf .bound) v) = putBounds s <$> readBounds v := by
  rw [readBounds, readBounds, depth_putTextsAt, (readsPut hself _).bounds]

theorem readPredicate_putTextsAt : readPredicate (putTextsAt s .predicate v) =
    Option.map (WherePredicate.putTexts s) <$> readPredicate v := by
  simp [readPredicate, listed, readTy_putTextsAt hself, readBounds_putTextsAt hself,
    readTerm_putTextsAt hself, map_ite, Place.under, Place.members, List.lookup,
    WherePredicate.putTexts, putBounds]

theorem readPredicates_putTextsAt : readPredicates (putTextsAt s .generics v) =
    List.map (WherePredicate.putTexts s) <$> readPredicates v := by
  have hpredicates : Place.generics.under "where_predicates" = .listOf .predicate := rfl
  have hread := mapM_putTextsAt (p := .predicate) (fun _ => rfl) (readPredicate_putTextsAt hself)
  rw [readPredicates, readPredicates, orObject_putTextsAt (by simp) (by simp)]
  simp [listed, hpredicates, hread, List.filterMap_map, List.map_filterMap]

/-- A type, bounds and predicates are written with a substitution as they are without one, once
every generic parameter for which there is a text is the primitive type of this name. -/
theorem texts_putTextsAt :
    Ty.text [] <$> readTy (putTextsAt s .type v) = Ty.text s <$> readTy v ∧
    boundsText [] <$> readBounds (putTextsAt s (.listOf .bound) v) = boundsText s <$> readBounds v ∧
    whereText [] <$> readPredicates (putTextsAt s .generics v) =
      whereText s <$> readPredicates v := by
  rw [readTy_putTextsAt hself, readBounds_putTextsAt hself, readPredicates_putTextsAt hself]
  simp only [Functor.map_map, Ty.text_putTexts, boundsText_putBounds, whereText_putTexts, and_self]

end

theorem texts_putTextsAt_dyn :
    let s : Subst := [("T", "u8")]
    let args : Json := .obj [("args", .arr [.obj [("type", .obj [("generic", .str "T")])]])]
    let path : Json := .obj [("path", .str "From"), ("args", .obj [("angle_bracketed", args)])]
    let object : Json := .obj [("traits", .arr [.obj [("trait", path)]]), ("lifetime", .str "'a")]
    let v : Json := .obj [("borrowed_ref", .obj [("type", .obj [("dyn_trait", object)])])]
    s.lookup "Self" = none ∧
      Ty.text [] <$> readTy (putTextsAt s .type v) = .ok "&(dyn From<u8> + 'a)" :=
  ⟨rfl, (texts_putTextsAt rfl _).1.trans rfl⟩

end CrateBook.Rustdoc
