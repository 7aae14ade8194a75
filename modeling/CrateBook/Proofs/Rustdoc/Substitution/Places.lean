import CrateBook.Proofs.Rustdoc.Places
import CrateBook.Rustdoc.Ty.Text

/-!
# Texts in the place of generic parameters of a dump

`putTextsAt` replaces in a value of a dump every type that is a generic parameter for which there is
a text by the primitive type of this name, at every depth. Declared parameters, among them those
that a `for` binds, are left as they are. Only at the types themselves can a value and the edited
value be told apart (`keeps_putTextsAt`).
-/

namespace CrateBook.Rustdoc

/-- The members of an object that is a type, with the text in the place of a generic parameter. -/
def Subst.typeMembers (s : Subst) : List (String × Json) → List (String × Json)
  | ("generic", .str name) :: ms =>
    match s.lookup name with
    | some text => ("primitive", .str text) :: ms
    | none => ("generic", .str name) :: ms
  | ms => ms

mutual

/-- The value at a place with the texts in the place of generic parameters. -/
def putTextsAt (s : Subst) (p : Place) : Json → Json
  | .arr items => .arr (putItems s p 0 items)
  | .obj members =>
    if p = .type then .obj (s.typeMembers (putMembers s p members))
    else if p = .param then .obj members
    else .obj (putMembers s p members)
  | v => v

/-- The items from an index on with the texts in the place of generic parameters. -/
def putItems (s : Subst) (p : Place) (i : Nat) : List Json → List Json
  | [] => []
  | v :: vs => putTextsAt s (p.itemAt i) v :: putItems s p (i + 1) vs

/-- The members of an object with the texts in the place of generic parameters. -/
def putMembers (s : Subst) (p : Place) : List (String × Json) → List (String × Json)
  | [] => []
  | (key, v) :: ms => (key, putTextsAt s (p.under key) v) :: putMembers s p ms

end

variable {s : Subst} {p : Place}

theorem putItems_eq_mapIdx (s : Subst) (p : Place) (i : Nat) (vs : List Json) :
    putItems s p i vs = vs.mapIdx fun j v => putTextsAt s (p.itemAt (i + j)) v := by
  induction vs generalizing i with
  | nil => rfl
  | cons v vs ih => simp [putItems, List.mapIdx_cons, ih, Nat.add_assoc, Nat.add_comm 1]

theorem putMembers_eq_map (s : Subst) (p : Place) (ms : List (String × Json)) :
    putMembers s p ms = ms.map fun m => (m.1, putTextsAt s (p.under m.1) m.2) := by
  induction ms with
  | nil => rfl
  | cons m ms ih => rw [putMembers, ih, List.map_cons]

/-- Away from types and declared parameters a value is edited part by part. -/
theorem keeps_putTextsAt (s : Subst) (htype : p ≠ .type) (hparam : p ≠ .param) :
    p.Keeps (putTextsAt s) where
  arr vs := by rw [putTextsAt, putItems_eq_mapIdx]; simp
  obj ms := by rw [putTextsAt, if_neg htype, if_neg hparam, putMembers_eq_map]
  leaf v hv := by
    cases v with
    | arr vs => cases hv
    | obj ms => cases hv
    | _ => rfl

/-- A value from which no type can be reached is left alone. -/
@[simp] theorem putTextsAt_other (s : Subst) (v : Json) : putTextsAt s .other v = v :=
  (keeps_putTextsAt s (by simp) (by simp)).other v

/-- Items of a value that is no list hold no types. -/
theorem putTextsAt_arr (hitem : ∀ i, p.itemAt i = .other) (vs : List Json) :
    putTextsAt s p (.arr vs) = .arr vs := by
  rw [putTextsAt, putItems_eq_mapIdx]
  refine congrArg Json.arr (Place.Keeps.mapIdx_eq_self fun i v _ => ?_)
  rw [hitem, putTextsAt_other]

/-- A declared parameter is left alone. -/
@[simp] theorem putTextsAt_param (s : Subst) (v : Json) : putTextsAt s .param v = v := by
  cases v with
  | arr vs => exact putTextsAt_arr (fun _ => rfl) vs
  | obj ms => simp [putTextsAt]
  | _ => rfl

/-! ## Types -/

theorem putTextsAt_type (s : Subst) (ms : List (String × Json)) :
    putTextsAt s .type (.obj ms) = .obj (s.typeMembers (putMembers s .type ms)) := by
  simp [putTextsAt]

/-- The members of a type are replaced, which is a generic parameter then, or they stay. -/
theorem typeMembers_cases (s : Subst) (ms : List (String × Json)) :
    (∃ name text rest, ms = ("generic", .str name) :: rest ∧ s.lookup name = some text ∧
      s.typeMembers ms = ("primitive", .str text) :: rest) ∨
    ((∀ name rest, ms = ("generic", .str name) :: rest → s.lookup name = none) ∧
      s.typeMembers ms = ms) := by
  rw [Subst.typeMembers.eq_def]
  split
  · rename_i name rest
    cases hname : s.lookup name with
    | some text => exact .inl ⟨name, text, rest, rfl, hname, rfl⟩
    | none =>
      refine .inr ⟨?_, rfl⟩
      rintro _ _ ⟨⟩
      exact hname
  · rename_i hne
    exact .inr ⟨fun name rest h => absurd h (hne name rest), rfl⟩

/-- An object at the place of a type becomes a primitive type, or its members are edited one by
one. -/
theorem putTextsAt_type_cases (s : Subst) (ms : List (String × Json)) :
    (∃ name text rest, ms = ("generic", .str name) :: rest ∧ s.lookup name = some text ∧
      putTextsAt s .type (.obj ms) = .obj (("primitive", .str text) :: putMembers s .type rest)) ∨
    ((∀ name rest, ms = ("generic", .str name) :: rest → s.lookup name = none) ∧
      putTextsAt s .type (.obj ms) = .obj (putMembers s .type ms)) := by
  rw [putTextsAt_type]
  rcases typeMembers_cases s (putMembers s .type ms) with ⟨name, text, rest, hms, hname, hput⟩ |
    ⟨hnone, hput⟩
  · obtain _ | ⟨⟨key, w⟩, ms⟩ := ms
    · cases hms
    · obtain ⟨⟨rfl, hw⟩, rfl⟩ :
          (key = "generic" ∧ putTextsAt s (Place.type.under key) w = .str name) ∧
            putMembers s .type ms = rest := by simpa [putMembers] using hms
      have hunder : Place.type.under "generic" = .other := rfl
      rw [hunder, putTextsAt_other] at hw
      exact .inl ⟨name, text, ms, by rw [hw], hname, by rw [hput]⟩
  · refine .inr ⟨?_, by rw [hput]⟩
    rintro name rest rfl
    exact hnone name (putMembers s .type rest) rfl

/-- A member that is not the kind of a parameter or of a primitive type is found as before. -/
theorem get?_putTextsAt_type {key : String} (hgeneric : key ≠ "generic")
    (hprimitive : key ≠ "primitive") (v : Json) :
    (putTextsAt s .type v).get? key =
      (v.get? key).map (putTextsAt s (Place.type.under key)) := by
  have hlookup (ms : List (String × Json)) : (putMembers s .type ms).lookup key =
      (ms.lookup key).map (putTextsAt s (Place.type.under key)) := by
    rw [putMembers_eq_map]
    exact Json.lookup_map_snd (fun key => putTextsAt s (Place.type.under key)) ms key
  cases v with
  | obj ms =>
    rcases putTextsAt_type_cases s ms with ⟨name, text, rest, rfl, -, hput⟩ | ⟨-, hput⟩
    · have h1 : (key == "generic") = false := beq_false_of_ne hgeneric
      have h2 : (key == "primitive") = false := beq_false_of_ne hprimitive
      rw [hput, Json.get?, Json.get?, List.lookup_cons, List.lookup_cons, h1, h2]
      exact hlookup rest
    · rw [hput]
      exact hlookup ms
  | arr vs => rw [putTextsAt_arr fun _ => rfl]; rfl
  | _ => rfl

theorem member_putTextsAt_type {key : String} (hgeneric : key ≠ "generic")
    (hprimitive : key ≠ "primitive") (ms : List (String × Json)) :
    (putTextsAt s .type (.obj ms)).member key =
      putTextsAt s (Place.type.under key) <$> (Json.obj ms).member key := by
  have hget := get?_putTextsAt_type (s := s) hgeneric hprimitive (.obj ms)
  obtain ⟨ms', hms⟩ : ∃ ms', putTextsAt s .type (.obj ms) = .obj ms' := ⟨_, putTextsAt_type s ms⟩
  rw [hms] at hget ⊢
  rw [Json.member, Json.member, show ms'.lookup key = _ from hget,
    show (Json.obj ms).get? key = ms.lookup key from rfl]
  cases ms.lookup key <;> rfl

theorem mentions_putTextsAt_type {key : String} (hgeneric : key ≠ "generic")
    (hprimitive : key ≠ "primitive") (ms : List (String × Json)) :
    (putTextsAt s .type (.obj ms)).mentions key = (Json.obj ms).mentions key := by
  rcases putTextsAt_type_cases s ms with ⟨name, text, rest, rfl, -, hput⟩ | ⟨-, hput⟩
  · rw [hput, putMembers_eq_map, Json.mentions, Json.mentions, List.any_cons, List.any_cons,
      List.any_map, beq_false_of_ne hgeneric.symm, beq_false_of_ne hprimitive.symm]
    rfl
  · rw [hput, putMembers_eq_map, Json.mentions, Json.mentions, List.any_map]
    rfl

theorem depthOfMembers_typeMembers (s : Subst) (ms : List (String × Json)) :
    Json.depthOfMembers (s.typeMembers ms) = Json.depthOfMembers ms := by
  rcases typeMembers_cases s ms with ⟨name, text, rest, rfl, -, hput⟩ | ⟨-, hput⟩
  · rw [hput]
    rfl
  · rw [hput]

mutual

/-- An edited value is as deep as before, so it is read with the same bound. -/
@[simp] theorem depth_putTextsAt (s : Subst) (p : Place) : ∀ v : Json,
    (putTextsAt s p v).depth = v.depth
  | .arr vs => by rw [putTextsAt, Json.depth, Json.depth, depthOfItems_putItems]
  | .obj ms => by
    have hms := depthOfMembers_putMembers s p ms
    rw [putTextsAt]
    split
    · rw [Json.depth, Json.depth, depthOfMembers_typeMembers, hms]
    · split
      · rfl
      · rw [Json.depth, Json.depth, hms]
  | .null => rfl
  | .bool _ => rfl
  | .int _ => rfl
  | .decimal _ => rfl
  | .str _ => rfl

theorem depthOfItems_putItems (s : Subst) (p : Place) (i : Nat) : ∀ vs : List Json,
    Json.depthOfItems (putItems s p i vs) = Json.depthOfItems vs
  | [] => rfl
  | v :: vs => by
    rw [putItems, Json.depthOfItems, Json.depthOfItems, depth_putTextsAt, depthOfItems_putItems]

theorem depthOfMembers_putMembers (s : Subst) (p : Place) : ∀ ms : List (String × Json),
    Json.depthOfMembers (putMembers s p ms) = Json.depthOfMembers ms
  | [] => rfl
  | (_, v) :: ms => by
    rw [putMembers, Json.depthOfMembers, Json.depthOfMembers, depth_putTextsAt,
      depthOfMembers_putMembers]

end

/-! ## Reading edited values -/

section

variable (htype : p ≠ .type) (hparam : p ≠ .param)
include htype hparam

@[simp] theorem truthy_putTextsAt (v : Json) : (putTextsAt s p v).truthy = v.truthy :=
  (keeps_putTextsAt s htype hparam).truthy v

@[simp] theorem isText_putTextsAt (text : String) (v : Json) :
    (putTextsAt s p v).isText text = v.isText text :=
  (keeps_putTextsAt s htype hparam).isText text v

@[simp] theorem orObject_putTextsAt (v : Json) :
    (putTextsAt s p v).orObject = putTextsAt s p v.orObject :=
  (keeps_putTextsAt s htype hparam).orObject v

@[simp] theorem memberOrNull_putTextsAt (key : String) (v : Json) :
    (putTextsAt s p v).memberOrNull key = putTextsAt s (p.under key) <$> v.memberOrNull key :=
  (keeps_putTextsAt s htype hparam).memberOrNull rfl v

theorem memberOr_putTextsAt (key older : String) (h : p.under older = p.under key) (v : Json) :
    (putTextsAt s p v).memberOr key older =
      putTextsAt s (p.under key) <$> v.memberOr key older :=
  (keeps_putTextsAt s htype hparam).memberOr rfl h v

@[simp] theorem member_putTextsAt (key : String) (v : Json) :
    (putTextsAt s p v).member key = putTextsAt s (p.under key) <$> v.member key :=
  (keeps_putTextsAt s htype hparam).member key v

/-- What is no list mentions what it mentioned before. -/
@[simp] theorem mentions_putTextsAt (hlist : ∀ q, p ≠ .listOf q) (hinput : p ≠ .input)
    (key : String) (v : Json) : (putTextsAt s p v).mentions key = v.mentions key :=
  (keeps_putTextsAt s htype hparam).mentions
    (fun i v => by rw [Place.itemAt_eq_other hlist hinput, putTextsAt_other]) v

end

@[simp] theorem parts_putTextsAt (s : Subst) (p : Place) (v : Json) :
    (putTextsAt s (.listOf p) v).parts = List.map (putTextsAt s p) <$> v.parts :=
  (keeps_putTextsAt s (by simp) (by simp)).parts (fun _ => rfl) v

@[simp] theorem partsIfAny_putTextsAt (s : Subst) (p : Place) (v : Json) :
    (putTextsAt s (.listOf p) v).partsIfAny = List.map (putTextsAt s p) <$> v.partsIfAny :=
  (keeps_putTextsAt s (by simp) (by simp)).partsIfAny (fun _ => rfl) v

end CrateBook.Rustdoc
