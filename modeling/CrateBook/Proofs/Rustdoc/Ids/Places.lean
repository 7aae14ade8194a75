import CrateBook.Proofs.Rustdoc.Places

/-!
# Where ids stand in a dump

A dump refers to items by ids, which older dumps write as texts and newer ones as numbers. `respell`
writes every id below a place as a text. Away from the ids themselves a value and its respelling
cannot be told apart: they have the same members and items, respelled in turn (`keeps_respell` and
the lemmas after it), and are equally deep, so they are read with the same bound.
-/

namespace CrateBook.Rustdoc

open Json (lookup_map_snd)

mutual

/-- The value at a place with every id as a text. -/
def respell (p : Place) : Json → Json
  | .int n => if p = .id then .str (toString n) else .int n
  | .arr items => .arr (respellItems p 0 items)
  | .obj members => .obj (respellMembers p members)
  | v => v

/-- The items from an index on, with every id as a text. -/
def respellItems (p : Place) (i : Nat) : List Json → List Json
  | [] => []
  | v :: vs => respell (p.itemAt i) v :: respellItems p (i + 1) vs

/-- The members of an object with every id as a text. -/
def respellMembers (p : Place) : List (String × Json) → List (String × Json)
  | [] => []
  | (key, v) :: ms => (key, respell (p.under key) v) :: respellMembers p ms

end

variable {p : Place} {v : Json} {ms : List (String × Json)} {key : String}

theorem respell_arr (p : Place) (vs : List Json) :
    respell p (.arr vs) = .arr (respellItems p 0 vs) := by rw [respell]

theorem respell_obj (p : Place) (ms : List (String × Json)) :
    respell p (.obj ms) = .obj (respellMembers p ms) := by rw [respell]

theorem respell_int (hp : p ≠ .id) (n : Int) : respell p (.int n) = .int n := by
  rw [respell, if_neg hp]

theorem respellMembers_eq_map (p : Place) (ms : List (String × Json)) :
    respellMembers p ms = ms.map fun m => (m.1, respell (p.under m.1) m.2) := by
  induction ms with
  | nil => rfl
  | cons m ms ih => rw [respellMembers, ih, List.map_cons]

theorem respellItems_eq_self {i : Nat} {vs : List Json} (hp : ∀ i, p.itemAt i = .other)
    (h : ∀ v ∈ vs, respell .other v = v) : respellItems p i vs = vs := by
  induction vs generalizing i with
  | nil => rfl
  | cons v vs ih =>
    obtain ⟨hv, hvs⟩ := List.forall_mem_cons.1 h
    rw [respellItems, hp, hv, ih hvs]

theorem respellItems_eq_mapIdx (p : Place) (i : Nat) (vs : List Json) :
    respellItems p i vs = vs.mapIdx fun j v => respell (p.itemAt (i + j)) v := by
  induction vs generalizing i with
  | nil => rfl
  | cons v vs ih => simp [respellItems, List.mapIdx_cons, ih, Nat.add_assoc, Nat.add_comm 1]

/-- Away from the ids themselves a value is respelled part by part. -/
theorem keeps_respell (hp : p ≠ .id) : p.Keeps respell where
  arr vs := by simp [respell_arr, respellItems_eq_mapIdx]
  obj ms := by rw [respell_obj, respellMembers_eq_map]
  leaf v hv := by
    cases v with
    | int n => exact respell_int hp n
    | arr vs => cases hv
    | obj ms => cases hv
    | _ => rfl

/-- A value without ids has one spelling. -/
@[simp] theorem respell_other (v : Json) : respell .other v = v :=
  (keeps_respell (by simp)).other v

/-- At a place where only objects hold ids, every other value has one spelling. -/
theorem respell_eq_self (hp : p ≠ .id) (hitem : ∀ i, p.itemAt i = .other)
    (h : ∀ ms, v ≠ .obj ms) : respell p v = v := by
  cases v with
  | int n => exact respell_int hp n
  | arr vs => rw [respell_arr, respellItems_eq_self hitem fun v _ => respell_other v]
  | obj ms => exact absurd rfl (h ms)
  | _ => rfl

/-! ## Reading respelled values -/

@[simp] theorem truthy_respell (hp : p ≠ .id) (v : Json) : (respell p v).truthy = v.truthy :=
  (keeps_respell hp).truthy v

@[simp] theorem isText_respell (hp : p ≠ .id) (s : String) (v : Json) :
    (respell p v).isText s = v.isText s :=
  (keeps_respell hp).isText s v

@[simp] theorem orObject_respell (hp : p ≠ .id) (v : Json) :
    (respell p v).orObject = respell p v.orObject :=
  (keeps_respell hp).orObject v

@[simp] theorem get?_respell (p : Place) (key : String) (v : Json) :
    (respell p v).get? key = (v.get? key).map (respell (p.under key)) := by
  cases v with
  | int n => by_cases hp : p = .id <;> simp [respell, hp, Json.get?]
  | arr vs => rw [respell_arr]; rfl
  | obj ms =>
    rw [respell_obj, respellMembers_eq_map]
    exact lookup_map_snd (fun key => respell (p.under key)) ms key
  | _ => rfl

@[simp] theorem member?_respell (hp : p ≠ .id) (key : String) (v : Json) :
    (respell p v).member? key = Option.map (respell (p.under key)) <$> v.member? key :=
  (keeps_respell hp).member? key v

@[simp] theorem memberOrNull_respell (hp : p ≠ .id) (key : String) (v : Json) :
    (respell p v).memberOrNull key = respell (p.under key) <$> v.memberOrNull key :=
  (keeps_respell hp).memberOrNull rfl v

theorem memberOr_respell (hp : p ≠ .id) (key older : String) (h : p.under older = p.under key)
    (v : Json) :
    (respell p v).memberOr key older = respell (p.under key) <$> v.memberOr key older :=
  (keeps_respell hp).memberOr rfl h v

@[simp] theorem member_respell (hp : p ≠ .id) (key : String) (v : Json) :
    (respell p v).member key = respell (p.under key) <$> v.member key :=
  (keeps_respell hp).member key v

@[simp] theorem mentions_respell (hp : p ≠ .id) (hitem : p ≠ .listOf .id) (key : String)
    (v : Json) : (respell p v).mentions key = v.mentions key :=
  (keeps_respell hp).mentions (fun i v => isText_respell (Place.itemAt_ne_id hitem i) key v) v

theorem firstMember_respell (hp : p ≠ .id) (v : Json) : (respell p v).firstMember =
    (fun m => (m.1, respell (p.under m.1) m.2)) <$> v.firstMember :=
  (keeps_respell hp).firstMember v

@[simp] theorem parts_respell (p : Place) (v : Json) :
    (respell (.listOf p) v).parts = List.map (respell p) <$> v.parts :=
  (keeps_respell (by simp)).parts (fun _ => rfl) v

@[simp] theorem partsIfAny_respell (p : Place) (v : Json) :
    (respell (.listOf p) v).partsIfAny = List.map (respell p) <$> v.partsIfAny :=
  (keeps_respell (by simp)).partsIfAny (fun _ => rfl) v

theorem members_respell (hp : p ≠ .id) (v : Json) : (respell p v).members =
    (List.map fun m => (m.1, respell (p.under m.1) m.2)) <$> v.members :=
  (keeps_respell hp).members v

mutual

@[simp] theorem depth_respell (p : Place) : ∀ v : Json, (respell p v).depth = v.depth
  | .int n => by by_cases hp : p = .id <;> simp [respell, hp, Json.depth]
  | .arr vs => by rw [respell_arr, Json.depth, Json.depth, depthOfItems_respellItems]
  | .obj ms => by rw [respell_obj, Json.depth, Json.depth, depthOfMembers_respellMembers]
  | .null => rfl
  | .bool _ => rfl
  | .decimal _ => rfl
  | .str _ => rfl

theorem depthOfItems_respellItems (p : Place) (i : Nat) : ∀ vs : List Json,
    Json.depthOfItems (respellItems p i vs) = Json.depthOfItems vs
  | [] => rfl
  | v :: vs => by
    rw [respellItems, Json.depthOfItems, Json.depthOfItems, depth_respell,
      depthOfItems_respellItems]

theorem depthOfMembers_respellMembers (p : Place) : ∀ ms : List (String × Json),
    Json.depthOfMembers (respellMembers p ms) = Json.depthOfMembers ms
  | [] => rfl
  | (_, v) :: ms => by
    rw [respellMembers, Json.depthOfMembers, Json.depthOfMembers, depth_respell,
      depthOfMembers_respellMembers]

end

end CrateBook.Rustdoc
