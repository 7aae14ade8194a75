import CrateBook.Proofs.Json.Order
import CrateBook.Proofs.Rustdoc.Results
import CrateBook.Rustdoc.Ty.Read

/-!
# Places in a dump

`Place` says what a value of a dump is as far as ids and types can be reached from it, and under
which names the members of an object hold them. An edit of values by their places that goes through
to the parts of a value at a place, `Place.Keeps`, leaves the members and items of the value where
they were, each edited in turn, so that it can be read as before.
-/

namespace CrateBook

/-- The value has no parts. -/
def Json.isLeaf : Json → Bool
  | .arr _ | .obj _ => false
  | _ => true

namespace Rustdoc

open Json (lookup_map_snd)

/-- No type is read within no bound. -/
theorem readTyWithin_zero (v : Json) : readTyWithin 0 v = throw tooDeep := by
  rw [readTyWithin]

/-- What a value of a dump is, as far as ids and types can be reached from it. -/
inductive Place where
  /-- A value without ids. -/
  | other
  | id
  | listOf (p : Place)
  | tableOf (p : Place)
  | dump
  | item
  /-- What an item is made of. -/
  | payload
  /-- The shape of a struct or a variant. -/
  | shape
  | fieldSet
  | generics
  | param
  | paramKind
  /-- The bounds or the type of a parameter. -/
  | paramDetail
  | predicate
  | predicateDetail
  | bound
  /-- A trait with the parameters that a `for` binds. -/
  | polyTrait
  | path
  | args
  | angle
  | paren
  /-- A generic argument, or what an associated item equals. -/
  | arg
  | constant
  | constraint
  | binding
  | type
  /-- An object with a type among its members. -/
  | typed
  | fnPointer
  | signature
  | input
  | dyn
  | qualified
  deriving DecidableEq

namespace Place

/-- The kinds of types that are read, and what stands under them. -/
def typeKinds : List (String × Place) := [
  ("resolved_path", .path), ("generic", .other), ("primitive", .other), ("tuple", .listOf .type),
  ("slice", .type), ("array", .typed), ("pat", .typed), ("raw_pointer", .typed),
  ("borrowed_ref", .typed), ("function_pointer", .fnPointer), ("dyn_trait", .dyn),
  ("impl_trait", .listOf .bound), ("qualified_path", .qualified)]

/-- The members of an object at a place from which ids can be reached, under their newer and older
names. What a field is made of is its type. -/
def members : Place → List (String × Place)
  | .dump => [("root", .id), ("index", .tableOf .item)]
  | .item => [("id", .id), ("links", .tableOf .id), ("inner", .tableOf .payload)]
  | .payload => [
      ("id", .id), ("fields", .listOf .id), ("variants", .listOf .id), ("impls", .listOf .id),
      ("items", .listOf .id), ("implementations", .listOf .id), ("kind", .shape),
      ("generics", .generics), ("type", .type), ("value", .type), ("for", .type),
      ("blanket_impl", .type), ("default", .type), ("trait", .path), ("bounds", .listOf .bound),
      ("params", .listOf .bound), ("sig", .signature), ("decl", .signature)] ++ typeKinds
  | .shape => [("plain", .fieldSet), ("struct", .fieldSet), ("tuple", .listOf .id)]
  | .fieldSet => [("fields", .listOf .id)]
  | .generics => [("params", .listOf .param), ("where_predicates", .listOf .predicate)]
  | .param => [("kind", .paramKind)]
  | .paramKind => [("type", .paramDetail), ("const", .paramDetail)]
  | .paramDetail => [("type", .type), ("bounds", .listOf .bound), ("default", .type)]
  | .predicate => [("bound_predicate", .predicateDetail), ("eq_predicate", .predicateDetail)]
  | .predicateDetail => [("generic_params", .listOf .param), ("type", .type),
      ("bounds", .listOf .bound), ("lhs", .type), ("rhs", .arg)]
  | .bound => [("trait_bound", .polyTrait)]
  | .polyTrait => [("generic_params", .listOf .param), ("trait", .path)]
  | .path => [("id", .id), ("args", .args)]
  | .args => [("angle_bracketed", .angle), ("parenthesized", .paren)]
  | .angle => [("args", .listOf .arg), ("constraints", .listOf .constraint),
      ("bindings", .listOf .constraint)]
  | .paren => [("inputs", .listOf .type), ("output", .type)]
  | .arg => [("type", .type), ("const", .constant), ("constant", .constant)]
  | .constant => [("type", .type)]
  | .constraint => [("args", .args), ("binding", .binding)]
  | .binding => [("equality", .arg), ("constraint", .listOf .bound)]
  | .type => typeKinds
  | .typed => [("type", .type)]
  | .fnPointer => [("sig", .signature), ("decl", .signature), ("generic_params", .listOf .param)]
  | .signature => [("inputs", .listOf .input), ("output", .type)]
  | .dyn => [("traits", .listOf .polyTrait)]
  | .qualified => [("self_type", .type), ("args", .args), ("trait", .path)]
  | .other | .id | .listOf _ | .tableOf _ | .input => []

/-- The place of a member of an object. -/
def under : Place → String → Place
  | .tableOf p, _ => p
  | p, key => (p.members.lookup key).getD .other

/-- The place of an item of an array. The second part of an input is its type. -/
def itemAt : Place → Nat → Place
  | .listOf p, _ => p
  | .input, 1 => .type
  | _, _ => .other

/-- Only lists and inputs have items from which something can be reached. -/
theorem itemAt_eq_other {p : Place} (hlist : ∀ q, p ≠ .listOf q) (hinput : p ≠ .input) (i : Nat) :
    p.itemAt i = .other := by
  unfold itemAt
  split
  · exact absurd rfl (hlist _)
  · exact absurd rfl hinput
  · rfl

theorem itemAt_ne_id {p : Place} (h : p ≠ .listOf .id) (i : Nat) : p.itemAt i ≠ .id := by
  unfold itemAt
  split
  · rintro rfl
    exact h rfl
  · simp
  · simp

theorem under_typeKinds {p : Place} (hp : p = .type ∨ p = .payload) {m : String × Place}
    (hm : m ∈ typeKinds) : p.under m.1 = m.2 := by
  simp only [typeKinds, List.mem_cons, List.not_mem_nil, or_false] at hm
  rcases hp with rfl | rfl <;> rcases hm with rfl | rfl | rfl | rfl | rfl | rfl | rfl | rfl | rfl |
    rfl | rfl | rfl | rfl <;> rfl

end Place

/-! ## Edits -/

/-- At this place an edit goes through to the parts of a value: it takes each part at its own place,
and leaves keys and values without parts alone. -/
structure Place.Keeps (edit : Place → Json → Json) (p : Place) : Prop where
  arr : ∀ vs, edit p (.arr vs) = .arr (vs.mapIdx fun i v => edit (p.itemAt i) v)
  obj : ∀ ms, edit p (.obj ms) = .obj (ms.map fun m => (m.1, edit (p.under m.1) m.2))
  leaf : ∀ v, v.isLeaf = true → edit p v = v

namespace Place.Keeps

variable {edit : Place → Json → Json} {p q : Place}

theorem mapIdx_eq_map {α β : Type} (f : α → β) (l : List α) :
    l.mapIdx (fun _ => f) = l.map f := by
  induction l with
  | nil => rfl
  | cons a l ih => rw [List.mapIdx_cons, ih, List.map_cons]

theorem isEmpty_mapIdx {α β : Type} (f : Nat → α → β) (l : List α) :
    (l.mapIdx f).isEmpty = l.isEmpty := by
  cases l <;> simp

theorem any_mapIdx {α β : Type} {f : Nat → α → β} {ok : β → Bool} {ok' : α → Bool}
    (h : ∀ i a, ok (f i a) = ok' a) (l : List α) : (l.mapIdx f).any ok = l.any ok' := by
  induction l generalizing f with
  | nil => rfl
  | cons a l ih => rw [List.mapIdx_cons, List.any_cons, List.any_cons, h, ih fun i => h (i + 1)]

theorem truthy (h : Keeps edit p) (v : Json) : (edit p v).truthy = v.truthy := by
  cases v with
  | arr vs => rw [h.arr, Json.truthy, Json.truthy, isEmpty_mapIdx]
  | obj ms => rw [h.obj, Json.truthy, Json.truthy, List.isEmpty_map]
  | _ => rw [h.leaf _ rfl]

theorem isText (h : Keeps edit p) (s : String) (v : Json) :
    (edit p v).isText s = v.isText s := by
  cases v with
  | arr vs => rw [h.arr]; rfl
  | obj ms => rw [h.obj]; rfl
  | _ => rw [h.leaf _ rfl]

theorem orObject (h : Keeps edit p) (v : Json) : (edit p v).orObject = edit p v.orObject := by
  rw [Json.orObject, Json.orObject, h.truthy]
  split
  · rfl
  · rw [h.obj]; rfl

theorem get? (h : Keeps edit p) (key : String) (v : Json) :
    (edit p v).get? key = (v.get? key).map (edit (p.under key)) := by
  cases v with
  | arr vs => rw [h.arr]; rfl
  | obj ms => rw [h.obj]; exact lookup_map_snd (fun key => edit (p.under key)) ms key
  | _ => rw [h.leaf _ rfl]; rfl

theorem member? (h : Keeps edit p) (key : String) (v : Json) :
    (edit p v).member? key = Option.map (edit (p.under key)) <$> v.member? key := by
  cases v with
  | arr vs => rw [h.arr]; rfl
  | obj ms =>
    rw [h.obj, Json.member?, Json.member?, lookup_map_snd fun key => edit (p.under key)]
    rfl
  | _ => rw [h.leaf _ rfl]; rfl

/-- Null is null for every edit. -/
theorem memberOrNull (h : Keeps edit p) {key : String} (hnull : edit (p.under key) .null = .null)
    (v : Json) : (edit p v).memberOrNull key = edit (p.under key) <$> v.memberOrNull key := by
  rw [Json.memberOrNull, Json.memberOrNull, h.member?]
  cases v.member? key with
  | error f => rfl
  | ok found =>
    cases found with
    | none => exact congrArg Except.ok hnull.symm
    | some w => rfl

theorem memberOr (h : Keeps edit p) {key older : String} (hnull : edit (p.under key) .null = .null)
    (holder : p.under older = p.under key) (v : Json) :
    (edit p v).memberOr key older = edit (p.under key) <$> v.memberOr key older := by
  have hold : (edit p v).memberOrNull older = edit (p.under older) <$> v.memberOrNull older :=
    h.memberOrNull (holder ▸ hnull) v
  rw [Json.memberOr, Json.memberOr, hold, h.member?, holder]
  cases v.memberOrNull older with
  | error f => rfl
  | ok old =>
    cases v.member? key with
    | error f => rfl
    | ok found => cases found <;> rfl

theorem member (h : Keeps edit p) (key : String) (v : Json) :
    (edit p v).member key = edit (p.under key) <$> v.member key := by
  cases v with
  | arr vs => rw [h.arr]; rfl
  | obj ms =>
    rw [h.obj, Json.member, Json.member, lookup_map_snd fun key => edit (p.under key)]
    cases ms.lookup key <;> rfl
  | _ => rw [h.leaf _ rfl]; rfl

theorem mentions (h : Keeps edit p) {key : String}
    (hitem : ∀ i v, (edit (p.itemAt i) v).isText key = v.isText key) (v : Json) :
    (edit p v).mentions key = v.mentions key := by
  cases v with
  | arr vs => rw [h.arr, Json.mentions, Json.mentions, any_mapIdx hitem]
  | obj ms =>
    rw [h.obj, Json.mentions, Json.mentions, List.any_map]
    rfl
  | _ => rw [h.leaf _ rfl]

theorem firstMember (h : Keeps edit p) (v : Json) : (edit p v).firstMember =
    (fun m => (m.1, edit (p.under m.1) m.2)) <$> v.firstMember := by
  cases v with
  | arr vs => rw [h.arr]; rfl
  | obj ms =>
    rw [h.obj]
    cases ms <;> rfl
  | _ => rw [h.leaf _ rfl]; rfl

theorem members (h : Keeps edit p) (v : Json) : (edit p v).members =
    (List.map fun m => (m.1, edit (p.under m.1) m.2)) <$> v.members := by
  cases v with
  | arr vs => rw [h.arr]; rfl
  | obj ms => rw [h.obj]; rfl
  | _ => rw [h.leaf _ rfl]; rfl

/-- The parts of a list are edited one by one. -/
theorem parts (h : Keeps edit (.listOf p)) (htext : ∀ s, edit p (.str s) = .str s) (v : Json) :
    (edit (.listOf p) v).parts = List.map (edit p) <$> v.parts := by
  cases v with
  | arr vs =>
    rw [h.arr]
    exact congrArg Except.ok (mapIdx_eq_map (edit p) vs)
  | obj ms =>
    rw [h.obj, Json.parts, Json.parts]
    simp [htext, Function.comp_def]
  | str s =>
    rw [h.leaf _ rfl, Json.parts]
    simp [htext, Function.comp_def]
  | _ => rw [h.leaf _ rfl]; rfl

theorem partsIfAny (h : Keeps edit (.listOf p)) (htext : ∀ s, edit p (.str s) = .str s)
    (v : Json) : (edit (.listOf p) v).partsIfAny = List.map (edit p) <$> v.partsIfAny := by
  rw [Json.partsIfAny, Json.partsIfAny, h.truthy, h.parts htext]
  split <;> rfl

theorem size (h : Keeps edit p) (v : Json) : (edit p v).size = v.size := by
  cases v with
  | arr vs => rw [h.arr, Json.size, Json.size, List.length_mapIdx]
  | obj ms => rw [h.obj, Json.size, Json.size, List.length_map]
  | _ => rw [h.leaf _ rfl]

theorem mapIdx_eq_self {α : Type} {f : Nat → α → α} {l : List α} (h : ∀ i, ∀ a ∈ l, f i a = a) :
    l.mapIdx f = l := by
  induction l generalizing f with
  | nil => rfl
  | cons a l ih =>
    rw [List.mapIdx_cons, h 0 a List.mem_cons_self, ih fun i b hb =>
      h (i + 1) b (List.mem_cons_of_mem _ hb)]

/-- A value from which nothing can be reached is left alone. -/
theorem other (h : Keeps edit .other) (v : Json) : edit .other v = v := by
  induction v using Json.induction with
  | arr vs ih => exact (h.arr vs).trans (congrArg Json.arr (mapIdx_eq_self fun _ => ih))
  | obj ms ih =>
    have hms : ms.map (fun m => (m.1, edit (Place.other.under m.1) m.2)) = ms := by
      conv_rhs => rw [← List.map_id ms]
      exact List.map_congr_left fun m hm => congrArg (Prod.mk m.1) (ih m hm)
    rw [h.obj, hms]
  | _ => exact h.leaf _ rfl

/-! ## Inputs and outputs -/

/-- The second part of an input is edited as a type. -/
theorem readPair (h : Keeps edit .input) (hother : ∀ v, edit .other v = v)
    (htext : ∀ s, edit .type (.str s) = .str s) (v : Json) :
    readPair (edit .input v) = (fun m => (m.1, edit .type m.2)) <$> readPair v := by
  cases v with
  | arr vs =>
    rw [h.arr]
    obtain _ | ⟨name, _ | ⟨type, _ | ⟨v, vs⟩⟩⟩ := vs
    · rfl
    · rfl
    · simp [Rustdoc.readPair, Json.parts, ok_bind, Place.itemAt, hother]
    · rw [List.mapIdx_cons, List.mapIdx_cons, List.mapIdx_cons]
      rfl
  | obj ms =>
    rw [h.obj]
    obtain _ | ⟨m, _ | ⟨m', _ | ⟨m'', ms⟩⟩⟩ := ms
    · rfl
    · rfl
    · simp [Rustdoc.readPair, Json.parts, ok_bind, htext]
    · rfl
  | str text =>
    rw [h.leaf _ rfl]
    simp only [Rustdoc.readPair, Json.parts, ok_bind]
    obtain _ | ⟨c, _ | ⟨c', _ | ⟨c'', cs⟩⟩⟩ := text.toList
    · rfl
    · rfl
    · simp [htext]
    · rfl
  | _ => rw [h.leaf _ rfl]; rfl

/-- The type `Self` is told by its one member. -/
theorem isSelf (hother : ∀ v, edit .other v = v) (ms : List (String × Json)) :
    isSelf (.obj (ms.map fun m => (m.1, edit (Place.type.under m.1) m.2))) = isSelf (.obj ms) := by
  obtain _ | ⟨⟨key, w⟩, _ | ⟨m, ms⟩⟩ := ms
  · rfl
  · by_cases hkey : key = "generic"
    · subst hkey
      simp [Place.under, Place.members, Place.typeKinds, List.lookup, hother]
    · simp [Rustdoc.isSelf, hkey]
  · simp [Rustdoc.isSelf]

/-- The type of functions that return nothing is told by its one member. -/
theorem isNoOutput (h : Keeps edit (.listOf .type)) (ms : List (String × Json)) :
    isNoOutput (.obj (ms.map fun m => (m.1, edit (Place.type.under m.1) m.2))) =
      isNoOutput (.obj ms) := by
  obtain _ | ⟨⟨key, w⟩, _ | ⟨m, ms⟩⟩ := ms
  · rfl
  · by_cases hkey : key = "tuple"
    · subst hkey
      have hunder : Place.type.under "tuple" = .listOf .type := rfl
      rw [List.map_singleton, hunder]
      cases w with
      | arr vs =>
        rw [h.arr]
        cases vs with
        | nil => rfl
        | cons v vs => rw [List.mapIdx_cons]; rfl
      | obj ms => rw [h.obj]; rfl
      | _ => rw [h.leaf _ rfl]
    · simp [Rustdoc.isNoOutput, hkey]
  · simp [Rustdoc.isNoOutput]

/-- A type names as many bounds as before. -/
theorem namedBounds_eq (hdyn : Keeps edit .dyn) (htraits : Keeps edit (.listOf .polyTrait))
    (hbounds : Keeps edit (.listOf .bound)) (hother : ∀ v, edit .other v = v) {v w : Json}
    (hobject : w.get? "dyn_trait" = (v.get? "dyn_trait").map (edit .dyn))
    (himpl : w.get? "impl_trait" = (v.get? "impl_trait").map (edit (.listOf .bound))) :
    Rustdoc.namedBounds w = Rustdoc.namedBounds v := by
  rw [Rustdoc.namedBounds, Rustdoc.namedBounds, hobject, himpl]
  cases v.get? "dyn_trait" with
  | none =>
    cases v.get? "impl_trait" with
    | none => rfl
    | some bounds => exact hbounds.size bounds
  | some object =>
    have htraitsUnder : Place.dyn.under "traits" = .listOf .polyTrait := rfl
    have hlifeUnder : Place.dyn.under "lifetime" = .other := rfl
    have hlist : (edit .dyn object).memberOrNull "traits" =
        edit (.listOf .polyTrait) <$> object.memberOrNull "traits" := by
      rw [hdyn.memberOrNull (htraitsUnder ▸ htraits.leaf .null rfl), htraitsUnder]
    have hlife : (edit .dyn object).memberOrNull "lifetime" = object.memberOrNull "lifetime" := by
      rw [hdyn.memberOrNull (by rw [hlifeUnder, hother]), hlifeUnder, funext hother]
      exact id_map _
    simp only [Option.map_some, hlist, hlife, bind_map_left, htraits.size]

end Place.Keeps

end Rustdoc

end CrateBook
