import CrateBook.Proofs.Rustdoc.Results
import CrateBook.Proofs.Rustdoc.Syntax.Unambiguous
import CrateBook.Rustdoc.Ty.Read

/-!
# Records of types

A dump records a type as an object of one member, which is named for the kind of the type. `Records`
says which values record which types, whatever else there may be among the members: names of paths
and signatures may stand under their newer or their older names, what is null may be left out, and
the names of inputs and the ids of paths do not count. A record of a plain type is rendered as the
text of the type (`Records.text`), so records of different plain types are rendered differently
(`eq_of_rendered_alike`).
-/

namespace CrateBook.Rustdoc

/-! ## Records -/

/-- The members leave something out: it is not there, or it is null. -/
def Omits (ms : List (String × Json)) (key : String) : Prop := (ms.lookup key).getD .null = .null

/-- The members have nothing in a list: it is left out or empty. -/
def HasNone (ms : List (String × Json)) (key : String) : Prop :=
  Omits ms key ∨ ms.lookup key = some (.arr [])

/-- A member says whether something holds; it does not when there is no such member. -/
def Says (ms : List (String × Json)) (key : String) (b : Bool) : Prop :=
  (ms.lookup key).getD (.bool false) = .bool b

/-- The members name a lifetime, or leave it out. -/
def NamesLifetime (ms : List (String × Json)) (life : Option String) : Prop :=
  (ms.lookup "lifetime").getD .null = (life.map Json.str).getD .null

/-- The members of a path name it, under the newer or the older name of the member. -/
def NamesPath (ms : List (String × Json)) (name : String) : Prop :=
  ms.lookup "path" = some (.str name) ∨ Omits ms "path" ∧ ms.lookup "name" = some (.str name)

/-- The header of a function has no qualifiers, be they under their newer or their older names. -/
inductive IsUnqualified : Json → Prop
  | absent : IsUnqualified .null
  | header {ms : List (String × Json)}
    (hflags : ∀ key ∈ ["is_const", "const_", "is_async", "async_", "is_unsafe", "unsafe_"],
      Says ms key false) (habi : (ms.lookup "abi").getD (.str "Rust") = .str "Rust") :
    IsUnqualified (.obj ms)

mutual

/-- The value records the type, one of a kind whose text tells what it is. -/
inductive Records : Json → Ty → Prop
  | primitive (name : String) : Records (.obj [("primitive", .str name)]) (.primitive name)
  | tuple {vs : List Json} {ts : List Ty} (h : List.Forall₂ Records vs ts) :
    Records (.obj [("tuple", .arr vs)]) (.tuple ts)
  | slice {v : Json} {t : Ty} (h : Records v t) : Records (.obj [("slice", v)]) (.slice t)
  | array {ms : List (String × Json)} {v : Json} {t : Ty} {len : String}
    (htype : ms.lookup "type" = some v) (h : Records v t)
    (hlen : ms.lookup "len" = some (.str len)) :
    Records (.obj [("array", .obj ms)]) (.array t len)
  | pointer {ms : List (String × Json)} {v : Json} {t : Ty} {isMut : Bool}
    (hmut : Says ms "is_mutable" isMut) (htype : ms.lookup "type" = some v) (h : Records v t) :
    Records (.obj [("raw_pointer", .obj ms)]) (.pointer isMut t)
  | reference {ms : List (String × Json)} {v : Json} {t : Ty} {life : Option String} {isMut : Bool}
    (hlife : NamesLifetime ms life) (hmut : Says ms "is_mutable" isMut)
    (htype : ms.lookup "type" = some v) (h : Records v t) :
    Records (.obj [("borrowed_ref", .obj ms)]) (.reference life isMut t)
  | path {ms : List (String × Json)} {name : String} {args : Args} (hname : NamesPath ms name)
    (hargs : RecordsArgs ((ms.lookup "args").getD .null) args) :
    Records (.obj [("resolved_path", .obj ms)]) (.path name args)
  | function {ms sig : List (String × Json)} {vs : List Json} {inputs : List Input}
    {output : Option Ty} (hsig : (ms.lookup "sig").or (ms.lookup "decl") = some (.obj sig))
    (hbinder : HasNone ms "generic_params")
    (hheader : IsUnqualified ((ms.lookup "header").getD .null))
    (hvs : sig.lookup "inputs" = some (.arr vs)) (hinputs : List.Forall₂ RecordsInput vs inputs)
    (hvariadic : Says sig "is_c_variadic" false) (hvariadic' : Says sig "c_variadic" false)
    (houtput : RecordsOutput ((sig.lookup "output").getD .null) output) :
    Records (.obj [("function_pointer", .obj ms)]) (.function [] {} inputs false output)
  | dyn {ms : List (String × Json)} {vs : List Json} {traits : List Bound} {life : Option String}
    (hvs : ms.lookup "traits" = some (.arr vs)) (htraits : List.Forall₂ RecordsBound vs traits)
    (hlife : NamesLifetime ms life) : Records (.obj [("dyn_trait", .obj ms)]) (.dyn traits life)

/-- The value records the arguments of a path. -/
inductive RecordsArgs : Json → Args → Prop
  | absent : RecordsArgs .null .none
  | empty {ms : List (String × Json)} (hargs : HasNone ms "args")
    (hconstraints : HasNone ms "constraints") (hbindings : HasNone ms "bindings") :
    RecordsArgs (.obj [("angle_bracketed", .obj ms)]) .none
  | angle {ms : List (String × Json)} {vs : List Json} {args : List Arg}
    (hvs : ms.lookup "args" = some (.arr vs)) (hargs : List.Forall₂ RecordsArg vs args)
    (hconstraints : HasNone ms "constraints") (hbindings : HasNone ms "bindings") :
    RecordsArgs (.obj [("angle_bracketed", .obj ms)]) (.angle args [])

/-- The value records an argument. -/
inductive RecordsArg : Json → Arg → Prop
  | lifetime (name : String) : RecordsArg (.obj [("lifetime", .str name)]) (.lifetime name)
  | type {v : Json} {t : Ty} (h : Records v t) : RecordsArg (.obj [("type", v)]) (.type t)

/-- The value records an input of a function pointer, whose name does not count. -/
inductive RecordsInput : Json → Input → Prop
  | unnamed {name v : Json} {t : Ty} (hname : name.isText "self" = false) (h : Records v t) :
    RecordsInput (.arr [name, v]) (.unnamed t)

/-- The value records the output of a function, or that there is none. -/
inductive RecordsOutput : Json → Option Ty → Prop
  | absent : RecordsOutput .null none
  | type {v : Json} {t : Ty} (h : Records v t) : RecordsOutput v (some t)

/-- The value records a trait of a trait object. -/
inductive RecordsBound : Json → Bound → Prop
  | trait {ms path : List (String × Json)} {name : String} {args : Args}
    (hbinder : HasNone ms "generic_params") (hpath : ms.lookup "trait" = some (.obj path))
    (hname : NamesPath path name) (hargs : RecordsArgs ((path.lookup "args").getD .null) args) :
    RecordsBound (.obj ms) (.trait [] .plain name args)

end

/-! ## Members -/

section

variable {ms : List (String × Json)} {key older name : String} {b : Bool} {life : Option String}
  {v : Json}

theorem Says.truthy (h : Says ms key b) : ((ms.lookup key).getD .null).truthy = b := by
  rw [Says] at h
  cases hlook : ms.lookup key with
  | none =>
    rw [hlook] at h
    cases h
    rfl
  | some v =>
    rw [hlook] at h
    obtain rfl : v = .bool b := h
    rfl

theorem Says.truthy_or (h : Says ms key false) (holder : Says ms older false) :
    ((ms.lookup key).getD ((ms.lookup older).getD .null)).truthy = false := by
  cases hlook : ms.lookup key with
  | none => exact holder.truthy
  | some v =>
    have hv := h.truthy
    rwa [hlook] at hv

theorem HasNone.partsIfAny (h : HasNone ms key) :
    ((ms.lookup key).getD .null).partsIfAny = .ok [] := by
  rcases h with h | h
  · rw [h]
    rfl
  · rw [h]
    rfl

theorem HasNone.partsIfAny_or (h : HasNone ms key) (holder : HasNone ms older) :
    ((ms.lookup key).getD ((ms.lookup older).getD .null)).partsIfAny = .ok [] := by
  cases hlook : ms.lookup key with
  | none => exact holder.partsIfAny
  | some v =>
    have hv := h.partsIfAny
    rwa [hlook] at hv

theorem NamesLifetime.truthy (h : NamesLifetime ms life) (hlife : life.all isLifetime = true) :
    ((ms.lookup "lifetime").getD .null).truthy = life.isSome := by
  rw [h]
  cases life with
  | none => rfl
  | some l =>
    obtain ⟨word, -, rfl⟩ := exists_of_isLifetime hlife
    simp [Json.truthy]

theorem NamesLifetime.read {α : Type} (h : NamesLifetime ms life)
    (hlife : life.all isLifetime = true) (g : Option String → Except Fault α) :
    (if ((ms.lookup "lifetime").getD .null).truthy then
      some <$> readLifetime ((ms.lookup "lifetime").getD .null) >>= g else pure none >>= g) =
        g life := by
  rw [h.truthy hlife, h]
  cases life <;> rfl

theorem NamesPath.exists_lookup (h : NamesPath ms name) : ∃ key v, ms.lookup key = some v := by
  rcases h with h | ⟨-, h⟩
  · exact ⟨_, _, h⟩
  · exact ⟨_, _, h⟩

theorem memberOrNull_obj (ms : List (String × Json)) (key : String) :
    (Json.obj ms).memberOrNull key = .ok ((ms.lookup key).getD .null) := rfl

theorem memberOr_obj (ms : List (String × Json)) (key older : String) :
    (Json.obj ms).memberOr key older =
      .ok ((ms.lookup key).getD ((ms.lookup older).getD .null)) := rfl

theorem member_of_lookup (h : ms.lookup key = some v) : (Json.obj ms).member key = .ok v := by
  rw [Json.member, h]

theorem memberOr_of_or (h : (ms.lookup key).or (ms.lookup older) = some v) :
    (Json.obj ms).memberOr key older = .ok v := by
  rw [memberOr_obj]
  rcases Option.or_eq_some_iff.1 h with h | ⟨h, h'⟩
  · rw [h, Option.getD_some]
  · rw [h, h', Option.getD_none, Option.getD_some]

theorem truthy_of_isTypeName (h : isTypeName name = true) : (Json.str name).truthy = true := by
  have hne := ne_nil_of_isTypeName h
  simpa [Json.truthy] using hne

theorem NamesPath.read (h : NamesPath ms name) (hname : isTypeName name = true) :
    readPathName (.obj ms) = .ok (.str name) := by
  have htruthy := truthy_of_isTypeName hname
  rw [readPathName, memberOrNull_obj, ok_bind]
  rcases h with h | ⟨homits, h⟩
  · rw [h, Option.getD_some, if_pos htruthy]
    rfl
  · rw [homits, if_neg (by simp [Json.truthy]), memberOrNull_obj, ok_bind, h, Option.getD_some,
      if_pos htruthy]
    rfl

theorem partsIfAny_arr (vs : List Json) : (Json.arr vs).partsIfAny = .ok vs := by
  cases vs <;> rfl

theorem orObject_obj (ms : List (String × Json)) : (Json.obj ms).orObject = .obj ms := by
  cases ms <;> rfl

theorem IsUnqualified.read (h : IsUnqualified v) : readHeader v = .ok {} := by
  cases h with
  | absent => rfl
  | @header ms hflags habi =>
    simp only [List.forall_mem_cons] at hflags
    obtain ⟨h₁, h₂, h₃, h₄, h₅, h₆, -⟩ := hflags
    have hconst := h₁.truthy_or h₂
    have hasync := h₃.truthy_or h₄
    have hunsafe := h₅.truthy_or h₆
    have hmember : (Json.obj ms).member? "abi" = .ok (ms.lookup "abi") := rfl
    rw [readHeader, orObject_obj, memberOr_obj, memberOr_obj, memberOr_obj, hmember]
    simp only [ok_bind, habi, hconst, hasync, hunsafe]
    rfl

end

/-! ## Depth -/

theorem depth_lookup {ms : List (String × Json)} {key : String} {v : Json}
    (h : ms.lookup key = some v) : v.depth < (Json.obj ms).depth := by
  have hle : v.depth ≤ Json.depthOfMembers ms := by
    induction ms with
    | nil => cases h
    | cons m ms ih =>
      rw [Json.depthOfMembers]
      rw [List.lookup_cons] at h
      split at h
      · rw [← Option.some.inj h]
        exact Nat.le_max_left _ _
      · exact (ih h).trans (Nat.le_max_right _ _)
  rw [Json.depth]
  omega

theorem depth_of_or {ms : List (String × Json)} {key older : String} {v : Json}
    (h : (ms.lookup key).or (ms.lookup older) = some v) : v.depth < (Json.obj ms).depth := by
  rcases Option.or_eq_some_iff.1 h with h | ⟨-, h⟩
  · exact depth_lookup h
  · exact depth_lookup h

theorem depth_mem {vs : List Json} {v : Json} (h : v ∈ vs) : v.depth < (Json.arr vs).depth := by
  have hle : v.depth ≤ Json.depthOfItems vs := by
    induction vs with
    | nil => cases h
    | cons w vs ih =>
      rw [Json.depthOfItems]
      rcases List.mem_cons.1 h with rfl | h
      · exact Nat.le_max_left _ _
      · exact (ih h).trans (Nat.le_max_right _ _)
  rw [Json.depth]
  omega

theorem depth_pos (v : Json) : 0 < v.depth := by
  cases v <;> simp [Json.depth]

theorem depth_singleton (key : String) (v : Json) : (Json.obj [(key, v)]).depth = v.depth + 1 := by
  simp [Json.depth, Json.depthOfMembers]

/-- A member, or null in its place, is nested less deep than an object that has members. -/
theorem depth_getD {ms : List (String × Json)} {key : String} {v : Json}
    (h : ms.lookup key = some v) (other : String) :
    ((ms.lookup other).getD .null).depth < (Json.obj ms).depth := by
  cases hlook : ms.lookup other with
  | none =>
    have hnull : Json.null.depth = 1 := rfl
    have hdepth := depth_lookup h
    have hpos := depth_pos v
    rw [Option.getD_none]
    omega
  | some w => exact depth_lookup hlook

/-! ## Reading -/

/-- The types are written alike, and so they are behind a pointer. -/
structure Ty.Alike (t u : Ty) : Prop where
  text : t.text [] = u.text []
  isGrouped : t.isGrouped = u.isGrouped
  raw? : t.raw? = none

/-- What records a plain type is read as a type that is written alike, and so are its parts, when
the bound is large enough. -/
structure ReadsRecords (n : Nat) : Prop where
  type : ∀ v t, Records v t → t.isPlain = true → v.depth < n →
    ∃ t', readTyWithin n v = .ok t' ∧ t'.Alike t
  args : ∀ v a, RecordsArgs v a → a.isPlain = true → v.depth < n →
    ∃ a', readArgsWithin n v = .ok a' ∧ a'.text [] = a.text []
  arg : ∀ v a, RecordsArg v a → a.isPlain = true → v.depth < n →
    ∃ a', readArgWithin n v = .ok a' ∧ a'.raw? = none ∧ a'.text [] = a.text []
  path : ∀ ms name a, NamesPath ms name → RecordsArgs ((ms.lookup "args").getD .null) a →
    isTypeName name = true → a.isPlain = true → (Json.obj ms).depth < n →
    ∃ a', readPathWithin n (.obj ms) = .ok (.mk name a') ∧ a'.text [] = a.text []
  inputs : ∀ ms vs inputs, ms.lookup "inputs" = some (.arr vs) →
    List.Forall₂ RecordsInput vs inputs → Says ms "is_c_variadic" false →
    Says ms "c_variadic" false → (∀ i ∈ inputs, i.isPlain = true) → (Json.obj ms).depth < n →
    ∃ inputs', readInputsWithin n false (.obj ms) = .ok (inputs', false) ∧
      inputTexts [] inputs' = inputTexts [] inputs

section

variable {n : Nat} (h : ReadsRecords n)

/-- Where nothing stands for itself, all is joined. -/
theorem joinable_eq_ok {α : Type} {f : α → Option Json} {l : List α} (hl : ∀ a ∈ l, f a = none)
    (place : Nat) : joinable place (l.map f) = .ok () := by
  induction l generalizing place with
  | nil => rfl
  | cons a l ih =>
    obtain ⟨ha, hrest⟩ := List.forall_mem_cons.1 hl
    rw [List.map_cons, ha]
    exact ih hrest _

include h

theorem ReadsRecords.types {vs : List Json} {ts : List Ty} (hvs : List.Forall₂ Records vs ts)
    (hts : ∀ t ∈ ts, t.isPlain = true) (hn : ∀ v ∈ vs, v.depth < n) :
    ∃ ts', vs.mapM (readTyWithin n) = .ok ts' ∧ List.Forall₂ Ty.Alike ts' ts :=
  exists_mapM_of_forall₂ hvs fun v hv t ht hvt => h.type v t hvt (hts t ht) (hn v hv)

theorem ReadsRecords.tuple {vs : List Json} {ts : List Ty} (hvs : List.Forall₂ Records vs ts)
    (hplain : (Ty.tuple ts).isPlain = true) (hn : (Json.obj [("tuple", .arr vs)]).depth < n + 1) :
    ∃ t', readTyWithin (n + 1) (.obj [("tuple", .arr vs)]) = .ok t' ∧ t'.Alike (.tuple ts) := by
  rw [Ty.isPlain, arePlainTys_eq_all] at hplain
  rw [depth_singleton] at hn
  obtain ⟨ts', hread, halike⟩ := h.types hvs (List.all_eq_true.1 hplain) fun v hv =>
    (depth_mem hv).trans_le (by omega)
  obtain ⟨hraw, htexts⟩ :=
    (List.forall₂_and_left _ _).1 (halike.imp fun _ _ h => ⟨h.raw?, h.text⟩)
  refine ⟨.tuple ts', ?_, ?_, rfl, rfl⟩
  · simp only [readTyWithin, Json.firstMember, ok_bind, Json.parts, hread, joinable_eq_ok hraw 0]
    split <;> rfl
  · rw [Ty.text, Ty.text, tyTexts_eq_map, tyTexts_eq_map,
      map_eq_of_forall₂ htexts]

theorem ReadsRecords.slice {v : Json} {t : Ty} (hv : Records v t)
    (hplain : (Ty.slice t).isPlain = true) (hn : (Json.obj [("slice", v)]).depth < n + 1) :
    ∃ t', readTyWithin (n + 1) (.obj [("slice", v)]) = .ok t' ∧ t'.Alike (.slice t) := by
  rw [depth_singleton] at hn
  obtain ⟨t', hread, halike⟩ := h.type v t hv hplain (by omega)
  refine ⟨.slice t', ?_, ?_, rfl, rfl⟩
  · simp only [readTyWithin, Json.firstMember, ok_bind, hread]
    rfl
  · rw [Ty.text, Ty.text, halike.text]

theorem ReadsRecords.array {ms : List (String × Json)} {v : Json} {t : Ty} {len : String}
    (htype : ms.lookup "type" = some v) (hv : Records v t)
    (hlen : ms.lookup "len" = some (.str len)) (hplain : (Ty.array t len).isPlain = true)
    (hn : (Json.obj [("array", .obj ms)]).depth < n + 1) :
    ∃ t', readTyWithin (n + 1) (.obj [("array", .obj ms)]) = .ok t' ∧ t'.Alike (.array t len) := by
  rw [Ty.isPlain, Bool.and_eq_true] at hplain
  rw [depth_singleton] at hn
  have hdepth := depth_lookup htype
  obtain ⟨t', hread, halike⟩ := h.type v t hv hplain.1 (by omega)
  refine ⟨.array t' len, ?_, ?_, rfl, rfl⟩
  · simp only [readTyWithin, Json.firstMember, ok_bind, member_of_lookup htype,
      member_of_lookup hlen, hread]
    rfl
  · rw [Ty.text, Ty.text, halike.text]

omit h in
/-- The value of a plain type names as many bounds as its text has behind a pointer. -/
theorem Records.namedBounds {v : Json} {t : Ty} (hv : Records v t) (hplain : t.isPlain = true) :
    ∃ count, Rustdoc.namedBounds v = .ok count ∧ decide (1 < count) = t.isGrouped := by
  cases hv with
  | @dyn ms vs traits life hvs htraits hlife =>
    rw [Ty.isPlain, Bool.and_eq_true, Bool.and_eq_true] at hplain
    refine ⟨traits.length + if life.isSome then 1 else 0, ?_, rfl⟩
    have hget : (Json.obj [("dyn_trait", .obj ms)]).get? "dyn_trait" = some (.obj ms) := rfl
    rw [Rustdoc.namedBounds, hget]
    dsimp only
    rw [memberOrNull_obj, memberOrNull_obj, hvs]
    simp only [ok_bind, Option.getD_some, Json.size, hlife.truthy hplain.2.2, htraits.length_eq]
    rfl
  | _ => exact ⟨0, rfl, rfl⟩

omit h in
theorem regroup_of_alike {v : Json} {t t' : Ty} (hv : Records v t) (hplain : t.isPlain = true)
    (halike : t'.Alike t) : regroup v t' = .ok t' := by
  obtain ⟨count, hcount, hgrouped⟩ := hv.namedBounds hplain
  rw [regroup, hcount, ok_bind, hgrouped, halike.isGrouped, if_pos (beq_self_eq_true _)]
  rfl

theorem ReadsRecords.pointer {ms : List (String × Json)} {v : Json} {t : Ty} {isMut : Bool}
    (hmut : Says ms "is_mutable" isMut) (htype : ms.lookup "type" = some v) (hv : Records v t)
    (hplain : (Ty.pointer isMut t).isPlain = true)
    (hn : (Json.obj [("raw_pointer", .obj ms)]).depth < n + 1) :
    ∃ t', readTyWithin (n + 1) (.obj [("raw_pointer", .obj ms)]) = .ok t' ∧
      t'.Alike (.pointer isMut t) := by
  rw [Ty.isPlain] at hplain
  rw [depth_singleton] at hn
  have hdepth := depth_lookup htype
  obtain ⟨t', hread, halike⟩ := h.type v t hv hplain (by omega)
  refine ⟨.pointer isMut t', ?_, ?_, rfl, rfl⟩
  · simp only [readTyWithin, Json.firstMember, ok_bind, memberOrNull_obj, member_of_lookup htype,
      hread, regroup_of_alike hv hplain halike, hmut.truthy]
    rfl
  · rw [Ty.text, Ty.text, halike.text, halike.isGrouped]

theorem ReadsRecords.reference {ms : List (String × Json)} {v : Json} {t : Ty}
    {life : Option String} {isMut : Bool} (hlife : NamesLifetime ms life)
    (hmut : Says ms "is_mutable" isMut) (htype : ms.lookup "type" = some v) (hv : Records v t)
    (hplain : (Ty.reference life isMut t).isPlain = true)
    (hn : (Json.obj [("borrowed_ref", .obj ms)]).depth < n + 1) :
    ∃ t', readTyWithin (n + 1) (.obj [("borrowed_ref", .obj ms)]) = .ok t' ∧
      t'.Alike (.reference life isMut t) := by
  rw [Ty.isPlain, Bool.and_eq_true] at hplain
  rw [depth_singleton] at hn
  have hdepth := depth_lookup htype
  obtain ⟨t', hread, halike⟩ := h.type v t hv hplain.2 (by omega)
  refine ⟨.reference life isMut t', ?_, ?_, rfl, rfl⟩
  · simp only [readTyWithin, Json.firstMember, ok_bind, memberOrNull_obj, member_of_lookup htype,
      hlife.read hplain.1, hread, regroup_of_alike hv hplain.2 halike, hmut.truthy, halike.raw?]
    rfl
  · rw [Ty.text, Ty.text, halike.text, halike.isGrouped]

theorem ReadsRecords.path_succ {ms : List (String × Json)} {name : String} {a : Args}
    (hname : NamesPath ms name) (hargs : RecordsArgs ((ms.lookup "args").getD .null) a)
    (hplain : isTypeName name = true) (hplain' : a.isPlain = true)
    (hn : (Json.obj ms).depth < n + 1) :
    ∃ a', readPathWithin (n + 1) (.obj ms) = .ok (.mk name a') ∧ a'.text [] = a.text [] := by
  obtain ⟨_, _, hlook⟩ := hname.exists_lookup
  have hdepth := depth_getD hlook "args"
  obtain ⟨a', hread, htext⟩ := h.args _ a hargs hplain' (by omega)
  refine ⟨a', ?_, htext⟩
  simp only [readPathWithin, hname.read hplain, ok_bind, memberOrNull_obj, hread, beforeText]
  rfl

theorem ReadsRecords.path_type {ms : List (String × Json)} {name : String} {a : Args}
    (hname : NamesPath ms name) (hargs : RecordsArgs ((ms.lookup "args").getD .null) a)
    (hplain : (Ty.path name a).isPlain = true)
    (hn : (Json.obj [("resolved_path", .obj ms)]).depth < n + 1) :
    ∃ t', readTyWithin (n + 1) (.obj [("resolved_path", .obj ms)]) = .ok t' ∧
      t'.Alike (.path name a) := by
  obtain ⟨hplain, hplain', -⟩ := isPlain_path hplain
  rw [depth_singleton] at hn
  obtain ⟨a', hread, htext⟩ := h.path ms name a hname hargs hplain hplain' (by omega)
  refine ⟨.path name a', ?_, ?_, rfl, rfl⟩
  · simp only [readTyWithin, Json.firstMember, ok_bind, hread]
    rfl
  · rw [Ty.text, Ty.text, htext]

theorem ReadsRecords.args_succ {v : Json} {a : Args} (hv : RecordsArgs v a)
    (hplain : a.isPlain = true) (hn : v.depth < n + 1) :
    ∃ a', readArgsWithin (n + 1) v = .ok a' ∧ a'.text [] = a.text [] := by
  have htruthy (body : Json) : (Json.obj [("angle_bracketed", body)]).truthy = true := rfl
  have htext (body : Json) :
      (Json.obj [("angle_bracketed", body)]).isText "return_type_notation" = false := rfl
  have hmentions (body : Json) :
      (Json.obj [("angle_bracketed", body)]).mentions "angle_bracketed" = .ok true := rfl
  have hmember (body : Json) :
      (Json.obj [("angle_bracketed", body)]).member "angle_bracketed" = .ok body := rfl
  cases hv with
  | absent => exact ⟨.none, rfl, rfl⟩
  | @empty ms hargs hconstraints hbindings =>
    refine ⟨.angle [] [], ?_, rfl⟩
    simp only [readArgsWithin, htruthy, htext, hmentions, hmember, ok_bind, memberOrNull_obj,
      memberOr_obj, hargs.partsIfAny, hconstraints.partsIfAny_or hbindings]
    rfl
  | @angle ms vs args hvs hargs hconstraints hbindings =>
    rw [Args.isPlain, Bool.and_eq_true, arePlainArgs_eq_all, List.all_eq_true] at hplain
    rw [depth_singleton] at hn
    have hdepth := depth_lookup hvs
    obtain ⟨args', hread, halike⟩ := exists_mapM_of_forall₂ hargs fun v hv a ha hva =>
      h.arg v a hva (hplain.2 a ha) ((depth_mem hv).trans (by omega))
    obtain ⟨hraw, htexts⟩ := (List.forall₂_and_left _ _).1 halike
    refine ⟨.angle args' [], ?_, ?_⟩
    · simp only [readArgsWithin, htruthy, htext, hmentions, hmember, ok_bind, memberOrNull_obj,
        memberOr_obj, hvs, Option.getD_some, partsIfAny_arr, hread,
        hconstraints.partsIfAny_or hbindings, joinable_eq_ok hraw 0]
      rfl
    · rw [Args.text, Args.text, argTexts_eq_map, argTexts_eq_map, map_eq_of_forall₂ htexts]

theorem ReadsRecords.arg_succ {v : Json} {a : Arg} (hv : RecordsArg v a)
    (hplain : a.isPlain = true) (hn : v.depth < n + 1) :
    ∃ a', readArgWithin (n + 1) v = .ok a' ∧ a'.raw? = none ∧ a'.text [] = a.text [] := by
  cases hv with
  | lifetime name => exact ⟨.lifetime name, rfl, rfl, rfl⟩
  | @type v t hv =>
    rw [depth_singleton] at hn
    obtain ⟨t', hread, halike⟩ := h.type v t hv hplain (by omega)
    refine ⟨.type t', ?_, halike.raw?, ?_⟩
    · have hinfer : (Json.obj [("type", v)]).isText "infer" = false := rfl
      have hlife : (Json.obj [("type", v)]).mentions "lifetime" = .ok false := rfl
      have htype : (Json.obj [("type", v)]).mentions "type" = .ok true := rfl
      have hmember : (Json.obj [("type", v)]).member "type" = .ok v := rfl
      simp only [readArgWithin, hinfer, hlife, htype, hmember, ok_bind, hread]
      rfl
    · rw [Arg.text, Arg.text, halike.text]

omit h in
theorem readBinder_of_hasNone {ms : List (String × Json)} (hnone : HasNone ms "generic_params")
    (hn : 0 < n) : readBinderWithin n ((ms.lookup "generic_params").getD .null) = .ok [] := by
  obtain ⟨m, rfl⟩ := Nat.exists_eq_succ_of_ne_zero hn.ne'
  simp only [readBinderWithin, hnone.partsIfAny, ok_bind]
  rfl

/-- How an input of a function pointer is read. -/
def readUnnamed (n : Nat) (input : Json) : Except Fault Input := do
  let (name, type) ← readPair input
  let read ← readTyWithin n type
  if name.isText "self" then readReceiver type read
  else if false && name.truthy && !name.isText "_" then return .named name.display read
  else return .unnamed read

theorem ReadsRecords.input {v : Json} {i : Input} (hv : RecordsInput v i)
    (hplain : i.isPlain = true) (hn : v.depth < n + 1) :
    ∃ i', readUnnamed n v = .ok i' ∧ i'.raw? = none ∧ i'.text [] = i.text [] := by
  obtain @⟨name, v, t, hname, hv⟩ := hv
  have hdepth := depth_mem (List.mem_cons_of_mem name (List.mem_singleton_self v))
  obtain ⟨t', hread, halike⟩ := h.type v t hv hplain (by omega)
  have hpair : readPair (.arr [name, v]) = .ok (name, v) := rfl
  refine ⟨.unnamed t', ?_, halike.raw?, ?_⟩
  · simp only [readUnnamed, hpair, ok_bind, hread, hname]
    rfl
  · rw [Input.text, Input.text, halike.text]

theorem ReadsRecords.inputs_succ {ms : List (String × Json)} {vs : List Json}
    {inputs : List Input} (hvs : ms.lookup "inputs" = some (.arr vs))
    (hinputs : List.Forall₂ RecordsInput vs inputs) (hvariadic : Says ms "is_c_variadic" false)
    (hvariadic' : Says ms "c_variadic" false) (hplain : ∀ i ∈ inputs, i.isPlain = true)
    (hn : (Json.obj ms).depth < n + 1) :
    ∃ inputs', readInputsWithin (n + 1) false (.obj ms) = .ok (inputs', false) ∧
      inputTexts [] inputs' = inputTexts [] inputs := by
  have hdepth := depth_lookup hvs
  obtain ⟨inputs', hread, halike⟩ := exists_mapM_of_forall₂ hinputs fun v hv i hi hvi =>
    h.input hvi (hplain i hi) ((depth_mem hv).trans (by omega))
  have hopen : readInputsWithin (n + 1) false (.obj ms) = (do
      let inputs ← (← (← (Json.obj ms).memberOrNull "inputs").partsIfAny).mapM (readUnnamed n)
      let variadic ← (Json.obj ms).memberOr "is_c_variadic" "c_variadic"
      joinable 0 (inputs.map Input.raw?)
      return (inputs, variadic.truthy)) := rfl
  obtain ⟨hraw, htexts⟩ := (List.forall₂_and_left _ _).1 halike
  refine ⟨inputs', ?_, ?_⟩
  · rw [hopen, memberOrNull_obj, memberOr_obj, hvs]
    simp only [ok_bind, Option.getD_some, partsIfAny_arr, hread, joinable_eq_ok hraw 0,
      hvariadic.truthy_or hvariadic']
    rfl
  · rw [inputTexts_eq_map, inputTexts_eq_map, map_eq_of_forall₂ htexts]

omit h in
/-- What records a plain type other than the empty tuple is the output of a function. -/
theorem isNoOutput_of_records {v : Json} {t : Ty} (hv : Records v t) (ht : t ≠ .tuple []) :
    isNoOutput v = false := by
  cases hv with
  | @tuple vs ts h =>
    cases h with
    | nil => exact absurd rfl ht
    | cons => rfl
  | _ => rfl

theorem ReadsRecords.function {ms sig : List (String × Json)} {vs : List Json}
    {inputs : List Input} {output : Option Ty}
    (hsig : (ms.lookup "sig").or (ms.lookup "decl") = some (.obj sig))
    (hbinder : HasNone ms "generic_params")
    (hheader : IsUnqualified ((ms.lookup "header").getD .null))
    (hvs : sig.lookup "inputs" = some (.arr vs)) (hinputs : List.Forall₂ RecordsInput vs inputs)
    (hvariadic : Says sig "is_c_variadic" false) (hvariadic' : Says sig "c_variadic" false)
    (houtput : RecordsOutput ((sig.lookup "output").getD .null) output)
    (hplain : (Ty.function [] {} inputs false output).isPlain = true)
    (hn : (Json.obj [("function_pointer", .obj ms)]).depth < n + 1) :
    ∃ t', readTyWithin (n + 1) (.obj [("function_pointer", .obj ms)]) = .ok t' ∧
      t'.Alike (.function [] {} inputs false output) := by
  rw [Ty.isPlain, Bool.and_eq_true, Bool.and_eq_true, arePlainInputs_eq_all, List.all_eq_true]
    at hplain
  obtain ⟨-, hplain, hplain'⟩ := hplain
  rw [depth_singleton] at hn
  have hdepth := depth_of_or hsig
  have hsig' := memberOr_of_or hsig
  have hbinder' := readBinder_of_hasNone hbinder (n := n) (by omega)
  obtain ⟨inputs', hread, htexts⟩ := h.inputs sig vs inputs hvs hinputs hvariadic hvariadic' hplain
    (by omega)
  generalize hvalue : (sig.lookup "output").getD .null = value at houtput
  cases houtput with
  | absent =>
    refine ⟨.function [] {} inputs' false none, ?_, ?_, rfl, rfl⟩
    · simp only [readTyWithin, Json.firstMember, ok_bind, hsig', orObject_obj, memberOrNull_obj,
        hbinder', hheader.read, hread, hvalue]
      rfl
    · rw [Ty.text, Ty.text, htexts]
  | @type _ t hv =>
    have hne : t ≠ .tuple [] := by
      rintro rfl
      cases hplain'
    have hout := depth_getD hvs "output"
    rw [hvalue] at hout
    obtain ⟨t', hread', halike⟩ := h.type value t hv (isPlain_output hplain' t rfl) (by omega)
    refine ⟨.function [] {} inputs' false (some t'), ?_, ?_, rfl, rfl⟩
    · simp only [readTyWithin, Json.firstMember, ok_bind, hsig', orObject_obj, memberOrNull_obj,
        hbinder', hheader.read, hread, hvalue, isNoOutput_of_records hv hne, hread']
      rfl
    · rw [Ty.text, Ty.text, htexts, outputText, outputText, halike.text]

omit h in
/-- How a trait of a trait object is read. -/
def readPoly (n : Nat) (poly : Json) : Except Fault Bound := do
  let binder ← readBinderWithin n (← poly.memberOrNull "generic_params")
  let .mk name args ← readPathWithin n (← poly.member "trait")
  return Bound.trait binder .plain name args

theorem ReadsRecords.bound {v : Json} {b : Bound} (hv : RecordsBound v b)
    (hplain : b.isPlain = true) (hn : v.depth < n) :
    ∃ b', readPoly n v = .ok b' ∧ b'.text [] = b.text [] := by
  obtain @⟨ms, path, name, args, hbinder, hpath, hname, hargs⟩ := hv
  rw [Bound.isPlain, Bool.and_eq_true] at hplain
  have hdepth := depth_lookup hpath
  obtain ⟨a', hread, htext⟩ := h.path path name args hname hargs hplain.1 hplain.2 (by omega)
  refine ⟨.trait [] .plain name a', ?_, ?_⟩
  · have hbinder' := readBinder_of_hasNone hbinder (n := n) (by omega)
    simp only [readPoly, memberOrNull_obj, ok_bind, hbinder', member_of_lookup hpath, hread]
    rfl
  · rw [Bound.text, Bound.text, htext]

theorem ReadsRecords.dyn {ms : List (String × Json)} {vs : List Json} {traits : List Bound}
    {life : Option String} (hvs : ms.lookup "traits" = some (.arr vs))
    (htraits : List.Forall₂ RecordsBound vs traits) (hlife : NamesLifetime ms life)
    (hplain : (Ty.dyn traits life).isPlain = true)
    (hn : (Json.obj [("dyn_trait", .obj ms)]).depth < n + 1) :
    ∃ t', readTyWithin (n + 1) (.obj [("dyn_trait", .obj ms)]) = .ok t' ∧
      t'.Alike (.dyn traits life) := by
  rw [Ty.isPlain, Bool.and_eq_true, Bool.and_eq_true, arePlainTraits_eq_all, List.all_eq_true]
    at hplain
  rw [depth_singleton] at hn
  have hdepth := depth_lookup hvs
  obtain ⟨traits', hread, halike⟩ := exists_mapM_of_forall₂ htraits fun v hv b hb hvb =>
    h.bound hvb (hplain.2.1 b hb) ((depth_mem hv).trans (by omega))
  have hopen : readTyWithin (n + 1) (.obj [("dyn_trait", .obj ms)]) = (do
      let traits ← (← (← (Json.obj ms).memberOrNull "traits").partsIfAny).mapM (readPoly n)
      let life ← (Json.obj ms).memberOrNull "lifetime"
      return .dyn traits (← if life.truthy then some <$> readLifetime life else pure none)) := rfl
  refine ⟨.dyn traits' life, ?_, ?_, ?_, rfl⟩
  · rw [hopen, memberOrNull_obj, memberOrNull_obj, hvs]
    simp only [ok_bind, Option.getD_some, partsIfAny_arr, hread]
    exact hlife.read hplain.2.2 _
  · rw [Ty.text, Ty.text, boundTexts_eq_map, boundTexts_eq_map, map_eq_of_forall₂ halike]
  · rw [Ty.isGrouped, Ty.isGrouped, halike.length_eq]

end

/-- Plain types are read within every bound that is large enough. -/
theorem readsRecords (n : Nat) : ReadsRecords n := by
  induction n with
  | zero => constructor <;> intros <;> omega
  | succ n ih =>
    refine ⟨fun v t hv hplain hn => ?_, fun _ _ => ih.args_succ, fun _ _ => ih.arg_succ,
      fun _ _ _ => ih.path_succ, fun _ _ _ => ih.inputs_succ⟩
    cases hv with
    | primitive name => exact ⟨.primitive name, rfl, rfl, rfl, rfl⟩
    | tuple h => exact ih.tuple h hplain hn
    | slice h => exact ih.slice h hplain hn
    | array htype h hlen => exact ih.array htype h hlen hplain hn
    | pointer hmut htype h => exact ih.pointer hmut htype h hplain hn
    | reference hlife hmut htype h => exact ih.reference hlife hmut htype h hplain hn
    | path hname hargs => exact ih.path_type hname hargs hplain hn
    | function hsig hbinder hheader hvs hinputs hvariadic hvariadic' houtput =>
      exact ih.function hsig hbinder hheader hvs hinputs hvariadic hvariadic' houtput hplain hn
    | dyn hvs htraits hlife => exact ih.dyn hvs htraits hlife hplain hn

/-- What records a plain type is rendered as the text of the type. -/
theorem Records.text {v : Json} {t : Ty} (h : Records v t) (hplain : t.isPlain = true) :
    Ty.text [] <$> readTy v = .ok (t.text []) := by
  obtain ⟨t', hread, halike⟩ :=
    (readsRecords (v.depth + 1)).type v t h hplain (Nat.lt_succ_self _)
  rw [readTy, hread, ← halike.text]
  rfl

/-- **Plain types are told apart by their rendering.** What records plain types is rendered, and two
of them are rendered alike only if they record one type. -/
theorem eq_of_rendered_alike {v w : Json} {t u : Ty} (hv : Records v t) (hw : Records w u)
    (ht : t.isPlain = true) (hu : u.isPlain = true) :
    ∃ s s', Ty.text [] <$> readTy v = .ok s ∧ Ty.text [] <$> readTy w = .ok s' ∧
      (s = s' ↔ t = u) :=
  ⟨_, _, hv.text ht, hw.text hu, Ty.text_inj_of_isPlain ht hu⟩

/-! ## A reference inside a trait object -/

namespace NestedReference

/-- A trait object of a trait without arguments and a lifetime. -/
def object : Ty := .dyn [.trait [] .plain "Read" .none] (some "'a")

/-- The record of the trait object, with members that do not count. -/
def objectRecord : Json := .obj [("dyn_trait", .obj [
  ("traits", .arr [.obj [("trait", .obj [("path", .str "Read"), ("id", .int 3), ("args", .null)]),
    ("generic_params", .arr [])]]),
  ("lifetime", .str "'a")])]

/-- A reference to the trait object. -/
def reference : Ty := .reference none false object

def referenceRecord : Json := .obj [("borrowed_ref",
  .obj [("lifetime", .null), ("is_mutable", .bool false), ("type", objectRecord)])]

/-- A trait object whose trait has the reference and a lifetime for its arguments. -/
def outer : Ty :=
  .dyn [.trait [] .plain "From" (.angle [.type reference, .lifetime "'a"] [])] (some "'a")

def outerRecord : Json := .obj [("dyn_trait", .obj [
  ("traits", .arr [.obj [("trait", .obj [("path", .str "From"),
    ("args", .obj [("angle_bracketed", .obj [
      ("args", .arr [.obj [("type", referenceRecord)], .obj [("lifetime", .str "'a")]])])])])]]),
  ("lifetime", .str "'a")])]

theorem records_reference : Records referenceRecord reference := by
  have hread : RecordsBound (.obj [("trait", .obj [("path", .str "Read"), ("id", .int 3),
      ("args", .null)]), ("generic_params", .arr [])]) (.trait [] .plain "Read" .none) :=
    .trait (.inr rfl) rfl (.inl rfl) .absent
  exact .reference rfl rfl rfl (.dyn rfl (.cons hread .nil) rfl)

theorem records_outer : Records outerRecord outer := by
  have hargs : List.Forall₂ RecordsArg [.obj [("type", referenceRecord)],
      .obj [("lifetime", .str "'a")]] [.type reference, .lifetime "'a"] :=
    .cons (.type records_reference) (.cons (.lifetime "'a") .nil)
  have hfrom : RecordsArgs (.obj [("angle_bracketed", .obj [("args",
      .arr [.obj [("type", referenceRecord)], .obj [("lifetime", .str "'a")]])])])
      (.angle [.type reference, .lifetime "'a"] []) :=
    .angle rfl hargs (.inl rfl) (.inl rfl)
  exact .dyn rfl (.cons (.trait (.inl rfl) rfl (.inl rfl) hfrom) .nil) rfl

end NestedReference

/-- The reference and the trait object that has it for an argument are rendered differently. -/
theorem rendered_apart_nested_reference :
    Records NestedReference.referenceRecord NestedReference.reference ∧
    Records NestedReference.outerRecord NestedReference.outer ∧
    NestedReference.reference.isPlain = true ∧ NestedReference.outer.isPlain = true ∧
    ∃ s s', Ty.text [] <$> readTy NestedReference.referenceRecord = .ok s ∧
      Ty.text [] <$> readTy NestedReference.outerRecord = .ok s' ∧ s ≠ s' := by
  have hreference : NestedReference.reference.isPlain = true := by decide
  have houter : NestedReference.outer.isPlain = true := by decide
  obtain ⟨s, s', hs, hs', hiff⟩ := eq_of_rendered_alike NestedReference.records_reference
    NestedReference.records_outer hreference houter
  refine ⟨NestedReference.records_reference, NestedReference.records_outer, hreference, houter,
    s, s', hs, hs', fun h => ?_⟩
  cases hiff.1 h

end CrateBook.Rustdoc
