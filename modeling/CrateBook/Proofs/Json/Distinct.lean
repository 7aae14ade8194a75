import CrateBook.Json.Reader
import CrateBook.Proofs.Json.Members

/-!
# What is read has distinct keys

The reader collects the members of an object in the order in which they are written and closes the
object with the last value of each key. So every object in a value that was read has distinct keys,
`hasDistinctKeys_of_read?`: all values in an open container have distinct keys, and one character
keeps that.
-/

namespace CrateBook.Json

/-- The keys of every object in the value are distinct. -/
inductive HasDistinctKeys : Json → Prop
  | null : HasDistinctKeys .null
  | bool (b : Bool) : HasDistinctKeys (.bool b)
  | int (n : Int) : HasDistinctKeys (.int n)
  | decimal (text : String) : HasDistinctKeys (.decimal text)
  | str (s : String) : HasDistinctKeys (.str s)
  | arr {vs : List Json} (h : ∀ v ∈ vs, HasDistinctKeys v) : HasDistinctKeys (.arr vs)
  | obj {ms : List (String × Json)} (hkeys : (ms.map (·.1)).Nodup)
      (h : ∀ m ∈ ms, HasDistinctKeys m.2) : HasDistinctKeys (.obj ms)

namespace HasDistinctKeys

variable {v : Json} {key : String} {ms : List (String × Json)}

theorem nodup (h : HasDistinctKeys (.obj ms)) : (ms.map (·.1)).Nodup := by
  cases h with
  | obj hkeys _ => exact hkeys

theorem of_get? {w : Json} (h : HasDistinctKeys v) (hw : v.get? key = some w) :
    HasDistinctKeys w := by
  cases h with
  | obj hkeys h => exact h (key, w) ((lookup_eq_some_iff_mem hkeys).1 hw)
  | _ => cases hw

/-- The last values of members that were written one after another are among the members. -/
theorem object (h : ∀ m ∈ ms, HasDistinctKeys m.2) : HasDistinctKeys (object ms) := by
  have hkeys : ((setMembers ms []).map (·.1)).Nodup := nodup_keys_setMembers List.nodup_nil
  refine obj hkeys fun m hm => ?_
  rcases mem_of_lookup_setMembers ((lookup_eq_some_iff_mem hkeys).2 hm) with hm | ⟨_, hm⟩
  · exact h m hm
  · cases hm

end HasDistinctKeys

namespace Reader

variable {s t : State} {c : Char} {v : Json} {frames : List Frame}

/-! ## Words -/

theorem hasDistinctKeys_of_number? {cs : List Char} (h : number? cs = some v) :
    v.HasDistinctKeys := by
  simp only [number?] at h
  -- the sign only decides which characters are digits
  split at h
  all_goals
    split at h
    · cases h
    split at h
    · cases h
      exact .int _
    · cases h
      exact .decimal _

theorem hasDistinctKeys_of_wordValue? {cs : List Char} (h : wordValue? cs = some v) :
    v.HasDistinctKeys := by
  simp only [wordValue?] at h
  split at h
  · cases h
    exact .null
  split at h
  · cases h
    exact .bool _
  split at h
  · cases h
    exact .bool _
  split at h
  · cases h
    exact .decimal _
  · exact hasDistinctKeys_of_number? h

/-! ## The invariant -/

/-- The values that an open container holds so far. -/
def Frame.values : Frame → List Json
  | .arr done => done
  | .obj done => done.map (·.2)
  | .field done _ => done.map (·.2)

/-- All values in open containers have distinct keys. -/
def AreDistinct (frames : List Frame) : Prop := ∀ f ∈ frames, ∀ v ∈ f.values, v.HasDistinctKeys

/-- All values that have been read have distinct keys. -/
structure IsDistinct (s : State) : Prop where
  frames : AreDistinct s.frames
  done : ∀ v, s.mode = .done v → v.HasDistinctKeys

theorem AreDistinct.tail (h : AreDistinct frames) : AreDistinct frames.tail :=
  fun f hf => h f (List.mem_of_mem_tail hf)

theorem AreDistinct.cons {f : Frame} (hf : ∀ v ∈ f.values, v.HasDistinctKeys)
    (h : AreDistinct frames) : AreDistinct (f :: frames) := List.forall_mem_cons.2 ⟨hf, h⟩

/-- Between values only the open containers count. -/
theorem AreDistinct.isDistinct {mode : Mode} (h : AreDistinct frames)
    (hmode : ∀ v, mode ≠ .done v) : IsDistinct ⟨frames, mode⟩ :=
  ⟨h, fun v hv => absurd hv (hmode v)⟩

theorem AreDistinct.isDistinct_done (h : AreDistinct frames) (hv : v.HasDistinctKeys) :
    IsDistinct ⟨frames, .done v⟩ :=
  ⟨h, fun w hw => by cases hw; exact hv⟩

theorem AreDistinct.startValue (h : AreDistinct frames) (hs : startValue frames c = some s) :
    IsDistinct s := by
  rw [Reader.startValue] at hs
  split at hs
  · cases hs
    exact h.isDistinct (by simp)
  split at hs
  · cases hs
    exact (h.cons (by simp [Frame.values])).isDistinct (by simp)
  split at hs
  · cases hs
    exact (h.cons (by simp [Frame.values])).isDistinct (by simp)
  split at hs
  · cases hs
    exact h.isDistinct (by simp)
  · cases hs

/-- A value that ends joins the values of its container or closes it. -/
theorem AreDistinct.afterValue (h : AreDistinct frames) (hv : v.HasDistinctKeys)
    (hs : afterValue frames v c = some s) : IsDistinct s := by
  rw [Reader.afterValue.eq_def] at hs
  split at hs
  · cases hs
    exact h.isDistinct_done hv
  split at hs
  · rename_i items rest
    obtain ⟨hitems, hrest⟩ := List.forall_mem_cons.1 h
    have hall : ∀ w ∈ v :: items, w.HasDistinctKeys := List.forall_mem_cons.2 ⟨hv, hitems⟩
    split at hs
    · cases hs
      exact AreDistinct.isDistinct (.cons hall hrest) (by simp)
    split at hs
    · cases hs
      exact AreDistinct.isDistinct_done hrest (.arr fun w hw => hall w (List.mem_reverse.1 hw))
    · cases hs
  · rename_i members key rest
    obtain ⟨hmembers, hrest⟩ := List.forall_mem_cons.1 h
    have hall : ∀ m ∈ (key, v) :: members, m.2.HasDistinctKeys :=
      List.forall_mem_cons.2 ⟨hv, fun m hm => hmembers m.2 (List.mem_map_of_mem hm)⟩
    split at hs
    · cases hs
      refine AreDistinct.isDistinct (.cons (fun w hw => ?_) hrest) (by simp)
      obtain ⟨m, hm, rfl⟩ := List.mem_map.1 hw
      exact hall m hm
    split at hs
    · cases hs
      exact AreDistinct.isDistinct_done hrest (.object fun m hm => hall m (List.mem_reverse.1 hm))
    · cases hs
  · cases hs

theorem AreDistinct.endText (h : AreDistinct frames) (isKey : Bool) (units : List Nat) :
    IsDistinct (endText frames isKey units) := by
  cases isKey with
  | true => exact h.isDistinct (by simp)
  | false => exact h.isDistinct_done (.str _)

/-- One character keeps keys distinct. -/
theorem IsDistinct.step (h : IsDistinct s) (hs : step s c = some t) : IsDistinct t := by
  obtain ⟨frames, mode⟩ := s
  have hf : AreDistinct frames := h.frames
  cases mode with
  | value =>
    simp only [Reader.step] at hs
    split at hs
    · cases hs
      exact h
    · exact hf.startValue hs
  | firstItem =>
    simp only [Reader.step] at hs
    split at hs
    · cases hs
      exact h
    split at hs
    · cases hs
      exact hf.tail.isDistinct_done (.arr (by simp))
    · exact hf.startValue hs
  | firstKey =>
    simp only [Reader.step] at hs
    split at hs
    · cases hs
      exact h
    split at hs
    · cases hs
      exact hf.tail.isDistinct_done (.obj (by simp) (by simp))
    split at hs
    · cases hs
      exact hf.isDistinct (by simp)
    · cases hs
  | key =>
    simp only [Reader.step] at hs
    split at hs
    · cases hs
      exact h
    split at hs
    · cases hs
      exact hf.isDistinct (by simp)
    · cases hs
  | colon key =>
    simp only [Reader.step] at hs
    split at hs
    · cases hs
      exact h
    split at hs
    · split at hs
      · cases hs
        obtain ⟨hmembers, hrest⟩ := List.forall_mem_cons.1 hf
        exact AreDistinct.isDistinct (.cons hmembers hrest) (by simp)
      · cases hs
    · cases hs
  | text isKey units =>
    simp only [Reader.step] at hs
    split at hs
    · cases hs
      exact hf.endText isKey units
    split at hs
    · cases hs
      exact hf.isDistinct (by simp)
    split at hs
    · cases hs
    · cases hs
      exact hf.isDistinct (by simp)
  | escape isKey units =>
    simp only [Reader.step] at hs
    split at hs
    · cases hs
      exact hf.isDistinct (by simp)
    · obtain ⟨u, _, rfl⟩ := Option.map_eq_some_iff.1 hs
      exact hf.isDistinct (by simp)
  | hex isKey units missing unit =>
    obtain ⟨d, _, rfl⟩ := Option.map_eq_some_iff.1 hs
    refine hf.isDistinct fun v => ?_
    split <;> simp
  | word chars =>
    simp only [Reader.step] at hs
    split at hs
    · cases hs
      exact hf.isDistinct (by simp)
    · obtain ⟨v, hv, hs⟩ := Option.bind_eq_some_iff.1 hs
      exact hf.afterValue (hasDistinctKeys_of_wordValue? hv) hs
  | done v => exact hf.afterValue (h.done v rfl) hs

theorem IsDistinct.run {cs : List Char} (h : IsDistinct s) (hs : run s cs = some t) :
    IsDistinct t := by
  induction cs generalizing s with
  | nil =>
    cases hs
    exact h
  | cons c cs ih =>
    rw [Reader.run, List.foldlM_cons] at hs
    obtain ⟨u, hu, hs⟩ := Option.bind_eq_some_iff.1 hs
    exact ih (h.step hu) hs

theorem IsDistinct.finish? (h : IsDistinct s) (hv : finish? s = some v) : v.HasDistinctKeys := by
  obtain ⟨frames, mode⟩ := s
  rw [Reader.finish?.eq_def] at hv
  split at hv
  · rename_i hmode
    cases hv
    exact h.done v hmode
  · exact hasDistinctKeys_of_wordValue? hv
  · cases hv

end Reader

/-- Every object in a value that was read has distinct keys. -/
theorem hasDistinctKeys_of_read? {text : String} {v : Json} (h : read? text = some v) :
    v.HasDistinctKeys := by
  obtain ⟨s, hs, hv⟩ := Option.bind_eq_some_iff.1 h
  have hstart : Reader.IsDistinct ⟨[], .value⟩ := ⟨by simp [Reader.AreDistinct], by simp⟩
  exact (hstart.run hs).finish? hv

end CrateBook.Json
