import CrateBook.Proofs.Disk.Place

/-!
# Writing through a draft

A file is written in full or not at all because its bytes go to a draft first, a new file beside it,
which is then moved to its place. The system may refuse any step of this; a draft that has been made
is then removed again. Where nothing is refused, `writeThrough` leaves what `writeBytes` leaves
(`entry?_writeThrough`). Where something is, no file has changed, the draft is gone, and at most
directories have been made (`RefusesWrite.grows`).
-/

namespace CrateBook.Disk

/-- A step of writing a file that the system refuses. -/
inductive Refusal where
  /-- Only some of the directories are made, counted from the start of the path. -/
  | directories (made : Nat)
  /-- No draft is made. -/
  | draft
  /-- The draft takes only some bytes. -/
  | bytes (taken : ByteArray)
  /-- The draft is not moved. -/
  | move

/-- The name of a draft, which differs from all others in some letters. -/
def draftName (name letters : String) : String := "." ++ name ++ "." ++ letters ++ ".tmp"

def draftPlace (p : Path) (letters : String) : List String :=
  p.parent.place ++ [draftName p.name letters]

/-- The disk with a new draft that holds some bytes. -/
def putDraft (d : Disk) (draft : List String) (bytes : ByteArray) : Disk :=
  (d.put draft (.file .empty)).put draft (.file bytes)

/-- The disk with the directories around a file, as far as they are made; false when they are not
all there. -/
def prepare (d : Disk) (p : Path) : Option Refusal → Disk × Bool
  | some (.directories made) =>
    ((d.makeDirectoriesFrom (start p) (p.parent.parts.take made)).1, false)
  | _ => d.makeDirectories p.parent

/-- The disk after a draft has been written and moved to the place of a file, or removed again. -/
def moveDraft (d : Disk) (p : Path) (bytes : ByteArray) (draft : List String) :
    Option Refusal → Disk × Bool
  | some (.directories _) | some .draft => (d, false)
  | some (.bytes taken) => ((d.putDraft draft taken).erase draft, false)
  | some .move => ((d.putDraft draft bytes).erase draft, false)
  | none =>
    if fits p then
      match (d.putDraft draft bytes).walk p with
      | .error _ => ((d.putDraft draft bytes).erase draft, false)
      | .ok place =>
        match Disk.entry? (d.putDraft draft bytes) place with
        | some .directory => ((d.putDraft draft bytes).erase draft, false)
        | _ => (((d.putDraft draft bytes).erase draft).put place (.file bytes), true)
    else (d, false)

/-- The disk after a file is written through a draft, with the directories around it made; false
when the file cannot be written or a step is refused. -/
def writeThrough (d : Disk) (p : Path) (bytes : ByteArray) (letters : String)
    (refusal : Option Refusal) : Disk × Bool :=
  match d.prepare p refusal with
  | (d, false) => (d, false)
  | (d, true) => d.moveDraft p bytes (draftPlace p letters) refusal

/-- There is nothing at the place of the draft when it is made. -/
def IsNewDraft (d : Disk) (p : Path) (letters : String) : Prop :=
  Disk.entry? (d.makeDirectories p.parent).1 (draftPlace p letters) = none

/-- Writing the bytes, with a step that the system refuses, leaves a disk. -/
def RefusesWrite (d : Disk) (p : Path) (bytes : ByteArray) (d' : Disk) : Prop :=
  ∃ letters refusal, d.IsNewDraft p letters ∧
    d.writeThrough p bytes letters (some refusal) = (d', false)

variable {d d' : Disk} {p : Path} {bytes taken : ByteArray} {letters : String}
  {draft place names r : List String}

/-! ## Drafts -/

theorem draftPlace_injective (p : Path) : Function.Injective (draftPlace p) := by
  intro letters letters' h
  have hname := List.singleton_inj.1 (List.append_cancel_left h)
  simpa [draftName, ← String.toList_inj] using hname

theorem isAround_draftPlace (p : Path) (letters : String) :
    isAround (draftPlace p letters) = false := by
  have hname (s : String) (hs : s.toList.length < 5) : draftName p.name letters ≠ s := by
    intro h
    have hlen := congrArg List.length (congrArg String.toList h)
    simp [draftName] at hlen
    omega
  rw [isAround, Bool.or_eq_false_iff, beq_eq_false_iff_ne, List.all_eq_false]
  refine ⟨fun h => ?_, draftName p.name letters, by simp [draftPlace], ?_⟩
  · have hlast := congrArg List.getLast? h
    rw [draftPlace, List.getLast?_append] at hlast
    exact hname "/" (by decide) (by simpa using hlast)
  · simpa using hname ".." (by decide)

theorem exists_isNewDraft (d : Disk) (p : Path) : ∃ letters, d.IsNewDraft p letters := by
  -- The entries on the disk rule out only finitely many letters.
  have hinfinite : Infinite String :=
    .of_injective String.ofList fun _ _ h => String.ofList_injective h
  obtain ⟨letters, hnew⟩ := (((d.makeDirectories p.parent).1.entries.map (·.1)).toFinset.preimage
    (draftPlace p) (draftPlace_injective p).injOn).exists_notMem
  refine ⟨letters, ?_⟩
  rw [IsNewDraft, entry?_eq, isAround_draftPlace, if_neg Bool.false_ne_true,
    List.lookup_eq_none_iff]
  intro e he
  rw [bne_iff_ne]
  rintro heq
  refine hnew (Finset.mem_preimage.2 (List.mem_toFinset.2 (heq ▸ List.mem_map_of_mem he)))

theorem entry?_putDraft (h : d.entry? draft = none) (taken : ByteArray) :
    entry? (d.putDraft draft taken) r = if r = draft then some (.file taken) else d.entry? r := by
  have ha := isAround_of_entry?_ne (d := d) (r := draft) (by simp [h])
  rw [putDraft, entry?_put ha, entry?_put ha]
  split <;> rfl

theorem entry?_erase_putDraft (h : d.entry? draft = none) (taken : ByteArray) :
    entry? ((d.putDraft draft taken).erase draft) r = d.entry? r := by
  have ha := isAround_of_entry?_ne (d := d) (r := draft) (by simp [h])
  rw [entry?_erase ha, entry?_putDraft h]
  split
  · rename_i hr
    rw [hr, h]
  · rfl

theorem entry?_putDraft_eq_directory (h : d.entry? draft = none) (taken : ByteArray) :
    entry? (d.putDraft draft taken) r = some .directory ↔ d.entry? r = some .directory := by
  rw [entry?_putDraft h]
  split
  · rename_i hr
    simp [hr, h]
  · rfl

/-- A draft is no step on any way. -/
theorem walk_putDraft (h : d.entry? draft = none) (taken : ByteArray) :
    (d.putDraft draft taken).walk p = .ok place ↔ d.walk p = .ok place :=
  ⟨KeepsDirectories.walk fun _ => (entry?_putDraft_eq_directory h taken).1,
    KeepsDirectories.walk fun _ => (entry?_putDraft_eq_directory h taken).2⟩

/-! ## Nothing is refused -/

theorem entry?_of_ne_directory (h : d.entry? r ≠ some .directory) :
    d.entry? r = none ∨ ∃ bytes, d.entry? r = some (.file bytes) := by
  rcases hentry : d.entry? r with _ | e
  · exact .inl rfl
  · cases e with
    | directory => exact absurd hentry h
    | file bytes => exact .inr ⟨bytes, rfl⟩

theorem entry?_writeThrough (h : d.IsNewDraft p letters) (bytes : ByteArray) :
    (d.writeThrough p bytes letters none).2 = (d.writeBytes p bytes).2 ∧
      ∀ r, entry? (d.writeThrough p bytes letters none).1 r =
        entry? (d.writeBytes p bytes).1 r := by
  rw [IsNewDraft] at h
  rw [writeThrough, writeBytes, show d.prepare p none = d.makeDirectories p.parent from rfl]
  generalize d.makeDirectories p.parent = prepared at h ⊢
  obtain ⟨d₁, made⟩ := prepared
  cases made with
  | false => exact ⟨rfl, fun _ => rfl⟩
  | true =>
    dsimp only at h ⊢
    have herase (r : List String) := entry?_erase_putDraft (r := r) h bytes
    rw [moveDraft]
    cases hwalk : d₁.walk p with
    | error o =>
      -- The path cannot be walked with the draft either.
      have hdrafted : ∃ o', (d₁.putDraft (draftPlace p letters) bytes).walk p = .error o' := by
        cases hd : (d₁.putDraft (draftPlace p letters) bytes).walk p with
        | error o' => exact ⟨o', rfl⟩
        | ok place =>
          rw [walk_putDraft h, hwalk] at hd
          cases hd
      obtain ⟨o', hdrafted⟩ := hdrafted
      rw [hdrafted]
      split
      · exact ⟨rfl, herase⟩
      · exact ⟨rfl, fun _ => rfl⟩
    | ok place =>
      rw [(walk_putDraft h bytes).2 hwalk]
      dsimp only
      by_cases hplace : d₁.entry? place = some .directory
      · rw [hplace, (entry?_putDraft_eq_directory h bytes).2 hplace]
        split
        · exact ⟨rfl, herase⟩
        · exact ⟨rfl, fun _ => rfl⟩
      · have ha := isAround_of_entry?_ne hplace
        have hdrafted := mt (entry?_putDraft_eq_directory h bytes).1 hplace
        have hsame (r : List String) :
            entry? (((d₁.putDraft (draftPlace p letters) bytes).erase (draftPlace p letters)).put
              place (.file bytes)) r = entry? (d₁.put place (.file bytes)) r := by
          rw [entry?_put ha, entry?_put ha, herase]
        rcases entry?_of_ne_directory hplace with he | ⟨_, he⟩ <;>
          rcases entry?_of_ne_directory hdrafted with hd | ⟨_, hd⟩ <;> rw [he, hd] <;> dsimp only
        all_goals
          by_cases hfits : fits p = true
          · rw [if_pos hfits, if_pos hfits]
            exact ⟨rfl, hsame⟩
          · rw [if_neg hfits, if_neg hfits]
            exact ⟨rfl, fun _ => rfl⟩

/-! ## A step is refused -/

theorem Grows.mono {places places' : List (List String)} (h : Grows places d d')
    (hsub : ∀ q ∈ places, q ∈ places') : Grows places' d d' :=
  fun r => (h r).imp_right fun ⟨hr, hrest⟩ => ⟨hsub r hr, hrest⟩

theorem Grows.congr {places : List (List String)} {d'' : Disk} (h : Grows places d d')
    (hsame : ∀ r, d''.entry? r = d'.entry? r) : Grows places d d'' := by
  intro r
  rw [hsame r]
  exact h r

theorem visited_take_subset (place names : List String) (n : Nat) :
    ∀ q ∈ visited place (names.take n), q ∈ visited place names := by
  intro q hq
  rw [← List.take_append_drop n names, visited_append]
  exact List.mem_append_left _ hq

theorem grows_prepare (d : Disk) (p : Path) (refusal : Option Refusal) :
    Grows (visited (start p) p.parent.parts) d (d.prepare p refusal).1 := by
  rw [prepare.eq_def]
  split
  · exact (grows_makeDirectoriesFrom d (start p) _).mono (visited_take_subset _ _ _)
  · exact grows_makeDirectories d p.parent

/-- A write that is refused makes at most directories on the way to the file. -/
theorem RefusesWrite.grows (h : d.RefusesWrite p bytes d') :
    Grows (visited (start p) p.parent.parts) d d' := by
  obtain ⟨letters, refusal, hnew, hwrite⟩ := h
  have hmade := grows_prepare d p (some refusal)
  rw [writeThrough] at hwrite
  rcases hd : d.prepare p (some refusal) with ⟨d₁, made⟩
  rw [hd] at hmade hwrite
  cases made with
  | false => cases hwrite; exact hmade
  | true =>
    dsimp only at hwrite
    have hnew (hsame : d.prepare p (some refusal) = d.makeDirectories p.parent) :
        d₁.entry? (draftPlace p letters) = none := by
      rw [IsNewDraft, ← hsame, hd] at hnew
      exact hnew
    cases refusal with
    | directories n => cases hd
    | draft => cases hwrite; exact hmade
    | bytes taken =>
      cases hwrite
      exact hmade.congr fun _ => entry?_erase_putDraft (hnew rfl) taken
    | move =>
      cases hwrite
      exact hmade.congr fun _ => entry?_erase_putDraft (hnew rfl) bytes

/-- The system may refuse any write at once. -/
theorem refusesWrite_self (d : Disk) (p : Path) (bytes : ByteArray) :
    d.RefusesWrite p bytes d := by
  obtain ⟨letters, hnew⟩ := exists_isNewDraft d p
  exact ⟨letters, .directories 0, hnew, rfl⟩

end CrateBook.Disk
