import CrateBook.Corpus.Change
import CrateBook.Proofs.Disk.Place

/-!
# Changes made one after another

When no change fails, a file holds what the last change that touches its place has written there:
`file?_applyAll` is about a place that no change touches, `find_of_write` about one that is written
and touched no more. Directories stay (`keeps_applyAll`), so what could be walked to still can. The
files of a build are written in the order of their names (`fileChanges_split`).
-/

namespace CrateBook.Corpus

variable {d d' : Disk} {c : Change} {cs ds : List Change} {p : Path} {t : String}
  {r : List String} {f : Failure} {ns : List Notice}

/-- The change writes or removes the file at a place. -/
def Change.Touches (r : List String) : Change → Prop
  | .write p _ => p.place = r
  | .remove p => p.place = r
  | .report _ => False
  | .fail _ => False

/-- The places where the change may make a directory. -/
def Change.visited : Change → List (List String)
  | .write p _ => Disk.visited (Disk.start p) p.parent.parts
  | _ => []

/-- The change fails so on a disk. -/
inductive Change.FailsWith (d : Disk) : Change → Failure → Prop
  | write (p : Path) (t : String) : FailsWith d (.write p t) (d.writeFailure p)
  | directory {p : Path} (h : d.find p = .ok .directory) :
      FailsWith d (.remove p) (.fault (.isDirectory p.toString))
  | tooLong {p : Path} (h : d.find p = .error .tooLong) :
      FailsWith d (.remove p) (.fault (.nameTooLong p.toString))
  | fail (f : Failure) : FailsWith d (.fail f) f

/-! ## One change -/

theorem apply_write (d : Disk) (p : Path) (t : String) :
    (Change.write p t).apply d =
      ((d.writeBytes p (Text.Utf8.encode t)).1,
        if (d.writeBytes p (Text.Utf8.encode t)).2 then .ok []
        else .error (d.writeFailure p)) := by
  rw [Change.apply, Disk.write]
  cases d.writeBytes p (Text.Utf8.encode t) with
  | mk d' ok => cases ok <;> rfl

/-- What comes of a removal. -/
theorem apply_remove_cases (d : Disk) (p : Path) :
    (∃ d', d.remove p = .ok d' ∧ (Change.remove p).apply d = (d', .ok [])) ∨
      ∃ f, d.remove p = .error f ∧ (Change.remove p).apply d = (d, .error (.fault f)) := by
  cases h : d.remove p with
  | ok d' => exact .inl ⟨d', rfl, by rw [Change.apply, h]⟩
  | error f => exact .inr ⟨f, rfl, by rw [Change.apply, h]⟩

theorem keeps_apply (d : Disk) (c : Change) : d.KeepsDirectories (c.apply d).1 := by
  cases c with
  | write p t =>
    rw [apply_write]
    exact Disk.keeps_writeBytes d p (Text.Utf8.encode t)
  | remove p =>
    obtain ⟨d', hr, h⟩ | ⟨f, -, h⟩ := apply_remove_cases d p <;> rw [h]
    · exact Disk.keeps_remove hr
    · exact .refl _
  | report n => exact .refl _
  | fail f => exact .refl _

theorem file?_apply (h : ¬c.Touches r) : (c.apply d).1.file? r = d.file? r := by
  cases c with
  | write p t =>
    rw [apply_write]
    exact (Disk.file?_writeBytes d p _ r).trans (if_neg fun hc => h hc.2)
  | remove p =>
    obtain ⟨d', hr, happly⟩ | ⟨f, -, happly⟩ := apply_remove_cases d p <;> rw [happly]
    exact Disk.file?_remove hr h
  | report n => rfl
  | fail f => rfl

theorem directory_apply (h : Disk.entry? (c.apply d).1 r = some .directory) :
    d.entry? r = some .directory ∨ r ∈ c.visited := by
  cases c with
  | write p t =>
    rw [apply_write] at h
    exact Disk.directory_writeBytes h
  | remove p =>
    obtain ⟨d', hr, happly⟩ | ⟨f, -, happly⟩ := apply_remove_cases d p <;> rw [happly] at h
    · exact .inl (Disk.entry?_remove hr h)
    · exact .inl h
  | report n => exact .inl h
  | fail f => exact .inl h

theorem failsWith_of_apply (h : c.apply d = (d', .error f)) : c.FailsWith d f := by
  cases c with
  | write p t =>
    rw [apply_write] at h
    obtain ⟨-, hf⟩ := Prod.mk.inj h
    split at hf
    · cases hf
    · obtain rfl := Except.error.inj hf
      exact .write p t
  | remove p =>
    obtain ⟨_, _, happly⟩ | ⟨fault, hremove, happly⟩ := apply_remove_cases d p <;>
      rw [happly] at h <;> cases h
    rcases Disk.remove_error hremove with ⟨hfind, rfl⟩ | ⟨hfind, rfl⟩
    · exact .directory hfind
    · exact .tooLong hfind
  | report n => cases h
  | fail f' =>
    cases h
    exact .fail f

/-- A removal that fails changes nothing. -/
theorem find_of_remove_error (h : (Change.remove p).apply d = (d', .error f)) (q : Path) :
    d'.find q = d.find q := by
  obtain ⟨_, _, happly⟩ | ⟨_, _, happly⟩ := apply_remove_cases d p <;> rw [happly] at h <;> cases h
  rfl

/-! ## All changes -/

theorem applyAll_cons_ok (h : c.apply d = (d', .ok ns)) :
    applyAll d (c :: cs) = { applyAll d' cs with notices := ns ++ (applyAll d' cs).notices } := by
  rw [applyAll, h]

theorem applyAll_cons_error (h : c.apply d = (d', .error f)) :
    applyAll d (c :: cs) = ⟨d', [], some f⟩ := by
  rw [applyAll, h]

theorem applyAll_append (ds : List Change) (h : (applyAll d cs).failure = none) :
    (applyAll d (cs ++ ds)).disk = (applyAll (applyAll d cs).disk ds).disk ∧
      (applyAll d (cs ++ ds)).failure = (applyAll (applyAll d cs).disk ds).failure := by
  induction cs generalizing d with
  | nil => exact ⟨rfl, rfl⟩
  | cons c cs ih =>
    rw [List.cons_append]
    rcases ha : c.apply d with ⟨d', ns | ns⟩
    · rw [applyAll_cons_error ha] at h
      cases h
    · rw [applyAll_cons_ok ha] at h ⊢
      rw [applyAll_cons_ok ha]
      exact ih h

theorem failure_of_append (h : (applyAll d (cs ++ ds)).failure = none) :
    (applyAll d cs).failure = none := by
  induction cs generalizing d with
  | nil => rfl
  | cons c cs ih =>
    rw [List.cons_append] at h
    rcases ha : c.apply d with ⟨d', f | ns⟩
    · rw [applyAll_cons_error ha] at h
      cases h
    · rw [applyAll_cons_ok ha] at h ⊢
      exact ih h

/-- What each change keeps is kept by all of them, whether or not a failure ends them. -/
theorem applyAll_keeps {P : Disk → Prop} (hstep : ∀ c ∈ cs, ∀ d, P d → P (c.apply d).1) (h : P d) :
    P (applyAll d cs).disk := by
  induction cs generalizing d with
  | nil => exact h
  | cons c cs ih =>
    obtain ⟨hc, hrest⟩ := List.forall_mem_cons.1 hstep
    have happly := hc d h
    rcases ha : c.apply d with ⟨d', f | ns⟩ <;> rw [ha] at happly
    · rw [applyAll_cons_error ha]
      exact happly
    · rw [applyAll_cons_ok ha]
      exact ih hrest happly

theorem keeps_applyAll (d : Disk) (cs : List Change) : d.KeepsDirectories (applyAll d cs).disk := by
  apply applyAll_keeps (P := d.KeepsDirectories)
  · intro c _ d' h
    exact h.trans (keeps_apply d' c)
  · exact .refl d

/-- A file that no change touches stays as it is. -/
theorem file?_applyAll (h : ∀ c ∈ cs, ¬c.Touches r) : (applyAll d cs).disk.file? r = d.file? r := by
  apply applyAll_keeps (P := fun d' => d'.file? r = d.file? r)
  · intro c hc d' hd
    exact (file?_apply (h c hc)).trans hd
  · rfl

/-- A directory was one before, or it lies on the way to what is to be written. -/
theorem directory_applyAll (h : Disk.entry? (applyAll d cs).disk r = some .directory) :
    d.entry? r = some .directory ∨ ∃ c ∈ cs, r ∈ c.visited := by
  induction cs generalizing d with
  | nil => exact .inl h
  | cons c cs ih =>
    have hfirst (hdir : Disk.entry? (c.apply d).1 r = some .directory) :
        d.entry? r = some .directory ∨ ∃ c' ∈ c :: cs, r ∈ c'.visited :=
      (directory_apply hdir).imp_right fun hv => ⟨c, List.mem_cons_self, hv⟩
    rcases ha : c.apply d with ⟨d', f | ns⟩
    · rw [applyAll_cons_error ha] at h
      exact hfirst (by rwa [ha])
    · rw [applyAll_cons_ok ha] at h
      rcases ih h with hdir | ⟨c', hc', hv⟩
      · exact hfirst (by rwa [ha])
      · exact .inr ⟨c', List.mem_cons_of_mem _ hc', hv⟩

/-- A failure is that of one of the changes, on the disk that those before it leave. -/
theorem exists_failsWith (h : (applyAll d cs).failure = some f) :
    ∃ done c rest, cs = done ++ c :: rest ∧ (applyAll d done).failure = none ∧
      c.FailsWith (applyAll d done).disk f ∧
      c.apply (applyAll d done).disk = ((applyAll d cs).disk, .error f) := by
  induction cs generalizing d with
  | nil => cases h
  | cons c cs ih =>
    rcases ha : c.apply d with ⟨d', f' | ns⟩
    · rw [applyAll_cons_error ha] at h ⊢
      obtain rfl := Option.some.inj h
      exact ⟨[], c, cs, rfl, rfl, failsWith_of_apply ha, ha⟩
    · rw [applyAll_cons_ok ha] at h ⊢
      obtain ⟨done, c', rest, rfl, hok, hf, hc'⟩ := ih h
      refine ⟨c :: done, c', rest, rfl, ?_, ?_, ?_⟩ <;> rwa [applyAll_cons_ok ha]

/-- A write is made when no change fails. -/
theorem apply_write_ok (h : (applyAll d (.write p t :: ds)).failure = none) :
    (d.writeBytes p (Text.Utf8.encode t)).2 = true ∧
      (Change.write p t).apply d = ((d.writeBytes p (Text.Utf8.encode t)).1, .ok []) := by
  cases hw : (d.writeBytes p (Text.Utf8.encode t)).2 with
  | false =>
    have ha := apply_write d p t
    rw [hw, if_neg Bool.false_ne_true] at ha
    rw [applyAll_cons_error ha] at h
    cases h
  | true =>
    have ha := apply_write d p t
    rw [hw, if_pos rfl] at ha
    exact ⟨rfl, ha⟩

/-- What is written and touched no more is found when all changes are made. -/
theorem find_of_write (h : (applyAll d (cs ++ .write p t :: ds)).failure = none)
    (hds : ∀ c ∈ ds, ¬c.Touches p.place) :
    (applyAll d (cs ++ .write p t :: ds)).disk.find p = .ok (.file (Text.Utf8.encode t)) := by
  have hpre := failure_of_append h
  obtain ⟨hdisk, hfailure⟩ := applyAll_append (.write p t :: ds) hpre
  rw [hfailure] at h
  rw [hdisk]
  obtain ⟨hw, ha⟩ := apply_write_ok h
  rw [applyAll_cons_ok ha]
  refine Disk.find_eq_file.2 ⟨(keeps_applyAll _ ds).walk (Disk.walk_writeBytes hw), ?_⟩
  rw [file?_applyAll hds, Disk.file?_writeBytes, if_pos ⟨hw, rfl⟩]

/-- What has been written can be walked to when all changes are made. -/
theorem walk_of_write (h : (applyAll d cs).failure = none) (hmem : .write p t ∈ cs) :
    (applyAll d cs).disk.walk p = .ok p.place := by
  obtain ⟨before, after, rfl⟩ := List.append_of_mem hmem
  obtain ⟨hdisk, hfailure⟩ := applyAll_append (.write p t :: after) (failure_of_append h)
  rw [hfailure] at h
  rw [hdisk]
  obtain ⟨hw, ha⟩ := apply_write_ok h
  rw [applyAll_cons_ok ha]
  exact (keeps_applyAll _ after).walk (Disk.walk_writeBytes hw)

/-! ## Files of a build -/

/-- Of the members with a property one is the last. -/
theorem exists_last {α : Type} {p : α → Prop} {l : List α} (h : ∃ a ∈ l, p a) :
    ∃ before a after, l = before ++ a :: after ∧ p a ∧ ∀ b ∈ after, ¬p b := by
  induction l with
  | nil => simp at h
  | cons first l ih =>
    by_cases hrest : ∃ a ∈ l, p a
    · obtain ⟨before, a, after, rfl, ha, hafter⟩ := ih hrest
      exact ⟨first :: before, a, after, rfl, ha, hafter⟩
    · obtain ⟨a, hmem, ha⟩ := h
      rcases List.mem_cons.1 hmem with rfl | hmem
      · exact ⟨[], a, l, rfl, ha, fun b hb hpb => hrest ⟨b, hb, hpb⟩⟩
      · exact absurd ⟨a, hmem, ha⟩ hrest

theorem fileChanges_split (out : Path) (r : List String)
    {files before after : List (String × String)} {file : String × String}
    (h : (files.mergeSort fun a b => Text.le a.1 b.1) = before ++ file :: after) :
    ∃ cs ds, fileChanges out files = cs ++ .write (out.child file.1) file.2 :: ds ∧
      ∀ c ∈ ds, c.Touches r → ∃ file' ∈ after, (out.child file'.1).place = r := by
  rw [fileChanges]
  dsimp only
  rw [h, List.zipIdx_append, List.flatMap_append, List.zipIdx_cons, List.flatMap_cons,
    List.cons_append]
  refine ⟨_, _, rfl, fun c hc ht => ?_⟩
  rcases List.mem_append.1 hc with hc | hc
  · split at hc
    · rw [List.mem_singleton.1 hc] at ht
      exact ht.elim
    · cases hc
  · obtain ⟨⟨file', place⟩, hmem, hc⟩ := List.mem_flatMap.1 hc
    rcases List.mem_cons.1 hc with rfl | hc
    · exact ⟨file', List.fst_mem_of_mem_zipIdx hmem, ht⟩
    · split at hc
      · rw [List.mem_singleton.1 hc] at ht
        exact ht.elim
      · cases hc

theorem mem_fileChanges {out : Path} {files : List (String × String)}
    (hc : c ∈ fileChanges out files) :
    (∃ file ∈ files, c = .write (out.child file.1) file.2) ∨ ∃ n, c = .report n := by
  obtain ⟨⟨file, place⟩, hmem, hc⟩ := List.mem_flatMap.1 hc
  rcases List.mem_cons.1 hc with rfl | hc
  · have hfile := (List.mergeSort_perm _ _).mem_iff.1 (List.fst_mem_of_mem_zipIdx hmem)
    exact .inl ⟨file, hfile, rfl⟩
  · split at hc
    · exact .inr ⟨_, List.mem_singleton.1 hc⟩
    · cases hc

theorem write_mem_fileChanges (out : Path) {files : List (String × String)}
    {file : String × String} (h : file ∈ files) :
    .write (out.child file.1) file.2 ∈ fileChanges out files := by
  have hperm : (files.mergeSort fun a b => Text.le a.1 b.1).Perm files := List.mergeSort_perm _ _
  obtain ⟨before, after, hsort⟩ := List.append_of_mem (hperm.mem_iff.2 h)
  obtain ⟨cs, ds, hsplit, -⟩ := fileChanges_split out [] hsort
  rw [hsplit]
  exact List.mem_append_right _ List.mem_cons_self

end CrateBook.Corpus
