import CrateBook.Proofs.Corpus.Unobstructed
import CrateBook.Proofs.Disk.Draft

/-!
# Changes that stop

Changes are made one after another, and the system may refuse any write. `Reaches` relates a disk to
those that are reached this way, between two changes or where a failure has ended them; the run that
meets no refusal is one of them (`reaches_applyAll`). A step lemma for each kind of change gives
what holds wherever the changes stop: which ones have been made (`Reaches.split`), what every file
is (`Reaches.file?_eq`), that what was written can be walked to (`Reaches.walk`), and which failures
there can be (`Reaches.stop`).
-/

namespace CrateBook.Corpus

open Text.Utf8 (encode)

/-- Making changes reaches a disk with some of them made, the first ones in their order. If a
failure is given, it has ended them there. The system may refuse any write. -/
inductive Reaches : Disk → List Change → List Change → Option Failure → Disk → Prop
  | here (d : Disk) (cs : List Change) : Reaches d cs [] none d
  | made {d d₁ d' : Disk} {c : Change} {cs done : List Change} {ns : List Notice}
      {f : Option Failure} (h : c.apply d = (d₁, .ok ns)) (hrest : Reaches d₁ cs done f d') :
      Reaches d (c :: cs) (c :: done) f d'
  | fails {d d' : Disk} {c : Change} {f : Failure} (h : c.apply d = (d', .error f))
      (cs : List Change) : Reaches d (c :: cs) [] (some f) d'
  | refused {d d' : Disk} {p : Path} {text : String} (h : d.RefusesWrite p (encode text) d')
      (reason : String) (cs : List Change) :
      Reaches d (.write p text :: cs) [] (some (.problem (.writeFailed p.toString reason))) d'

variable {d d' : Disk} {c : Change} {cs done done' : List Change} {p : Path} {t : String}
  {r : List String} {f : Failure} {o : Option Failure}

/-! ## What is written -/

/-- The path and the text of a write. -/
def Change.written? : Change → Option (Path × String)
  | .write p t => some (p, t)
  | _ => none

/-- The writes among changes. -/
def writes (cs : List Change) : List (Path × String) := cs.filterMap Change.written?

/-- The text of the last write at a place. -/
def lastText (r : List String) (ws : List (Path × String)) : Option String :=
  ((ws.filter fun w => w.1.place = r).getLast?).map (·.2)

variable {ws : List (Path × String)}

theorem mem_writes : (p, t) ∈ writes cs ↔ .write p t ∈ cs := by
  rw [writes, List.mem_filterMap]
  refine ⟨fun ⟨c, hc, hw⟩ => ?_, fun h => ⟨_, h, rfl⟩⟩
  cases c <;> cases hw
  exact hc

theorem writes_append (cs ds : List Change) : writes (cs ++ ds) = writes cs ++ writes ds :=
  List.filterMap_append

theorem lastText_append (r : List String) (ws ws' : List (Path × String)) :
    lastText r (ws ++ ws') = (lastText r ws').or (lastText r ws) := by
  rw [lastText, lastText, lastText, List.filter_append, List.getLast?_append]
  cases (ws'.filter fun w => w.1.place = r).getLast? <;> rfl

theorem mem_of_lastText (h : lastText r ws = some t) : ∃ p, (p, t) ∈ ws ∧ p.place = r := by
  obtain ⟨⟨p, t'⟩, hlast, rfl⟩ := Option.map_eq_some_iff.1 h
  have hmem := List.mem_filter.1 (List.mem_of_getLast? hlast)
  exact ⟨p, hmem.1, by simpa using hmem.2⟩

theorem lastText_eq_none (h : ∀ w ∈ ws, w.1.place ≠ r) : lastText r ws = none := by
  rw [lastText, List.filter_eq_nil_iff.2 (by simpa using h)]
  rfl

theorem exists_lastText (h : (p, t) ∈ ws) : ∃ t', lastText p.place ws = some t' := by
  cases hlast : lastText p.place ws with
  | some t' => exact ⟨t', rfl⟩
  | none =>
    rw [lastText, Option.map_eq_none_iff, List.getLast?_eq_none_iff,
      List.filter_eq_nil_iff] at hlast
    exact absurd (decide_eq_true rfl) (hlast _ h)

/-! ## What comes of one change -/

theorem file?_apply_ok {d₁ : Disk} {ns : List Notice} (h : c.apply d = (d₁, .ok ns))
    (hremove : ∀ p, c = .remove p → p.place ≠ r) :
    d₁.file? r = ((lastText r (writes [c])).map encode).or (d.file? r) := by
  by_cases ht : c.Touches r
  · cases c with
    | write p t =>
      rw [apply_write] at h
      obtain ⟨rfl, hok⟩ := Prod.mk.inj h
      have hw : (d.writeBytes p (encode t)).2 = true := by
        split at hok
        · assumption
        · cases hok
      have hplace : p.place = r := ht
      rw [Disk.file?_writeBytes, if_pos ⟨hw, hplace⟩]
      simp [lastText, writes, Change.written?, hplace]
    | remove p => exact absurd ht (hremove p rfl)
    | report n => exact ht.elim
    | fail f => exact ht.elim
  · have hsame := file?_apply (d := d) ht
    rw [h] at hsame
    rw [hsame, lastText_eq_none]
    · rfl
    · intro w hw
      obtain ⟨c', hc', hwritten⟩ := List.mem_filterMap.1 hw
      obtain rfl := List.mem_singleton.1 hc'
      cases c' <;> cases hwritten
      exact ht

/-- A file that is there after a change has been written by it or was there before. -/
theorem file?_of_apply_ok {d₁ : Disk} {ns : List Notice} {bytes : ByteArray}
    (h : c.apply d = (d₁, .ok ns)) (hfile : d₁.file? r = some bytes) :
    (∃ t, lastText r (writes [c]) = some t ∧ bytes = encode t) ∨
      lastText r (writes [c]) = none ∧ d.file? r = some bytes := by
  by_cases hremove : ∀ p, c = .remove p → p.place ≠ r
  · rw [file?_apply_ok h hremove] at hfile
    cases ht : lastText r (writes [c]) with
    | none =>
      rw [ht] at hfile
      exact .inr ⟨rfl, hfile⟩
    | some t =>
      rw [ht] at hfile
      exact .inl ⟨t, rfl, (Option.some.inj hfile).symm⟩
  · -- After a removal at the place a file is there only when another one was removed.
    push Not at hremove
    obtain ⟨p, rfl, hplace⟩ := hremove
    refine .inr ⟨rfl, ?_⟩
    obtain ⟨d₁, hremoved, happly⟩ | ⟨_, _, happly⟩ := apply_remove_cases d p <;>
      rw [happly] at h <;> cases h
    exact Disk.file?_eq_some.2 (Disk.entry?_remove hremoved (Disk.file?_eq_some.1 hfile))

theorem file?_apply_error (h : c.apply d = (d', .error f)) (r : List String) :
    d'.file? r = d.file? r := by
  cases c with
  | write p t =>
    rw [apply_write] at h
    obtain ⟨rfl, herror⟩ := Prod.mk.inj h
    rw [Disk.file?_writeBytes, if_neg]
    rintro ⟨hw, -⟩
    rw [hw, if_pos rfl] at herror
    cases herror
  | remove p =>
    obtain ⟨_, _, happly⟩ | ⟨_, _, happly⟩ := apply_remove_cases d p <;> rw [happly] at h <;>
      cases h
    rfl
  | report n => cases h
  | fail f' => cases h; rfl

/-! ## What is reached -/

/-- The run that the system lets through is one of those that it may stop. -/
theorem reaches_applyAll (d : Disk) (cs : List Change) :
    ∃ done, Reaches d cs done (applyAll d cs).failure (applyAll d cs).disk ∧
      ((applyAll d cs).failure = none → done = cs) := by
  induction cs generalizing d with
  | nil => exact ⟨[], .here d [], fun _ => rfl⟩
  | cons c cs ih =>
    rcases ha : c.apply d with ⟨d₁, f | ns⟩
    · rw [applyAll_cons_error ha]
      exact ⟨[], .fails ha cs, fun h => by cases h⟩
    · obtain ⟨done, hreach, hall⟩ := ih d₁
      rw [applyAll_cons_ok ha]
      exact ⟨c :: done, .made ha hreach, fun h => by rw [hall h]⟩

namespace Reaches

theorem split (h : Reaches d cs done o d') : ∃ rest, cs = done ++ rest := by
  induction h with
  | here d cs => exact ⟨cs, rfl⟩
  | made _ _ ih =>
    obtain ⟨rest, rfl⟩ := ih
    exact ⟨rest, rfl⟩
  | fails _ cs => exact ⟨_, rfl⟩
  | refused _ _ cs => exact ⟨_, rfl⟩

theorem mem (h : Reaches d cs done o d') (hc : c ∈ done) : c ∈ cs := by
  obtain ⟨rest, rfl⟩ := h.split
  exact List.mem_append_left _ hc

theorem keeps (h : Reaches d cs done o d') : d.KeepsDirectories d' := by
  induction h with
  | here d cs => exact .refl d
  | @made d d₁ d' c cs done ns f ha hrest ih =>
    have hkeeps := keeps_apply d c
    rw [ha] at hkeeps
    exact hkeeps.trans ih
  | @fails d d' c f ha cs =>
    have hkeeps := keeps_apply d c
    rw [ha] at hkeeps
    exact hkeeps
  | refused hrefused _ cs => exact hrefused.grows.keeps

/-- Where the changes stop, a file holds the text of the last of the writes at its place that have
been made, and is otherwise as it was. -/
theorem file?_eq (h : Reaches d cs done o d') (hremove : ∀ p, .remove p ∈ done → p.place ≠ r) :
    d'.file? r = ((lastText r (writes done)).map encode).or (d.file? r) := by
  induction h with
  | here d cs => rfl
  | @made d d₁ d' c cs done ns f ha hrest ih =>
    have hfirst := file?_apply_ok ha fun p hp => hremove p (hp ▸ List.mem_cons_self)
    have hlater := ih fun p hp => hremove p (List.mem_cons_of_mem _ hp)
    have hsplit : writes (c :: done) = writes [c] ++ writes done := writes_append [c] done
    rw [hlater, hfirst, hsplit, lastText_append]
    cases lastText r (writes done) <;> rfl
  | fails ha cs => exact file?_apply_error ha r
  | refused hrefused reason cs => exact hrefused.grows.file?_eq r

/-- A file that is there where the changes stop holds the text of the last of the writes at its
place, or nothing was written there and it was there before. -/
theorem file?_of_some (h : Reaches d cs done o d') {bytes : ByteArray}
    (hfile : d'.file? r = some bytes) :
    (∃ t, lastText r (writes done) = some t ∧ bytes = encode t) ∨
      lastText r (writes done) = none ∧ d.file? r = some bytes := by
  induction h with
  | here d cs => exact .inr ⟨rfl, hfile⟩
  | @made d d₁ d' c cs done ns f ha hrest ih =>
    have hsplit : writes (c :: done) = writes [c] ++ writes done := writes_append [c] done
    rw [hsplit, lastText_append]
    rcases ih hfile with ⟨t, ht, hbytes⟩ | ⟨hnone, hbefore⟩
    · rw [ht]
      exact .inl ⟨t, rfl, hbytes⟩
    · rw [hnone]
      exact file?_of_apply_ok ha hbefore
  | fails ha cs => exact .inr ⟨rfl, (file?_apply_error ha r).symm.trans hfile⟩
  | refused hrefused reason cs => exact .inr ⟨rfl, (hrefused.grows.file?_eq r).symm.trans hfile⟩

/-- A file that is not as it was is at the place of a change. -/
theorem exists_touches (h : Reaches d cs done o d') (hne : d'.file? r ≠ d.file? r) :
    ∃ c ∈ cs, c.Touches r := by
  by_contra hnone
  push Not at hnone
  refine hne ?_
  rw [h.file?_eq fun p hp => hnone _ (h.mem hp), lastText_eq_none]
  · rfl
  · intro w hw
    exact hnone _ (h.mem (mem_writes.1 hw))

theorem walk (h : Reaches d cs done o d') (hmem : .write p t ∈ done) :
    d'.walk p = .ok p.place := by
  induction h with
  | here d cs => cases hmem
  | @made d d₁ d' c cs done ns f ha hrest ih =>
    rcases List.mem_cons.1 hmem with rfl | hmem
    · rw [apply_write] at ha
      obtain ⟨rfl, hok⟩ := Prod.mk.inj ha
      refine hrest.keeps.walk (Disk.walk_writeBytes ?_)
      split at hok
      · assumption
      · cases hok
    · exact ih hmem
  | fails ha cs => cases hmem
  | refused hrefused reason cs => cases hmem

/-- A directory was one before, or it lies on the way to what is to be written. -/
theorem directory (h : Reaches d cs done o d') (hr : d'.entry? r = some .directory) :
    d.entry? r = some .directory ∨ ∃ c ∈ cs, r ∈ c.visited := by
  induction h with
  | here d cs => exact .inl hr
  | @made d d₁ d' c cs done ns f ha hrest ih =>
    rcases ih hr with hd | ⟨c', hc', hv⟩
    · have hdir : Disk.entry? (c.apply d).1 r = some .directory := by rwa [ha]
      exact (directory_apply hdir).imp_right fun hv => ⟨c, List.mem_cons_self, hv⟩
    · exact .inr ⟨c', List.mem_cons_of_mem _ hc', hv⟩
  | @fails d d' c f ha cs =>
    have hdir : Disk.entry? (c.apply d).1 r = some .directory := by rwa [ha]
    exact (directory_apply hdir).imp_right fun hv => ⟨c, List.mem_cons_self, hv⟩
  | refused hrefused reason cs =>
    rcases hrefused.grows r with he | ⟨hv, -⟩
    · exact .inl (he ▸ hr)
    · exact .inr ⟨_, List.mem_cons_self, hv⟩

/-- Changes end at the first one that is not made, which the system refuses or which fails on the
disk that those before it have left. -/
theorem stop (h : Reaches d cs done (some f) d') : ∃ c rest d₁, cs = done ++ c :: rest ∧
    Reaches d cs done none d₁ ∧ (c.FailsWith d₁ f ∨
      ∃ p text reason, c = .write p text ∧ f = .problem (.writeFailed p.toString reason)) := by
  generalize ho : some f = o at h
  induction h with
  | here d cs => cases ho
  | made ha hrest ih =>
    obtain ⟨c', rest, d₁, rfl, hreach, hf⟩ := ih ho
    exact ⟨c', rest, d₁, rfl, .made ha hreach, hf⟩
  | @fails d d' c f' ha cs =>
    obtain rfl := Option.some.inj ho
    exact ⟨c, cs, d, rfl, .here d _, .inl (failsWith_of_apply ha)⟩
  | @refused d d' p text hrefused reason cs =>
    obtain rfl := Option.some.inj ho
    exact ⟨_, cs, d, rfl, .here d _, .inr ⟨p, text, reason, rfl, rfl⟩⟩

/-- Changes that have all been made are followed by others. -/
theorem append {d₁ : Disk} {ds : List Change} (h : Reaches d cs done none d₁) (hall : done = cs)
    (hrest : Reaches d₁ ds done' o d') : Reaches d (cs ++ ds) (cs ++ done') o d' := by
  generalize ho : (none : Option Failure) = o' at h
  induction h with
  | here d cs =>
    subst hall
    exact hrest
  | made ha _ ih =>
    obtain ⟨-, hall⟩ := List.cons.inj hall
    exact .made ha (ih hall hrest ho)
  | fails _ cs => cases ho
  | refused _ _ cs => cases ho

/-- Whatever has been made, the system may refuse the next write. -/
theorem refuse {d₁ : Disk} (h : Reaches d cs cs none d₁) (p : Path) (t reason : String)
    (ds : List Change) : Reaches d (cs ++ .write p t :: ds) cs
      (some (.problem (.writeFailed p.toString reason))) d₁ := by
  have hstop := h.append rfl (.refused (Disk.refusesWrite_self d₁ p (encode t)) reason ds)
  rwa [List.append_nil] at hstop

end Reaches

/-- In an unobstructed directory all changes of files of its own can be made. -/
theorem reaches_unobstructed {out : Path} (h : d.Unobstructed out)
    (hcs : ∀ c ∈ cs, c.IsWithin out) : ∃ d', Reaches d cs cs none d' := by
  induction cs generalizing d with
  | nil => exact ⟨d, .here d []⟩
  | cons c cs ih =>
    obtain ⟨hc, hrest⟩ := List.forall_mem_cons.1 hcs
    obtain ⟨d₁, ns, ha, hd⟩ := apply_unobstructed h hc
    obtain ⟨d', hreach⟩ := ih hd hrest
    exact ⟨d', .made ha hreach⟩

/-! ## What a build writes -/

theorem writes_fileChanges (out : Path) (files : List (String × String)) :
    writes (fileChanges out files) =
      (files.mergeSort fun a b => Text.le a.1 b.1).map fun file => (out.child file.1, file.2) := by
  -- The name of a page comes with its place in the order, after which progress is reported.
  have hfrom (sorted : List (String × String)) (place : Nat) :
      writes ((sorted.zipIdx place).flatMap fun e =>
        .write (out.child e.1.1) e.1.2 ::
          if (e.2 + 1) % progressStep = 0 then [.report (.progress (e.2 + 1) files.length)]
          else []) = sorted.map fun file => (out.child file.1, file.2) := by
    induction sorted generalizing place with
    | nil => rfl
    | cons file sorted ih =>
      rw [List.zipIdx_cons, List.flatMap_cons, writes_append, ih, List.map_cons]
      dsimp only
      split <;> rfl
  exact hfrom _ 0

/-- The files that a build writes, in this order: its pages in the order of their names, the
sidecar, and the report if there are failures. -/
def Built.texts (b : Built) (library : LibraryName) (out : Path) (format sidecar report : String) :
    List (Path × String) :=
  (b.files.mergeSort fun x y => Text.le x.1 y.1).map (fun file => (out.child file.1, file.2)) ++
    (out.child sidecar, (b.sidecar library format).text) ::
      if b.report.isComplete then [] else [(out.child report, b.report.text)]

variable {config : Json} {sidecar report format : String} {out : Path} {b : Built}
  {library : LibraryName}

theorem writes_changes (h : Names config sidecar report) :
    writes (b.changes library out format config) =
      b.texts library out format sidecar report := by
  rw [changes_eq h, writes_append, writes_append, writes_fileChanges, Built.texts,
    List.append_assoc]
  refine congrArg _ (congrArg (List.cons _) ?_)
  rw [reportChanges]
  split <;> rfl

/-- The pages come first: when any other change has been made, all of them have been written. -/
theorem pages_written {rest : List Change} (h : Names config sidecar report)
    (hsplit : b.changes library out format config = done ++ rest) (hc : c ∈ done)
    (hnot : c ∉ fileChanges out b.files) {file : String × String} (hfile : file ∈ b.files) :
    .write (out.child file.1) file.2 ∈ done := by
  have hpage := write_mem_fileChanges out hfile
  rw [changes_eq h, List.append_assoc, List.append_eq_append_iff] at hsplit
  -- The changes that have been made end after the pages or among them.
  rcases hsplit with ⟨between, rfl, -⟩ | ⟨between, hpages, -⟩
  · exact List.mem_append_left _ hpage
  · rw [hpages] at hnot
    exact absurd (List.mem_append_left _ hc) hnot

/-- Pages and a sidecar of plain names are files of the directory itself. -/
theorem isWithin_first {text : String} {n : Notice}
    (hsidecar : Path.IsPlain sidecar ∧ Disk.IsFileName sidecar)
    (hpages : ∀ page ∈ b.files.map (·.1), Path.IsPlain page ∧ Disk.IsFileName page) :
    ∀ c ∈ fileChanges out b.files ++ [.write (out.child sidecar) text, .report n],
      c.IsWithin out := by
  intro c hc
  rcases List.mem_append.1 hc with hc | hc
  · rcases mem_fileChanges hc with ⟨file, hfile, rfl⟩ | ⟨n, rfl⟩
    · obtain ⟨hplain, hname⟩ := hpages _ (List.mem_map_of_mem hfile)
      exact ⟨file.1, hplain, hname, rfl⟩
    · trivial
  · rcases List.mem_cons.1 hc with rfl | hc
    · exact ⟨sidecar, hsidecar.1, hsidecar.2, rfl⟩
    · rw [List.mem_singleton.1 hc]
      trivial

/-- Nothing is removed while pages and the sidecar are written. -/
theorem remove_not_mem_first {text : String} {n : Notice} :
    .remove p ∉ fileChanges out b.files ++ [.write (out.child sidecar) text, .report n] := by
  intro hmem
  rcases List.mem_append.1 hmem with hmem | hmem
  · rcases mem_fileChanges hmem with ⟨_, _, hc⟩ | ⟨_, hc⟩ <;> cases hc
  · simp at hmem

/-- What has been written is a page, or it is the sidecar or the report, after all pages. -/
theorem write_cases {rest : List Change} (h : Names config sidecar report)
    (hsplit : b.changes library out format config = done ++ rest) (hwrite : .write p t ∈ done) :
    (∃ file ∈ b.files, p = out.child file.1 ∧ t = file.2) ∨
      (p = out.child sidecar ∧ t = (b.sidecar library format).text ∨
        p = out.child report ∧ t = b.report.text) ∧
      ∀ file ∈ b.files, .write (out.child file.1) file.2 ∈ done := by
  by_cases hpage : .write p t ∈ fileChanges out b.files
  · rcases mem_fileChanges hpage with ⟨file, hfile, hc⟩ | ⟨n, hc⟩
    · obtain ⟨rfl, rfl⟩ := Change.write.inj hc
      exact .inl ⟨file, hfile, rfl, rfl⟩
    · cases hc
  · refine .inr ⟨?_, fun file hfile => pages_written h hsplit hwrite hpage hfile⟩
    have hmem : .write p t ∈ b.changes library out format config := by
      rw [hsplit]
      exact List.mem_append_left _ hwrite
    rw [changes_eq h, List.append_assoc, List.mem_append, List.mem_append] at hmem
    rcases hmem with hmem | hmem | hmem
    · exact absurd hmem hpage
    · rcases List.mem_cons.1 hmem with hc | hmem
      · obtain ⟨rfl, rfl⟩ := Change.write.inj hc
        exact .inl ⟨rfl, rfl⟩
      · cases List.mem_singleton.1 hmem
    · rw [reportChanges] at hmem
      split at hmem
      · cases List.mem_singleton.1 hmem
      · rcases List.mem_cons.1 hmem with hc | hmem
        · obtain ⟨rfl, rfl⟩ := Change.write.inj hc
          exact .inr ⟨rfl, rfl⟩
        · cases List.mem_singleton.1 hmem

/-- Nothing is removed before the report is, if it is: that is the last change. -/
theorem remove_not_mem {rest : List Change} (h : Names config sidecar report)
    (hsplit : b.changes library out format config = done ++ c :: rest) (q : Path) :
    .remove q ∉ done := by
  rw [changes_eq h, reportChanges] at hsplit
  split at hsplit
  · intro hmem
    rw [List.append_eq_append_iff] at hsplit
    rcases hsplit with ⟨between, rfl, hlast⟩ | ⟨between, hfirst, hlast⟩
    · cases between with
      | nil =>
        rw [List.append_nil] at hmem
        exact remove_not_mem_first hmem
      | cons c between =>
        have hlen := congrArg List.length hlast
        simp at hlen
    · exact remove_not_mem_first (hfirst ▸ List.mem_append_left _ hmem)
  · intro hmem
    have hin : .remove q ∈ done ++ c :: rest := List.mem_append_left _ hmem
    rw [← hsplit] at hin
    rcases List.mem_append.1 hin with hin | hin
    · exact remove_not_mem_first hin
    · simp at hin

/-- Where the report is removed, everything has been written. -/
theorem writes_before_remove {rest : List Change} (h : Names config sidecar report)
    (hsplit : b.changes library out format config = done ++ .remove p :: rest) :
    p = out.child report ∧ b.report.isComplete = true ∧
      writes done = b.texts library out format sidecar report := by
  have hmem : .remove p ∈ b.changes library out format config := by simp [hsplit]
  obtain rfl := eq_of_remove_mem_changes h hmem
  rw [← writes_changes h, hsplit, writes_append]
  rw [changes_eq h] at hsplit hmem
  cases hr : b.report.isComplete with
  | false =>
    rw [reportChanges, hr] at hmem
    rcases List.mem_append.1 hmem with hmem | hmem
    · exact absurd hmem remove_not_mem_first
    · simp at hmem
  | true =>
    rw [reportChanges, hr, if_pos rfl,
      List.append_cons_inj_of_notMem remove_not_mem_first List.not_mem_nil] at hsplit
    obtain ⟨-, -, rfl⟩ := hsplit
    exact ⟨rfl, rfl, (List.append_nil _).symm⟩

/-- When nothing is to be reported and the name of the report is too long, everything is written
before the name is looked up. -/
theorem applied_long_report (h : d.Unobstructed out) (hnames : Names config sidecar report)
    (hsidecar : Path.IsPlain sidecar ∧ Disk.IsFileName sidecar) (hreport : Path.IsName report)
    (hpages : ∀ page ∈ b.files.map (·.1), Path.IsPlain page ∧ Disk.IsFileName page)
    (hlong : Disk.maxNameBytes < report.utf8ByteSize)
    (hclean : (out.child report).hasNull = false) (hcomplete : b.report.isComplete = true) :
    (b.applied d library out format config).failure =
        some (.fault (.nameTooLong (out.child report).toString)) ∧
      ∀ r, (b.applied d library out format config).disk.file? r =
        ((lastText r (b.texts library out format sidecar report)).map encode).or (d.file? r) := by
  have hchanges : b.changes library out format config = _ := changes_eq hnames
  have htexts : writes (b.changes library out format config) = _ := writes_changes hnames
  rw [reportChanges, hcomplete, if_pos rfl] at hchanges
  rw [hchanges, writes_append] at htexts
  rw [Built.applied, hchanges]
  generalize hfirst : fileChanges out b.files ++ [.write (out.child sidecar)
    (b.sidecar library format).text, .report (.written b.files.length out)] = first at htexts ⊢
  have hwithin : ∀ c ∈ first, c.IsWithin out := hfirst ▸ isWithin_first hsidecar hpages
  have hok := applyAll_unobstructed h hwithin
  obtain ⟨done, hreach, hall⟩ := reaches_applyAll d first
  obtain rfl := hall hok
  have hremove : ∀ p, .remove p ∉ done := fun p => hfirst ▸ remove_not_mem_first
  have hwritten : .write (out.child sidecar) (b.sidecar library format).text ∈ done := by
    rw [← hfirst]
    exact List.mem_append_right _ List.mem_cons_self
  have hfind := Disk.find_long hsidecar.1.1 hreport (hreach.walk hwritten) hlong hclean
  have hlast : Change.apply (applyAll d done).disk (.remove (out.child report)) =
      ((applyAll d done).disk, .error (.fault (.nameTooLong (out.child report).toString))) := by
    rw [Change.apply, Disk.remove, Disk.lookUp, hfind]
    rfl
  obtain ⟨hdisk, hfailure⟩ := applyAll_append [.remove (out.child report)] hok
  rw [hdisk, hfailure, applyAll_cons_error hlast]
  refine ⟨rfl, fun r => ?_⟩
  rw [← htexts, show writes [.remove (out.child report)] = [] from rfl, List.append_nil]
  exact hreach.file?_eq fun p hp => absurd hp (hremove p)

end CrateBook.Corpus
