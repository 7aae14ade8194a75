import CrateBook.Proofs.Corpus.Saved
import CrateBook.Workspace

/-!
# Runs of builds

Work that may fail goes on only with a value: `run_bind` and `of_run_bind` take a run apart at its
first step. A build that returns has made all the changes it decided on (`of_run_build`).
-/

namespace CrateBook

variable {σ α β : Type} {x : ExceptT Failure (StateM σ) α} {g : α → ExceptT Failure (StateM σ) β}
  {a : α} {b : β} {s s' t : σ} {f : Failure}

theorem run_bind (h : x.run s = (.ok a, t)) : (x >>= g).run s = (g a).run t := by
  change StateT.bind x.run (ExceptT.bindCont g) s = _
  rw [StateT.bind, h]
  rfl

theorem run_bind_error (h : x.run s = (.error f, t)) : (x >>= g).run s = (.error f, t) := by
  change StateT.bind x.run (ExceptT.bindCont g) s = _
  rw [StateT.bind, h]
  rfl

theorem of_run_bind (h : (x >>= g).run s = (.ok b, s')) :
    ∃ a t, x.run s = (.ok a, t) ∧ (g a).run t = (.ok b, s') := by
  rcases hx : x.run s with ⟨f | a, t⟩
  · rw [run_bind_error hx] at h
    cases h
  · rw [run_bind hx] at h
    exact ⟨a, t, rfl, h⟩

/-! ## Steps that report -/

variable {ns ns' : List Notice}

theorem of_run_orFault {r : Except Fault α} (h : (orFault r).run ns = (.ok a, ns')) :
    r = .ok a ∧ ns' = ns := by
  cases r with
  | ok b => cases h; exact ⟨rfl, rfl⟩
  | error f => cases h

theorem of_run_orProblem {r : Except Problem α} (h : (orProblem r).run ns = (.ok a, ns')) :
    r = .ok a ∧ ns' = ns := by
  cases r with
  | ok b => cases h; exact ⟨rfl, rfl⟩
  | error f => cases h

theorem of_run_orFailure {r : Except Failure α} (h : (orFailure r).run ns = (.ok a, ns')) :
    r = .ok a ∧ ns' = ns := by
  cases r with
  | ok b => cases h; exact ⟨rfl, rfl⟩
  | error f => cases h

theorem run_orFault {r : Except Fault α} (h : r = .ok a) (ns : List Notice) :
    (orFault r).run ns = (.ok a, ns) := by
  subst h
  rfl

theorem run_orProblem {r : Except Problem α} (h : r = .ok a) (ns : List Notice) :
    (orProblem r).run ns = (.ok a, ns) := by
  subst h
  rfl

theorem run_orFailure {r : Except Failure α} (h : r = .ok a) (ns : List Notice) :
    (orFailure r).run ns = (.ok a, ns) := by
  subst h
  rfl

theorem run_reportAll (l : List α) (note : α → Notice) (ns : List Notice) :
    (forIn l PUnit.unit fun a _ => do
      report (note a)
      pure (ForInStep.yield PUnit.unit) : Reported PUnit).run ns =
      (.ok PUnit.unit, ns ++ l.map note) := by
  induction l generalizing ns with
  | nil => simp; rfl
  | cons a l ih =>
    rw [List.forIn_cons]
    refine (run_bind (a := ForInStep.yield PUnit.unit) (t := ns ++ [note a]) rfl).trans ?_
    refine (ih (ns ++ [note a])).trans ?_
    simp

/-! ## Work on a disk -/

namespace Work

theorem run_ofReported (r : Reported α) (w : Workspace) :
    (ofReported r).run w =
      ((r.run []).1, { w with notices := w.notices ++ (r.run []).2 }) := by
  rcases hr : r.run [] with ⟨f | a, ns⟩
  · change ((orFail (r.run []).1).run { w with notices := w.notices ++ (r.run []).2 }) = _
    rw [hr]
    rfl
  · change ((orFail (r.run []).1).run { w with notices := w.notices ++ (r.run []).2 }) = _
    rw [hr]
    rfl

theorem run_makeChanges (cs : List Corpus.Change) (w : Workspace) :
    (makeChanges cs).run w =
      (match (Corpus.applyAll w.disk cs).failure with
        | none => .ok ()
        | some f => .error f,
        { w with
          disk := (Corpus.applyAll w.disk cs).disk
          notices := w.notices ++ (Corpus.applyAll w.disk cs).notices }) := by
  change ((match (Corpus.applyAll w.disk cs).failure with
    | none => pure ()
    | some f => throw f : Work Unit).run _ : Except Failure Unit × Workspace) = _
  cases (Corpus.applyAll w.disk cs).failure with
  | none => rfl
  | some f => rfl

end Work

namespace Build

open Corpus (Built Report)

variable {library : LibraryName} {out docs dump : Path} {format : String} {config : Json}
  {w w' : Workspace} {r : Report} {built : Built}

/-- The workspace when the changes of a build have been made or one of them has failed. -/
def saved (w : Workspace) (ns : List Notice) (built : Built) (library : LibraryName) (out : Path)
    (format : String) (config : Json) : Workspace :=
  { w with
    disk := (built.applied w.disk library out format config).disk
    notices := w.notices ++ ns ++ (built.applied w.disk library out format config).notices }

theorem run_save (ns : List Notice) :
    (save library out format config built).run { w with notices := w.notices ++ ns } =
      (match (built.applied w.disk library out format config).failure with
        | none => .ok built.report
        | some f => .error f,
        saved w ns built library out format config) := by
  have h := Work.run_makeChanges (built.changes library out format config)
    { w with notices := w.notices ++ ns }
  cases hf : (built.applied w.disk library out format config).failure with
  | none =>
    rw [hf] at h
    exact (run_bind h).trans rfl
  | some f =>
    rw [hf] at h
    exact (run_bind_error h).trans rfl

/-- What a build has decided on is saved. -/
theorem run_save_ofReported {x : Reported Built} (h : x.run [] = (.ok built, ns)) :
    (do save library out format config (← Work.ofReported x)).run w =
      (match (built.applied w.disk library out format config).failure with
        | none => .ok built.report
        | some f => .error f,
        saved w ns built library out format config) := by
  have hr := Work.run_ofReported x w
  rw [h] at hr
  exact (run_bind hr).trans (run_save ns)

/-- A build that fails before it has decided on its changes leaves the disk as it is. -/
theorem run_save_ofReported_error {x : Reported Built} (h : x.run [] = (.error f, ns)) :
    (do save library out format config (← Work.ofReported x)).run w =
      (.error f, { w with notices := w.notices ++ ns }) := by
  have hr := Work.run_ofReported x w
  rw [h] at hr
  exact run_bind_error hr

/-- A build from pages that has decided on its changes makes them. -/
theorem run_buildFromPages (out : Path)
    (h : (fromPages w.disk library docs config).run [] = (.ok built, ns)) :
    (buildFromPages library docs out config).run w =
      (match (built.applied w.disk library out "html" config).failure with
        | none => .ok built.report
        | some f => .error f,
        saved w ns built library out "html" config) := by
  rw [buildFromPages, run_bind (x := Work.disk) (a := w.disk) (t := w) rfl]
  exact run_save_ofReported h

theorem run_buildFromPages_error (out : Path)
    (h : (fromPages w.disk library docs config).run [] = (.error f, ns)) :
    (buildFromPages library docs out config).run w =
      (.error f, { w with notices := w.notices ++ ns }) := by
  rw [buildFromPages, run_bind (x := Work.disk) (a := w.disk) (t := w) rfl]
  exact run_save_ofReported_error h

/-- A build from a dump that has decided on its changes makes them. -/
theorem run_buildFromDump (out : Path)
    (h : (fromDump w.disk library dump config).run [] = (.ok built, ns)) :
    (buildFromDump library dump out config).run w =
      (match (built.applied w.disk library out "json" config).failure with
        | none => .ok built.report
        | some f => .error f,
        saved w ns built library out "json" config) := by
  rw [buildFromDump, run_bind (x := Work.disk) (a := w.disk) (t := w) rfl]
  exact run_save_ofReported h

theorem run_buildFromDump_error (out : Path)
    (h : (fromDump w.disk library dump config).run [] = (.error f, ns)) :
    (buildFromDump library dump out config).run w =
      (.error f, { w with notices := w.notices ++ ns }) := by
  rw [buildFromDump, run_bind (x := Work.disk) (a := w.disk) (t := w) rfl]
  exact run_save_ofReported_error h

/-- A build that returns has decided on what it saved. -/
theorem of_run_save {x : Reported Built} (h : (do
      save library out format config (← Work.ofReported x)).run w = (.ok r, w')) :
    ∃ built ns, x.run [] = (.ok built, ns) ∧
      (built.applied w.disk library out format config).failure = none ∧
      w'.disk = (built.applied w.disk library out format config).disk ∧ r = built.report := by
  rcases hrun : x.run [] with ⟨f | built, ns⟩
  · rw [run_save_ofReported_error hrun] at h
    cases h
  · rw [run_save_ofReported hrun] at h
    refine ⟨built, ns, rfl, ?_⟩
    cases hf : (built.applied w.disk library out format config).failure with
    | none =>
      rw [hf] at h
      cases h
      exact ⟨rfl, rfl, rfl⟩
    | some f =>
      rw [hf] at h
      cases h

theorem of_run_buildFromPages (h : (buildFromPages library docs out config).run w = (.ok r, w')) :
    ∃ built ns, (fromPages w.disk library docs config).run [] = (.ok built, ns) ∧
      (built.applied w.disk library out "html" config).failure = none ∧
      w'.disk = (built.applied w.disk library out "html" config).disk ∧ r = built.report := by
  rw [buildFromPages, run_bind (x := Work.disk) (a := w.disk) (t := w) rfl] at h
  exact of_run_save h

theorem of_run_buildFromDump (h : (buildFromDump library dump out config).run w = (.ok r, w')) :
    ∃ built ns, (fromDump w.disk library dump config).run [] = (.ok built, ns) ∧
      (built.applied w.disk library out "json" config).failure = none ∧
      w'.disk = (built.applied w.disk library out "json" config).disk ∧ r = built.report := by
  rw [buildFromDump, run_bind (x := Work.disk) (a := w.disk) (t := w) rfl] at h
  exact of_run_save h

end Build

end CrateBook
