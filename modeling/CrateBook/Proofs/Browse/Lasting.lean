import CrateBook.Proofs.Browse.Building
import CrateBook.Proofs.Build.Stopping
import CrateBook.Proofs.Library.ItemPath

/-!
# What lasts

Work keeps a property when it leads from a workspace with the property to one with it, also when it
fails (`Keeps`). A property that calls of cargo and the builds of a project carry on (`Carries`) is
kept by building a library and by looking after it, whatever comes of it. A property of disks that
cargo and the builds of a project keep, while cargo always answers the same, lasts (`Lasting`).
-/

namespace CrateBook.Browse

open Corpus (Built Report Resolver Sidecar)
open Work

variable {α β : Type} {I : Workspace → Prop} {x : Work α} {g : α → Work β} {P Q : α → Prop}
  {R : β → Prop}

/-! ## Work that keeps a property -/

/-- From a workspace with the property, the work leads to one with the property, and what it gives,
if it gives anything, is of the given kind. -/
def Keeps (I : Workspace → Prop) (x : Work α) (Q : α → Prop) : Prop :=
  ∀ w, I w → I (x.run w).2 ∧ ∀ a, (x.run w).1 = .ok a → Q a

namespace Keeps

theorem of_run (h : Keeps I x Q) {w w' : Workspace} {result : Except Failure α} (hw : I w)
    (hrun : x.run w = (result, w')) : I w' := by
  have hI := (h w hw).1
  rw [hrun] at hI
  exact hI

theorem weaken (h : Keeps I x P) (hQ : ∀ a, P a → Q a) : Keeps I x Q :=
  fun w hw => ⟨(h w hw).1, fun a ha => hQ a ((h w hw).2 a ha)⟩

theorem bind (hx : Keeps I x Q) (hg : ∀ a, Q a → Keeps I (g a) R) : Keeps I (x >>= g) R := by
  intro w hw
  obtain ⟨hI, hQ⟩ := hx w hw
  rcases hrun : x.run w with ⟨f | a, w₁⟩ <;> rw [hrun] at hI hQ
  · rw [run_bind_error hrun]
    exact ⟨hI, fun b hb => by cases hb⟩
  · rw [run_bind hrun]
    exact hg a (hQ a rfl) w₁ hI

theorem pure {a : α} (ha : Q a) : Keeps I (pure a : Work α) Q :=
  fun _ hw => ⟨hw, fun _ hb => Except.ok.inj hb ▸ ha⟩

theorem orFail (x : Except Failure α) : Keeps I (orFail x) (x = .ok ·) := by
  intro w hw
  cases x with
  | ok a => exact ⟨hw, fun _ hb => hb⟩
  | error f => exact ⟨hw, fun _ hb => by cases hb⟩

theorem discard (h : Keeps I x Q) : Keeps I (discard x) fun _ => True :=
  h.bind fun _ _ => Keeps.pure trivial

theorem disk : Keeps I Work.disk fun _ => True := fun _ hw => ⟨hw, fun _ _ => trivial⟩

end Keeps

/-! ## Properties that are carried on -/

/-- Reporting keeps the property, and so do calls of cargo, which describes projects of a kind, and
sound changes: those of a build of a library of such a project in a directory of its own. -/
structure Carries (I : Workspace → Prop) (P : Cargo.Project → Prop) (config : Json) : Prop where
  notices : ∀ w ns, I w → I { w with notices := ns }
  callCargo : ∀ args directory, Keeps I (callCargo args directory) fun _ => True
  project : ∀ directory, Keeps I (project directory) P
  build : ∀ p root, P p → Build.outputRoot p config = .ok root →
    ∀ (library : LibraryName) (s : Build.Source) (built : Built) (w : Workspace),
      Path.IsPlain library.canonical → s.Decides w.disk library config built → I w →
      I { w with
        disk := (built.applied w.disk library (root.child library.canonical) s.format config).disk }

namespace Carries

variable {P : Cargo.Project → Prop} {config : Json} {name : String} {directory : Option String}
  {p : Cargo.Project} {root : Path} {library : LibraryName} (h : Carries I P config)

include h

theorem ofReported (x : Reported α) :
    Keeps I (ofReported x) fun a => ∃ ns, x.run [] = (.ok a, ns) := by
  intro w hw
  rw [run_ofReported]
  exact ⟨h.notices w _ hw, fun a ha => ⟨_, Prod.ext ha rfl⟩⟩

theorem ofFault (x : Except Fault α) :
    Keeps I (Work.ofReported (orFault x)) (x = .ok ·) :=
  (h.ofReported _).weaken fun _ ⟨_, hx⟩ => (of_run_orFault hx).1

theorem notify (n : Notice) : Keeps I (notify n) fun _ => True :=
  fun w hw => ⟨h.notices w _ hw, fun _ _ => trivial⟩

/-- A build from pages or from a dump carries the property on, whatever comes of it. -/
theorem runSource (hp : P p) (hroot : Build.outputRoot p config = .ok root)
    (hplain : Path.IsPlain library.canonical) (s : Build.Source) :
    Keeps I (s.build library (root.child library.canonical) config) fun _ => True := by
  intro w hw
  refine ⟨?_, fun _ _ => trivial⟩
  rcases hbuilt : (s.built w.disk library config).run [] with ⟨f | built, ns⟩
  · rw [Build.Source.run_build_error _ hbuilt]
    exact h.notices w _ hw
  · rw [Build.Source.run_build _ hbuilt]
    have hbuild := h.build p root hp hroot library s built w hplain ⟨ns, hbuilt⟩ hw
    exact h.notices _ _ hbuild

theorem document (library : LibraryName) (directory : Option String) :
    Keeps I (Build.document library directory) fun _ => True :=
  (h.notify _).bind fun _ _ => (h.callCargo _ _).bind fun _ _ =>
    (h.ofReported _).weaken fun _ _ => trivial

theorem dump (library : LibraryName) (p : Cargo.Project) (directory : Option String) :
    Keeps I (Build.dump library p directory) fun _ => True :=
  (h.notify _).bind fun _ _ =>
    (h.callCargo _ _).discard.bind fun _ _ => Keeps.disk.bind fun _ _ =>
      (h.ofReported _).bind fun _ _ => Keeps.pure trivial

/-- A build carries the property on, whether it ends well or not. -/
theorem run_build (directory : Option String)
    (hplain : ∀ p, P p → ∀ library, p.library name = .ok library →
      Path.IsPlain library.canonical) :
    Keeps I (Build.build name config directory) fun _ => True := by
  refine (h.project directory).bind fun p hp => (Keeps.orFail _).bind fun library hlibrary => ?_
  have hlibrary := hplain p hp library hlibrary
  refine (h.ofFault _).bind fun root hroot => (h.ofFault _).bind fun format _ => ?_
  split
  · exact (h.dump library p directory).bind fun path _ => h.runSource hp hroot hlibrary (.dump path)
  · exact (h.document library directory).bind fun docs _ =>
      h.runSource hp hroot hlibrary (.pages docs)

/-- Looking after a library carries the property on. -/
theorem ensureBuilt (r : Resolver) (l : LibraryName) (directory : Option String)
    (hplain : ∀ p, P p → ∀ library, p.library l.declared = .ok library →
      Path.IsPlain library.canonical) :
    Keeps I (ensureBuilt r l config directory) fun _ => True := by
  refine Keeps.bind (Q := fun _ => True) ?_ fun o _ => ?_
  · intro w hw
    rw [run_readableSidecar]
    refine ⟨?_, fun _ _ => trivial⟩
    rcases r.load w.disk l with ⟨r', (p | f) | s⟩
    · exact h.notices w _ hw
    · exact hw
    · exact hw
  · dsimp only
    split
    · exact Keeps.pure trivial
    · exact (h.notify _).bind fun _ _ =>
        (h.run_build directory hplain).discard.bind fun _ _ => Keeps.pure trivial

theorem resolverFor (directory : Option String) :
    Keeps I (resolverFor config directory) fun _ => True :=
  (h.project directory).bind fun _ _ => (h.ofFault _).bind fun _ _ =>
    (h.ofFault _).bind fun _ _ => Keeps.pure trivial

end Carries

/-! ## Disks -/

/-- Cargo will give the answers of the script, and the disk has the property. -/
structure Standing (script : Cargo.Script) (J : Disk → Prop) (w : Workspace) : Prop where
  cargo : w.cargo = script
  disk : J w.disk

variable {script : Cargo.Script} {J : Disk → Prop} {config : Json}

/-- Cargo always answers the same, and the disk keeps the property when cargo writes the files of an
answer and when a sound build of a library in a directory of its own is saved. -/
structure Lasting (script : Cargo.Script) (config : Json) (J : Disk → Prop) : Prop where
  constant : ∀ command, (script.next command).2 = script
  reply : ∀ command reply, (script.next command).1 = .reply reply →
    ∀ d, J d → J (reply.files.foldl (fun d f => (d.writeBytes f.1 f.2).1) d)
  build : ∀ p root, Describes script p → Build.outputRoot p config = .ok root →
    ∀ (library : LibraryName) (built : Built), Path.IsPlain library.canonical →
      IsSound config built → ∀ format d, J d →
        J (built.applied d library (root.child library.canonical) format config).disk

/-- What a source decides on is sound. -/
theorem isSound_of_decides {s : Build.Source} {d : Disk} {library : LibraryName} {built : Built}
    (h : s.Decides d library config built) : IsSound config built := by
  obtain ⟨ns, hrun⟩ := h
  cases s with
  | pages docs => exact isSound_of_run_fromPages hrun
  | dump path => exact isSound_of_run_fromDump hrun

namespace Lasting

variable (h : Lasting script config J)

include h

theorem callCargo (args : List String) (directory : Option String) :
    Keeps (Standing script J) (callCargo args directory) fun r =>
      (script.next (" ".intercalate args)).1 = .reply r ∧ r.code = 0 := by
  intro w hw
  have hcargo := h.constant (" ".intercalate args)
  rw [run_callCargo, hw.cargo]
  cases hanswer : (script.next (" ".intercalate args)).1 with
  | unavailable reason =>
    refine ⟨⟨?_, hw.disk⟩, fun a ha => by cases ha⟩
    rw [replied, hw.cargo]
    exact hcargo
  | reply reply =>
    refine ⟨⟨?_, h.reply _ _ hanswer _ hw.disk⟩, fun a ha => ?_⟩
    · dsimp only
      rw [replied, hw.cargo]
      exact hcargo
    · dsimp only at ha
      split at ha
      · cases ha
      · rename_i hcode
        obtain rfl := Except.ok.inj ha
        exact ⟨rfl, not_not.1 hcode⟩

/-- What lasts is carried on. -/
theorem carries : Carries (Standing script J) (Describes script) config where
  notices _ _ hw := ⟨hw.cargo, hw.disk⟩
  callCargo args directory := (h.callCargo args directory).weaken fun _ _ => trivial
  project _ := (h.callCargo _ _).bind fun r ⟨hr, hcode⟩ =>
    (Keeps.orFail _).weaken fun _ hp => ⟨r, hr, hcode, hp⟩
  build p root hp hroot library _ built _ hplain hdecides hw := by
    have hsound := isSound_of_decides hdecides
    exact ⟨hw.cargo, h.build p root hp hroot library built hplain hsound _ _ hw.disk⟩

end Lasting

end CrateBook.Browse
