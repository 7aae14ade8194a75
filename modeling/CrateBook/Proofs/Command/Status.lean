import CrateBook.Command.Run
import CrateBook.Proofs.Browse.Served
import CrateBook.Proofs.Build.Faults
import CrateBook.Proofs.Disk.Reach

/-!
# How command lines end

A problem is reported and ends the run of a line with status one. A fault is not caught, so a line
that is understood has a status of zero or one, unless something fails that is looked up, read or
removed with nothing around it that would tell of a problem: `Unguarded` says what that can be, and
`status_of_run` that there is nothing else where a line is run under ordinary circumstances
(`IsOrdinary`).
-/

namespace CrateBook.Command

open Browse (Gives LooksIn)
open Build (FailsOnly IsBadDocs IsBadDump IsBadListing IsProblemOr)
open Corpus (Names Report Resolver SavingEnds Sidecar)
open Work

/-! ## What cargo says -/

/-- Cargo may give the reply to the command. -/
def Given (script : Cargo.Script) (command : String) (reply : Cargo.Reply) : Prop :=
  ∃ answers, (command, answers) ∈ script ∧ .reply reply ∈ answers

/-- Cargo may describe the project. -/
def Tells (script : Cargo.Script) (p : Cargo.Project) : Prop :=
  ∃ reply, Given script (" ".intercalate Cargo.metadataArgs) reply ∧
    Cargo.Project.ofText reply.stdout = .ok p

/-- Cargo may say that the documentation of the library is in the directory. -/
def Documents (script : Cargo.Script) (library : LibraryName) (docs : Path) : Prop :=
  ∃ reply, Given script (" ".intercalate (Cargo.docArgs library.declared)) reply ∧
    Cargo.docDirectory reply.stderr = .ok docs

/-- The action shows or lists items of the library that is spelled so. -/
inductive Action.Browses : Action → String → Prop
  | show {itemPath : String} {path : ItemPath} (h : ItemPath.parse itemPath = .ok path) :
      Browses (.show itemPath) path.library
  | list {library name : String} (h : parseLibrary library = .ok name) :
      Browses (.list library) name

/-- The action is about the library that is spelled so. -/
inductive Action.IsAbout (action : Action) (name : String) : Prop
  | build {format : Option String} {failFast : Bool} (h : action = .build name format failFast)
  | browse (h : action.Browses name)

/-- The action is about the library, a dependency of the project. -/
structure IsBuilt (script : Cargo.Script) (action : Action) (p : Cargo.Project)
    (library : LibraryName) : Prop where
  told : Tells script p
  about : ∃ name, action.IsAbout name ∧ p.library name = .ok library

/-- The directory of the corpora of a project. -/
def corpora (p : Cargo.Project) : Path := p.target.child "docmd"

/-- The path of the dump of a library. -/
def dumpPath (p : Cargo.Project) (library : LibraryName) : Path :=
  (p.target.child "doc").child (library.canonical ++ ".json")

/-- What an action does not account for fails in this way on the disk. -/
inductive Unguarded (script : Cargo.Script) (action : Action) (d : Disk) : Fault → Prop
  /-- The documentation of the library itself cannot be read. -/
  | docs {p : Cargo.Project} {library : LibraryName} {docs : Path} {f : Fault}
      (hlibrary : IsBuilt script action p library) (hdocs : Documents script library docs)
      (h : IsBadDocs d docs f) : Unguarded script action d f
  /-- The dump cannot be looked up. -/
  | unseenDump {name : String} {failFast : Bool} {p : Cargo.Project} {library : LibraryName}
      {f : Fault} (haction : action = .build name (some "json") failFast)
      (hlibrary : IsBuilt script action p library) (h : d.has (dumpPath p library) = .error f) :
      Unguarded script action d f
  /-- There is a dump, and no pages can be made of it. -/
  | dump {name : String} {failFast : Bool} {p : Cargo.Project} {library : LibraryName} {f : Fault}
      (haction : action = .build name (some "json") failFast)
      (hlibrary : IsBuilt script action p library) (hthere : d.has (dumpPath p library) = .ok true)
      (h : IsBadDump d (dumpPath p library) failFast f) : Unguarded script action d f
  /-- What has been built cannot be saved, although every file can be written. -/
  | saving {p : Cargo.Project} {library : LibraryName} {f : Fault}
      (hlibrary : IsBuilt script action p library)
      (h : SavingEnds ((corpora p).child library.canonical) "metadata.json" "build-report.json" d
        f) : Unguarded script action d f
  /-- The sidecar cannot be looked up. -/
  | unseenSidecar {name : String} {p : Cargo.Project} {f : Fault} (haction : action.Browses name)
      (hp : Tells script p)
      (h : d.has (((corpora p).child (canonicalName name)).child "metadata.json") = .error f) :
      Unguarded script action d f
  /-- The page of the item in the sidecar is no text. -/
  | entry {itemPath : String} {path : ItemPath} {p : Cargo.Project} {s : Sidecar} {v : Json}
      (haction : action = .show itemPath) (hpath : ItemPath.parse itemPath = .ok path)
      (hp : Tells script p)
      (hload : Sidecar.load d (((corpora p).child (canonicalName path.library)).child
        "metadata.json") = .ok s)
      (hentry : s.itemMap.lookup (path.qualified (canonicalName path.library)) = some v)
      (hv : ∀ t, v ≠ .str t) :
      Unguarded script action d
        (.typeMismatch ("a path is a text, not a value of kind " ++ v.kindName))
  /-- The page of the item cannot be read. -/
  | page {itemPath : String} {path : ItemPath} {p : Cargo.Project} {page : Path} {f : Fault}
      (haction : action = .show itemPath) (hpath : ItemPath.parse itemPath = .ok path)
      (hp : Tells script p)
      (hresolve : (Resolver.resolve ⟨corpora p, .str "metadata.json", []⟩ d path).2 = .ok page)
      (h : d.read page = .error f) : Unguarded script action d f
  /-- The listing of the corpus cannot be read. -/
  | list {library name : String} {p : Cargo.Project} {s : Sidecar} {f : Fault}
      (haction : action = .list library) (hname : parseLibrary library = .ok name)
      (hp : Tells script p)
      (hload : Sidecar.load d (((corpora p).child (canonicalName name)).child "metadata.json") =
        .ok s)
      (h : d.read (((corpora p).child (canonicalName name)).child "all.md") = .error f) :
      Unguarded script action d f

section

variable {α β : Type} {script : Cargo.Script} {action : Action} {d d' : Disk} {x : Work α}
  {g : α → Work β} {Q : α → Disk → Prop} {R : β → Disk → Prop} {w w' : Workspace} {l : Line}
  {p : Cargo.Project} {library : LibraryName} {name : String} {config : Json} {f : Failure}
  {directory : Option String} {json fast : Bool}

/-! ## Work that accounts for its failures -/

/-- From the disk the work leads to a value and a disk as they should be, or it fails with a problem
or a fault that is accounted for on the disk it leaves. -/
structure Accounts (script : Cargo.Script) (action : Action) (d : Disk) (x : Work α)
    (Q : α → Disk → Prop) : Prop where
  run : ∀ w, w.disk = d → Gives (Given script) w.cargo →
    match x.run w with
    | (.ok a, w') => Gives (Given script) w'.cargo ∧ Q a w'.disk
    | (.error f, w') => IsProblemOr (Unguarded script action w'.disk) f

namespace Accounts

theorem bind (hx : Accounts script action d x Q)
    (hg : ∀ a d', Q a d' → Accounts script action d' (g a) R) :
    Accounts script action d (x >>= g) R := by
  refine ⟨fun w hw hcargo => ?_⟩
  have hrun := hx.run w hw hcargo
  rcases hx' : x.run w with ⟨f | a, w₁⟩ <;> rw [hx'] at hrun
  · rw [run_bind_error hx']
    exact hrun
  · rw [run_bind hx']
    exact (hg a w₁.disk hrun.2).run w₁ rfl hrun.1

/-- Work that leaves the disk is followed by other work on it. -/
theorem bind_same {P : α → Prop}
    (hx : Accounts script action d x fun a d' => d' = d ∧ P a)
    (hg : ∀ a, P a → Accounts script action d (g a) R) : Accounts script action d (x >>= g) R :=
  hx.bind fun a _ ⟨hd, ha⟩ => hd ▸ hg a ha

theorem pure {a : α} (ha : Q a d) : Accounts script action d (pure a) Q := by
  refine ⟨?_⟩
  rintro w rfl hcargo
  exact ⟨hcargo, ha⟩

theorem notify (n : Notice) :
    Accounts script action d (notify n) fun _ d' => d' = d ∧ True := by
  refine ⟨?_⟩
  rintro w rfl hcargo
  exact ⟨hcargo, rfl, trivial⟩

theorem disk : Accounts script action d Work.disk fun a d' => d' = d ∧ a = d := by
  refine ⟨?_⟩
  rintro w rfl hcargo
  exact ⟨hcargo, rfl, rfl⟩

theorem orFail {r : Except Failure α}
    (hr : ∀ f, r = .error f → IsProblemOr (Unguarded script action d) f) :
    Accounts script action d (orFail r) fun a d' => d' = d ∧ r = .ok a := by
  refine ⟨?_⟩
  rintro w rfl hcargo
  cases r with
  | ok a => exact ⟨hcargo, rfl, rfl⟩
  | error f => exact hr f rfl

theorem ofReported {r : Reported α}
    (hr : FailsOnly (IsProblemOr (Unguarded script action d)) r) :
    Accounts script action d (ofReported r) fun a d' =>
      d' = d ∧ ∃ ns ns', r.run ns = (.ok a, ns') := by
  refine ⟨?_⟩
  rintro w rfl hcargo
  rw [run_ofReported]
  rcases hrun : r.run [] with ⟨f | a, ns⟩
  · exact hr [] f ns hrun
  · exact ⟨hcargo, rfl, [], ns, hrun⟩

theorem weaken {S : α → Disk → Prop} (hx : Accounts script action d x Q)
    (hQ : ∀ a d', Q a d' → S a d') : Accounts script action d x S := by
  refine ⟨fun w hw hcargo => ?_⟩
  have hrun := hx.run w hw hcargo
  rcases hx' : x.run w with ⟨f | a, w₁⟩ <;> rw [hx'] at hrun
  · exact hrun
  · exact ⟨hrun.1, hQ a _ hrun.2⟩

theorem orFault {r : Except Fault α} (hr : ∀ f, r = .error f → Unguarded script action d f) :
    Accounts script action d (Work.ofReported (orFault r)) fun a d' => d' = d ∧ r = .ok a :=
  (ofReported (FailsOnly.orFault hr)).weaken fun _ _ ⟨hd, _, _, hrun⟩ =>
    ⟨hd, (of_run_orFault hrun).1⟩

/-- The value is there, so work goes on with it. -/
theorem ok_bind {r : Except Fault α} {a : α} (hr : r = .ok a)
    (ha : Accounts script action d (g a) R) :
    Accounts script action d (Work.ofReported (CrateBook.orFault r) >>= g) R := by
  refine (orFault fun f hf => ?_).bind_same fun a' ha' => ?_
  · rw [hr] at hf
    cases hf
  · exact Except.ok.inj (hr.symm.trans ha') ▸ ha

theorem orProblem (r : Except Problem α) :
    Accounts script action d (Work.ofReported (orProblem r)) fun a d' => d' = d ∧ r = .ok a :=
  (ofReported (FailsOnly.orProblem fun _ _ => trivial)).weaken fun _ _ ⟨hd, _, _, hrun⟩ =>
    ⟨hd, (of_run_orProblem hrun).1⟩

theorem discard (hx : Accounts script action d x Q) :
    Accounts script action d (discard x) fun _ _ => True :=
  hx.bind fun _ _ _ => pure trivial

theorem callCargo (args : List String) (directory : Option String) :
    Accounts script action d (callCargo args directory) fun reply _ =>
      Given script (" ".intercalate args) reply := by
  refine ⟨fun w _ hcargo => ?_⟩
  obtain ⟨hnext, hlater⟩ := hcargo.next (" ".intercalate args)
  rw [Browse.run_callCargo]
  cases hanswer : (w.cargo.next (" ".intercalate args)).1 with
  | unavailable reason => exact trivial
  | reply reply =>
    dsimp only
    by_cases hcode : reply.code = 0
    · rw [if_neg (not_not.2 hcode)]
      exact ⟨hlater, hnext reply hanswer⟩
    · rw [if_pos hcode]
      exact trivial

end Accounts

/-! ## Settings -/

/-- The action asks to end a build at the first page that cannot be made. -/
def Action.failsFast : Action → Bool
  | .build _ _ failFast => failFast
  | _ => false

variable {root : Path} {sidecar : String} {r : Resolver} {lib : LibraryName} {path : ItemPath}
  {page : Path}

end

/-! ## A listing that is no text -/

namespace BadListing

open Browse (replied run_orFault_ok run_project)
open Browse.SharedPage (docs isDependency_liba metadata next_script ofText_metadata root
  run_document script)

/-- Documentation whose listing is one byte that starts no character. -/
def disk : Disk := ⟨[(["docs"], .directory),
  (["docs", "index.html"], .file (Text.Utf8.encode "<main><code>L</code></main>")),
  (["docs", "all.html"], .file ⟨#[0xff]⟩)]⟩

def workspace : Workspace := { disk := disk, cargo := script }

/-- Asks for a build of a dependency. -/
def line : Line := { action := .build "liba" none false }

theorem decode_byte : Text.Utf8.decode ⟨#[0xff]⟩ = .error ⟨0, [0xff], .invalidStart⟩ := by
  have hbytes : (ByteArray.mk #[0xff]).toList = [0xff] := by decide +kernel
  have htext : String.fromUTF8? ⟨#[0xff]⟩ = none := by decide +kernel
  rw [Text.Utf8.decode, htext, Text.Utf8.firstFault, hbytes]
  rfl

theorem isBadListing : Build.IsBadListing disk docs (.notUtf8 ⟨0, [0xff], .invalidStart⟩) where
  there := by rfl
  unread := by
    have hfind : disk.find (docs.child "all.html") = .ok (.file ⟨#[0xff]⟩) := by rfl
    rw [Disk.read, hfind]
    dsimp only
    rw [decode_byte]

/-- The build is given up, and nothing has told of a problem. -/
theorem run_build : ∃ w', (Build.build "liba" Config.standard none).run workspace =
    (.error (.fault (.notUtf8 ⟨0, [0xff], .invalidStart⟩)), w') := by
  have hmetadata : (workspace.cargo.next (" ".intercalate Cargo.metadataArgs)).1 =
      .reply { stdout := metadata.pretty ++ "\n" } := rfl
  have hproject := run_project hmetadata rfl ofText_metadata none
  have hroot : Build.outputRoot Browse.SharedPage.project Config.standard = .ok root := by rfl
  have hformat : (do (← Config.standard.member "build").member "format") = .ok (.str "html") := by
    rfl
  have hcargo : (replied workspace Cargo.metadataArgs none
      { stdout := metadata.pretty ++ "\n" }).cargo = script := (next_script _).1
  -- Cargo writes nothing in this script, so the disk is still the first one when pages are built.
  have hbuild (w : Workspace) (hw : w.disk = disk) : ∃ w', (Build.buildFromPages ⟨"liba"⟩ docs
      (root.child (LibraryName.canonical ⟨"liba"⟩)) Config.standard).run w =
      (.error (.fault (.notUtf8 ⟨0, [0xff], .invalidStart⟩)), w') := by
    have hskip : (do Page.SkipRules.default.extendedBy (← Config.standard.member "skip")) =
        .ok .default := rfl
    have hindex : disk.has (docs.child "index.html") = .ok true := by rfl
    obtain ⟨ns, hfrom⟩ := isBadListing.run_fromPages ⟨"liba"⟩ hskip rfl hindex
    rw [← hw] at hfrom
    exact ⟨_, Build.Source.run_build_error (s := .pages docs) _ hfrom⟩
  rw [Build.build, run_bind hproject, isDependency_liba.found,
    run_bind (x := orFail _) (a := ⟨"liba"⟩) rfl, run_bind (run_orFault_ok hroot _)]
  dsimp only
  rw [run_bind (run_orFault_ok hformat _), if_neg (by decide)]
  obtain ⟨w₁, hdocument, hdisk, -⟩ := run_document isDependency_liba hcargo
  rw [run_bind hdocument]
  exact hbuild w₁ hdisk

end BadListing

end CrateBook.Command
