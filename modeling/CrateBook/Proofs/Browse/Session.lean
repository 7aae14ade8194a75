import CrateBook.Proofs.Browse.Lasting

/-!
# Sessions

A session is a sequence of requests to show an item or to list a library, all with one configuration
and with a cargo that always answers the same. As long as no build can write over the sidecar of
another library (`Steady`), the first request that builds a library makes all later requests for it
find the library built: what they need is on disk.
-/

namespace CrateBook.Browse

open Corpus (Built Names Resolver Sidecar)
open Work

/-! ## Requests -/

/-- A request for an item or for the listing of a library, made in a directory. -/
inductive Request where
  | show (itemPath : String) (directory : Option String)
  | list (library : String) (directory : Option String)
  deriving DecidableEq, Repr

namespace Request

/-- What the request is answered with. -/
def run (config : Json) : Request → Work String
  | .show itemPath directory => showItem itemPath config directory
  | .list library directory => listItems library config directory

/-- The library that the request is about. -/
def library : Request → Except Problem LibraryName
  | .show itemPath _ => (ItemPath.parse itemPath).map fun p => ⟨p.library⟩
  | .list library _ => (parseLibrary library).map LibraryName.mk

/-- The directory in which the request is made. -/
def directory : Request → Option String
  | .show _ directory | .list _ directory => directory

end Request

/-- Looks after a library in the project of a directory, and says whether it was built. -/
def prepare (config : Json) (l : LibraryName) (directory : Option String) :
    Work (Resolver × Bool) := do
  ensureBuilt (← resolverFor config directory) l config directory

/-- Reads the page that has been found. -/
def answerWith (page : Except Failure Path) : Work String := do
  let page ← orFail page
  ofReported (orFault ((← disk).read page))

/-- The request builds its library. -/
def completesBuild (config : Json) (q : Request) (w : Workspace) : Bool :=
  match q.library with
  | .error _ => false
  | .ok l =>
    match ((prepare config l q.directory).run w).1 with
    | .ok (_, built) => built
    | .error _ => false

/-- The request is for the library with the canonical name. -/
def Request.isFor (name : String) (q : Request) : Bool :=
  match q.library with
  | .error _ => false
  | .ok l => l.canonical == name

/-- How many of the requests build the library with the canonical name. -/
def completedBuilds (config : Json) (name : String) : List Request → Workspace → Nat
  | [], _ => 0
  | q :: qs, w =>
    (if q.isFor name && completesBuild config q w then 1 else 0) +
      completedBuilds config name qs ((q.run config).run w).2

/-- The workspace after requests, whatever their answers are. -/
def after (config : Json) (qs : List Request) (w : Workspace) : Workspace :=
  qs.foldl (fun w q => ((q.run config).run w).2) w

/-- The request finds its library built: cargo is asked for the metadata of the project, and what
else there is to answer with is read. -/
def ServedFromDisk (config : Json) (q : Request) (w : Workspace) : Prop :=
  ∃ l reply r, q.library = .ok l ∧
    (w.cargo.next (" ".intercalate Cargo.metadataArgs)).1 = .reply reply ∧
    (prepare config l q.directory).run w =
      (.ok (r, false), replied w Cargo.metadataArgs q.directory reply) ∧
    ((q.run config).run w).2 = replied w Cargo.metadataArgs q.directory reply

variable {config : Json} {q q' : Request} {w w' : Workspace} {l : LibraryName} {name : String}
  {sidecar report : String} {directory : Option String} {root : Path} {p : Cargo.Project}
  {r : Resolver} {b : Bool}

theorem run_orProblem_ok {α : Type} {a : α} {x : Except Problem α} (h : x = .ok a) (w : Workspace) :
    (ofReported (orProblem x)).run w = (.ok a, w) := by
  subst h
  rw [run_ofReported]
  exact Prod.ext rfl (congrArg (fun ns => { w with notices := ns }) (List.append_nil _))

theorem run_orFault_ok {α : Type} {a : α} {x : Except Fault α} (h : x = .ok a) (w : Workspace) :
    (ofReported (orFault x)).run w = (.ok a, w) := by
  subst h
  rw [run_ofReported]
  exact Prod.ext rfl (congrArg (fun ns => { w with notices := ns }) (List.append_nil _))

theorem run_orFault_snd {α : Type} (x : Except Fault α) (w : Workspace) :
    ((ofReported (orFault x)).run w).2 = w := by
  rw [run_ofReported]
  cases x <;> exact congrArg (fun ns => { w with notices := ns }) (List.append_nil _)

theorem run_answerWith_snd (page : Except Failure Path) (w : Workspace) :
    ((answerWith page).run w).2 = w := by
  cases page with
  | error f => rfl
  | ok page =>
    refine Eq.trans ?_ (run_orFault_snd (w.disk.read page) w)
    rfl

/-- A request looks after its library, and then only reads. -/
theorem run_request (config : Json) (h : q.library = .ok l) (w : Workspace) :
    ∃ answer : Resolver × Bool → Work String,
      (q.run config).run w = (prepare config l q.directory >>= answer).run w ∧
      ∀ a w, ((answer a).run w).2 = w := by
  cases q with
  | «show» itemPath directory =>
    cases hparse : ItemPath.parse itemPath with
    | error f =>
      rw [Request.library, hparse] at h
      cases h
    | ok path =>
      rw [Request.library, hparse] at h
      obtain rfl := Except.ok.inj h
      refine ⟨fun a => Work.disk >>= fun d => answerWith (a.1.resolve d path).2, ?_, fun a w => ?_⟩
      · rw [Request.run, showItem, run_bind (run_orProblem_ok hparse w), prepare, bind_assoc]
        rfl
      · exact run_answerWith_snd _ w
  | list library directory =>
    cases hparse : parseLibrary library with
    | error f =>
      rw [Request.library, hparse] at h
      cases h
    | ok name =>
      rw [Request.library, hparse] at h
      obtain rfl := Except.ok.inj h
      refine ⟨fun a => Work.disk >>= fun d => answerWith (a.1.listingPath d name).2, ?_,
        fun a w => ?_⟩
      · rw [Request.run, listItems, run_bind (run_orProblem_ok hparse w), prepare, bind_assoc]
        rfl
      · exact run_answerWith_snd _ w

/-- A request that is refused does nothing. -/
theorem run_refused {f : Problem} (h : q.library = .error f) (w : Workspace) :
    ((q.run config).run w).2 = w := by
  have hproblem {α : Type} (x : Except Problem α) (hx : ∃ f, x = .error f) :
      ∃ f, (ofReported (orProblem x)).run w = (.error f, w) := by
    obtain ⟨f, rfl⟩ := hx
    refine ⟨.problem f, ?_⟩
    rw [run_ofReported]
    exact Prod.ext rfl (congrArg (fun ns => { w with notices := ns }) (List.append_nil _))
  cases q with
  | «show» itemPath directory =>
    cases hparse : ItemPath.parse itemPath with
    | error f =>
      obtain ⟨f, hrun⟩ := hproblem _ ⟨f, hparse⟩
      rw [Request.run, showItem, run_bind_error hrun]
    | ok path =>
      rw [Request.library, hparse] at h
      cases h
  | list library directory =>
    cases hparse : parseLibrary library with
    | error f =>
      obtain ⟨f, hrun⟩ := hproblem _ ⟨f, hparse⟩
      rw [Request.run, listItems, run_bind_error hrun]
    | ok path =>
      rw [Request.library, hparse] at h
      cases h

/-- A request carries a property on. -/
theorem Carries.request {I : Workspace → Prop} {P : Cargo.Project → Prop}
    (h : Carries I P config)
    (hplain : ∀ l, q.library = .ok l → ∀ p, P p → ∀ library, p.library l.declared = .ok library →
      Path.IsPlain library.canonical) (hw : I w) : I ((q.run config).run w).2 := by
  cases hq : q.library with
  | error f =>
    rw [run_refused hq]
    exact hw
  | ok l =>
    obtain ⟨answer, hrun, hanswer⟩ := run_request config hq w
    rw [hrun]
    have hprepare : Keeps I (prepare config l q.directory) fun _ => True :=
      (h.resolverFor q.directory).bind fun r _ =>
        h.ensureBuilt r l q.directory (hplain l hq)
    have hread (a : Resolver × Bool) : Keeps I (answer a) fun _ => True :=
      fun w hw => ⟨(hanswer a w).symm ▸ hw, fun _ _ => trivial⟩
    exact ((hprepare.bind fun a _ => hread a) w hw).1

/-! ## Resolvers of a project -/

/-- Two projects that one script describes are one. -/
theorem Describes.unique {script : Cargo.Script} {p p' : Cargo.Project} (h : Describes script p)
    (h' : Describes script p') : p' = p := by
  obtain ⟨reply, hreply, -, hp⟩ := h
  obtain ⟨reply', hreply', -, hp'⟩ := h'
  rw [hreply] at hreply'
  obtain rfl := Cargo.Answer.reply.inj hreply'
  rw [hp] at hp'
  exact (Except.ok.inj hp').symm

theorem of_run_resolverFor (hnames : Names config sidecar report)
    (h : (resolverFor config directory).run w = (.ok r, w')) :
    ∃ p root, Describes w.cargo p ∧ Build.outputRoot p config = .ok root ∧
      r = ⟨root, .str sidecar, []⟩ := by
  obtain ⟨p, w₁, hp, h⟩ := of_run_bind h
  obtain ⟨root, w₂, hroot, h⟩ := of_run_bind h
  obtain ⟨name, w₃, hname, h⟩ := of_run_bind h
  obtain ⟨output, houtput, hsidecar, -⟩ := hnames
  have hmember := of_run_ofFault hname
  rw [houtput] at hmember
  obtain rfl := Except.ok.inj (hsidecar.symm.trans hmember)
  refine ⟨p, root, of_run_project hp, of_run_ofFault hroot, ?_⟩
  cases h
  rfl

theorem run_project {reply : Cargo.Reply}
    (hanswer : (w.cargo.next (" ".intercalate Cargo.metadataArgs)).1 = .reply reply)
    (hcode : reply.code = 0) (hp : Cargo.Project.ofText reply.stdout = .ok p)
    (directory : Option String) :
    (project directory).run w = (.ok p, replied w Cargo.metadataArgs directory reply) := by
  rw [project, run_bind (run_callCargo_reply hanswer hcode directory), hp]
  rfl

/-- Cargo's answer is all that it takes to find the corpora of a project. -/
theorem run_resolverFor (hnames : Names config sidecar report) {reply : Cargo.Reply}
    (hanswer : (w.cargo.next (" ".intercalate Cargo.metadataArgs)).1 = .reply reply)
    (hcode : reply.code = 0) (hp : Cargo.Project.ofText reply.stdout = .ok p)
    (hroot : Build.outputRoot p config = .ok root) (directory : Option String) :
    (resolverFor config directory).run w =
      (.ok ⟨root, .str sidecar, []⟩, replied w Cargo.metadataArgs directory reply) := by
  obtain ⟨output, houtput, hsidecar, -⟩ := hnames
  have hname : (do (← config.member "output").member "metadata_file") = .ok (.str sidecar) := by
    rw [houtput]
    exact hsidecar
  rw [resolverFor, run_bind (run_project hanswer hcode hp directory),
    run_bind (run_orFault_ok hroot _), run_bind (run_orFault_ok hname _)]
  rfl

/-! ## Steady sessions -/

/-- Cargo always gives the same answers and writes no sidecars, the dependencies of the project have
the names of packages, and no build can write over the sidecar of another library. -/
structure Steady (script : Cargo.Script) (config : Json) (sidecar report : String) : Prop where
  constant : ∀ command, (script.next command).2 = script
  dependencies : ∀ p, Describes script p → ∀ name, .str name ∈ p.dependencies → '/' ∉ name.toList
  replies : ∀ p root, Describes script p → Build.outputRoot p config = .ok root →
    ∀ command reply, (script.next command).1 = .reply reply → ∀ file ∈ reply.files,
      ∀ name, Path.IsPlain name → file.1.place ≠ ((root.child name).child sidecar).place
  apart : ∀ p root, Describes script p → Build.outputRoot p config = .ok root →
    SetApart config root sidecar report

variable {script : Cargo.Script} {J : Disk → Prop}

/-- In a steady session, a sidecar of the project stays current. -/
theorem Steady.lasting (h : Steady script config sidecar report) (hp : Describes script p)
    (hroot : Build.outputRoot p config = .ok root) (hname : Path.IsPlain name) :
    Lasting script config fun d => HoldsCurrent config d ((root.child name).child sidecar) where
  constant := h.constant
  reply command reply hanswer d hd := by
    have hfiles := h.replies p root hp hroot command reply hanswer
    generalize reply.files = files at hfiles ⊢
    induction files generalizing d with
    | nil => exact hd
    | cons file files ih =>
      obtain ⟨hfile, hrest⟩ := List.forall_mem_cons.1 hfiles
      exact ih _ (hd.writeBytes (hfile name hname) file.2) hrest
  build p' root' hp' hroot' library built hlibrary hsound format d hd := by
    obtain rfl := hp.unique hp'
    obtain rfl := Except.ok.inj (hroot.symm.trans hroot')
    exact holdsCurrent_changes (h.apart p' root hp hroot) hsound hlibrary hname hd

theorem Steady.lasting_true (h : Steady script config sidecar report) :
    Lasting script config fun _ => True :=
  ⟨h.constant, fun _ _ _ _ _ => trivial, fun _ _ _ _ _ _ _ _ _ _ _ => trivial⟩

theorem isSegment_of_library (h : q.library = .ok l) : ItemPath.IsSegment l.declared := by
  cases q with
  | «show» itemPath directory =>
    cases hparse : ItemPath.parse itemPath with
    | error f =>
      rw [Request.library, hparse] at h
      cases h
    | ok path =>
      rw [Request.library, hparse] at h
      obtain rfl := Except.ok.inj h
      exact ItemPath.isSegment_of_parse hparse
  | list library directory =>
    cases hparse : parseLibrary library with
    | error f =>
      rw [Request.library, hparse] at h
      cases h
    | ok name =>
      rw [Request.library, hparse] at h
      obtain rfl := Except.ok.inj h
      exact ItemPath.isSegment_of_parseLibrary hparse

/-- The library that is built for a request has the name of a directory. -/
theorem Steady.isPlain (h : Steady script config sidecar report) (hq : q.library = .ok l)
    (hp : Describes script p) {library : LibraryName}
    (hlibrary : p.library l.declared = .ok library) :
    Path.IsPlain library.canonical := by
  obtain ⟨hcanonical, hmem⟩ := canonical_findLibrary hlibrary
  exact (isSegment_of_library hq).isPlain_canonical hcanonical (h.dependencies p hp _ hmem)

/-- One request keeps what lasts. -/
theorem Steady.standing_run (h : Steady script config sidecar report)
    (hlasting : Lasting script config J) (q : Request) (hw : Standing script J w) :
    Standing script J ((q.run config).run w).2 :=
  hlasting.carries.request (fun _ hq _ hp _ hlibrary => h.isPlain hq hp hlibrary) hw

/-- A session keeps what lasts. -/
theorem Steady.standing_after (h : Steady script config sidecar report)
    (hlasting : Lasting script config J) (qs : List Request) (hw : Standing script J w) :
    Standing script J (after config qs w) := by
  induction qs generalizing w with
  | nil => exact hw
  | cons q qs ih => exact ih (h.standing_run hlasting q hw)

/-! ## Building once -/

/-- A request that builds its library leaves a current sidecar of it. -/
theorem Steady.standing_of_completes (h : Steady script config sidecar report)
    (hnames : Names config sidecar report) (hw : w.cargo = script) (hq : q.library = .ok l)
    (hbuild : completesBuild config q w = true) :
    ∃ p root, Describes script p ∧ Build.outputRoot p config = .ok root ∧
      Path.IsPlain l.canonical ∧
      Standing script (fun d => HoldsCurrent config d ((root.child l.canonical).child sidecar))
        ((q.run config).run w).2 := by
  obtain ⟨answer, hrun, hanswer⟩ := run_request config hq w
  rw [completesBuild, hq] at hbuild
  dsimp only at hbuild
  rcases hprepare : (prepare config l q.directory).run w with ⟨f | ⟨r', b⟩, w'⟩ <;>
    rw [hprepare] at hbuild
  · cases hbuild
  · obtain rfl : b = true := hbuild
    obtain ⟨r, w₁, hresolver, hensure⟩ := of_run_bind hprepare
    obtain ⟨p, root, hp, hroot, rfl⟩ := of_run_resolverFor hnames hresolver
    rw [hw] at hp
    have hw₁ := (h.lasting_true.carries.resolverFor q.directory).of_run ⟨hw, trivial⟩ hresolver
    have hw' := (h.lasting_true.carries.ensureBuilt _ l q.directory fun _ hp _ hl =>
      h.isPlain hq hp hl).of_run hw₁ hensure
    have hplain : Path.IsPlain l.canonical := by
      rcases of_run_ensureBuilt hensure with ⟨hfalse, -⟩ | ⟨-, -, w₂, result, -, hcargo, hbuilt⟩
      · cases hfalse
      · obtain ⟨p', library, -, -, -, -, hp', hlibrary, -⟩ := of_run_build hbuilt
        rw [hcargo, hw₁.cargo] at hp'
        have hcanonical : library.canonical = l.canonical := (canonical_findLibrary hlibrary).1
        exact hcanonical ▸ h.isPlain hq hp' hlibrary
    have hisRoot : IsRoot w₁.cargo config root := by
      intro p' hp' root' hroot'
      rw [hw₁.cargo] at hp'
      obtain rfl := hp.unique hp'
      exact (Except.ok.inj (hroot.symm.trans hroot')).symm
    have hcurrent := (holdsCurrent_of_run_ensureBuilt hnames hisRoot
      ((h.apart p root hp hroot).report _ hplain) (LooksIn.fresh root sidecar w₁.disk l) hensure).2
    refine ⟨p, root, hp, hroot, hplain, ?_⟩
    rw [hrun, run_bind hprepare, hanswer]
    exact ⟨hw'.cargo, hcurrent⟩

/-- A request for a library with a current sidecar finds it built. -/
theorem Steady.served (h : Steady script config sidecar report)
    (hnames : Names config sidecar report) (hp : Describes script p)
    (hroot : Build.outputRoot p config = .ok root)
    (hq : q.library = .ok l) (hplain : Path.IsPlain l.canonical)
    (hw : Standing script
      (fun d => HoldsCurrent config d ((root.child l.canonical).child sidecar)) w) :
    ServedFromDisk config q w := by
  obtain ⟨reply, hanswer, hcode, hproject⟩ := hp
  rw [← hw.cargo] at hanswer
  have hresolver := run_resolverFor hnames hanswer hcode hproject hroot q.directory
  have hlasting := h.lasting ⟨reply, hw.cargo ▸ hanswer, hcode, hproject⟩ hroot hplain
  have hw₁ := (hlasting.carries.resolverFor q.directory).of_run hw hresolver
  obtain ⟨r, hensure, -⟩ := run_ensureBuilt_current (LooksIn.fresh root sidecar _ l) hw₁.disk
    q.directory
  have hprepare : (prepare config l q.directory).run w =
      (.ok (r, false), replied w Cargo.metadataArgs q.directory reply) := by
    rw [prepare, run_bind hresolver]
    exact hensure
  obtain ⟨answer, hrun, hread⟩ := run_request config hq w
  refine ⟨l, reply, r, hq, hanswer, hprepare, ?_⟩
  rw [hrun, run_bind hprepare, hread]

theorem ServedFromDisk.completesBuild_eq_false (h : ServedFromDisk config q w) :
    completesBuild config q w = false := by
  obtain ⟨l, reply, r, hq, -, hprepare, -⟩ := h
  rw [completesBuild, hq]
  dsimp only
  rw [hprepare]

theorem Request.isFor_eq_true_iff :
    q.isFor name = true ↔ ∃ l, q.library = .ok l ∧ l.canonical = name := by
  rw [Request.isFor]
  cases q.library with
  | error f => simp
  | ok l => simp

/-- Once a library is built, no request builds it. -/
theorem Steady.completedBuilds_eq_zero (h : Steady script config sidecar report)
    (hnames : Names config sidecar report) (hp : Describes script p)
    (hroot : Build.outputRoot p config = .ok root) (hplain : Path.IsPlain name) (qs : List Request)
    (hw : Standing script (fun d => HoldsCurrent config d ((root.child name).child sidecar)) w) :
    completedBuilds config name qs w = 0 := by
  induction qs generalizing w with
  | nil => rfl
  | cons q qs ih =>
    rw [completedBuilds, ih (h.standing_run (h.lasting hp hroot hplain) q hw), if_neg]
    rw [Bool.and_eq_true, Request.isFor_eq_true_iff]
    rintro ⟨⟨l, hq, rfl⟩, hbuild⟩
    rw [(h.served hnames hp hroot hq hplain hw).completesBuild_eq_false] at hbuild
    cases hbuild

/-- In a session, at most one request builds a library. -/
theorem Steady.completedBuilds_le_one (h : Steady script config sidecar report)
    (hnames : Names config sidecar report) (name : String) (qs : List Request)
    (hw : w.cargo = script) : completedBuilds config name qs w ≤ 1 := by
  induction qs generalizing w with
  | nil => exact Nat.zero_le 1
  | cons q qs ih =>
    rw [completedBuilds]
    split
    · rename_i hq
      rw [Bool.and_eq_true, Request.isFor_eq_true_iff] at hq
      obtain ⟨⟨l, hl, rfl⟩, hbuild⟩ := hq
      obtain ⟨p, root, hp, hroot, hplain, hafter⟩ := h.standing_of_completes hnames hw hl hbuild
      rw [h.completedBuilds_eq_zero hnames hp hroot hplain qs hafter]
    · rw [Nat.zero_add]
      exact ih (h.standing_run h.lasting_true q ⟨hw, trivial⟩).cargo

/-- In a session, every request for a library that was built before finds it built. -/
theorem Steady.served_after_build (h : Steady script config sidecar report)
    (hnames : Names config sidecar report) (hw : w.cargo = script) {before between : List Request}
    {l' : LibraryName} (hq : q.library = .ok l)
    (hbuild : completesBuild config q (after config before w) = true) (hq' : q'.library = .ok l')
    (hl : l'.canonical = l.canonical) :
    ServedFromDisk config q' (after config (before ++ q :: between) w) := by
  have hbefore := h.standing_after h.lasting_true before ⟨hw, trivial⟩
  obtain ⟨p, root, hp, hroot, hplain, hbuilt⟩ :=
    h.standing_of_completes hnames hbefore.cargo hq hbuild
  have hbetween := h.standing_after (h.lasting hp hroot hplain) between hbuilt
  rw [after, List.foldl_append, List.foldl_cons]
  rw [← hl] at hplain hbetween
  exact h.served hnames hp hroot hq' hplain hbetween

end CrateBook.Browse
