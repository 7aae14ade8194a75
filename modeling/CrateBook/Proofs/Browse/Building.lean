import CrateBook.Proofs.Browse.Current
import CrateBook.Proofs.Build.Run

/-!
# Building on demand

A library is built unless its sidecar is current. A build that returns has saved a current sidecar
at the very path where the resolver looks for it, whichever spelling of the name it was asked for
(`holdsCurrent_of_run_build`), so that the library is not built again (`run_ensureBuilt_current`).
-/

namespace CrateBook.Browse

open Corpus (Built Names Report Resolver Sidecar)
open Work

variable {config : Json} {sidecar report name : String} {root : Path} {w w' : Workspace}
  {directory directory' : Option String} {l l' : LibraryName} {r r' r'' : Resolver} {d : Disk}
  {b : Bool} {α : Type} {f : Failure} {a : α} {s : Sidecar} {args : List String}

/-! ## Cargo -/

/-- Cargo describes the project when it is asked for its metadata. -/
def Describes (script : Cargo.Script) (p : Cargo.Project) : Prop :=
  ∃ reply, (script.next (" ".intercalate Cargo.metadataArgs)).1 = .reply reply ∧
    reply.code = 0 ∧ Cargo.Project.ofText reply.stdout = .ok p

/-- The directory is the one for the corpora of the project that cargo describes. -/
def IsRoot (script : Cargo.Script) (config : Json) (root : Path) : Prop :=
  ∀ p, Describes script p → ∀ root', Build.outputRoot p config = .ok root' → root' = root

/-- The workspace after cargo has replied. -/
def replied (w : Workspace) (args : List String) (directory : Option String)
    (reply : Cargo.Reply) : Workspace :=
  { w with
    disk := reply.files.foldl (fun d f => (d.writeBytes f.1 f.2).1) w.disk
    cargo := (w.cargo.next (" ".intercalate args)).2
    calls := w.calls ++ [("cargo " ++ " ".intercalate args, directory)] }

theorem run_callCargo (args : List String) (directory : Option String) (w : Workspace) :
    (callCargo args directory).run w =
      match (w.cargo.next (" ".intercalate args)).1 with
      | .unavailable reason =>
        (.error (.problem (.cargoFailed ("cargo " ++ " ".intercalate args) reason)),
          replied w args directory {})
      | .reply reply =>
        (if reply.code ≠ 0 then
          .error (.problem (.cargoFailed ("cargo " ++ " ".intercalate args) reply.stderr))
        else .ok reply, replied w args directory reply) := by
  rw [callCargo]
  dsimp only
  refine (run_bind (x := (get : Work Workspace)) (a := w) (t := w) rfl).trans ?_
  refine (run_bind (x := (modify _ : Work Unit)) (a := ()) rfl).trans ?_
  cases (w.cargo.next (" ".intercalate args)).1 with
  | unavailable reason => rfl
  | reply reply =>
    dsimp only
    by_cases hcode : reply.code = 0
    · rw [if_neg (by simpa using hcode), if_neg (by simpa using hcode)]
      rfl
    · rw [if_pos hcode, if_pos hcode]
      rfl

theorem run_callCargo_reply {reply : Cargo.Reply}
    (hanswer : (w.cargo.next (" ".intercalate args)).1 = .reply reply) (hcode : reply.code = 0)
    (directory : Option String) :
    (callCargo args directory).run w = (.ok reply, replied w args directory reply) := by
  rw [run_callCargo, hanswer]
  dsimp only
  rw [if_neg (not_not.2 hcode)]

theorem of_run_callCargo {reply : Cargo.Reply}
    (h : (callCargo args directory).run w = (.ok reply, w')) :
    (w.cargo.next (" ".intercalate args)).1 = .reply reply ∧ reply.code = 0 ∧
      w' = replied w args directory reply := by
  rw [run_callCargo] at h
  split at h
  · cases h
  · rename_i reply' hanswer
    obtain ⟨hresult, rfl⟩ := Prod.mk.inj h
    split at hresult
    · cases hresult
    · rename_i hcode
      obtain rfl := Except.ok.inj hresult
      exact ⟨hanswer, not_not.1 hcode, rfl⟩

theorem of_run_orFail {x : Except Failure α} (h : (orFail x).run w = (.ok a, w')) :
    x = .ok a ∧ w' = w := by
  cases x with
  | ok b => cases h; exact ⟨rfl, rfl⟩
  | error f => cases h

theorem of_run_ofReported {x : Reported α} (h : (ofReported x).run w = (.ok a, w')) :
    ∃ ns, x.run [] = (.ok a, ns) ∧ w' = { w with notices := w.notices ++ ns } := by
  rw [run_ofReported] at h
  obtain ⟨hresult, rfl⟩ := Prod.mk.inj h
  exact ⟨(x.run []).2, Prod.ext hresult rfl, rfl⟩

theorem of_run_ofFault {x : Except Fault α} (h : (ofReported (orFault x)).run w = (.ok a, w')) :
    x = .ok a := by
  obtain ⟨ns, hrun, -⟩ := of_run_ofReported h
  exact (of_run_orFault hrun).1

theorem of_run_discard {x : Work α} {u : Unit} (h : (discard x).run w = (.ok u, w')) :
    ∃ a, x.run w = (.ok a, w') := by
  obtain ⟨a, w₁, hx, hlast⟩ := of_run_bind h
  cases hlast
  exact ⟨a, hx⟩

theorem of_run_project {p : Cargo.Project} (h : (project directory).run w = (.ok p, w')) :
    Describes w.cargo p := by
  obtain ⟨reply, w₁, hcall, h⟩ := of_run_bind h
  obtain ⟨hanswer, hcode, -⟩ := of_run_callCargo hcall
  exact ⟨reply, hanswer, hcode, (of_run_orFail h).1⟩

/-! ## Builds that return -/

theorem canonical_findLibrary {ds : List Json} {all : List String}
    (h : Cargo.findLibrary name all ds = .ok l) :
    l.canonical = canonicalName name ∧ .str l.declared ∈ ds := by
  induction ds generalizing all with
  | nil => cases h
  | cons d ds ih =>
    rw [Cargo.findLibrary.eq_def] at h
    split at h
    · cases h
    · rename_i s rest hd
      obtain ⟨rfl, rfl⟩ := List.cons.inj hd
      split at h
      · rename_i hs
        obtain rfl := Except.ok.inj h
        exact ⟨eq_of_beq hs, List.mem_cons_self⟩
      · obtain ⟨hcanonical, hmem⟩ := ih h
        exact ⟨hcanonical, List.mem_cons_of_mem _ hmem⟩
    · cases h

/-- A build that returns has made all changes of a sound build of the library that was asked for. -/
theorem of_run_build {result : Report}
    (h : (Build.build name config directory).run w = (.ok result, w')) :
    ∃ p library root format d built, Describes w.cargo p ∧ p.library name = .ok library ∧
      Build.outputRoot p config = .ok root ∧ IsSound config built ∧
      (built.applied d library (root.child library.canonical) format config).failure = none ∧
      w'.disk = (built.applied d library (root.child library.canonical) format config).disk := by
  obtain ⟨p, w₁, hp, h⟩ := of_run_bind h
  obtain ⟨library, w₂, hlibrary, h⟩ := of_run_bind h
  obtain ⟨root, w₃, hroot, h⟩ := of_run_bind h
  obtain ⟨format, w₄, -, h⟩ := of_run_bind h
  have hfound := (of_run_orFail hlibrary).1
  have hwhere := of_run_ofFault hroot
  split at h
  · obtain ⟨dump, w₅, -, h⟩ := of_run_bind h
    obtain ⟨built, ns, hfrom, hok, hdisk, -⟩ := Build.of_run_buildFromDump h
    exact ⟨p, library, root, _, _, built, of_run_project hp, hfound, hwhere,
      isSound_of_run_fromDump hfrom, hok, hdisk⟩
  · obtain ⟨docs, w₅, -, h⟩ := of_run_bind h
    obtain ⟨built, ns, hfrom, hok, hdisk, -⟩ := Build.of_run_buildFromPages h
    exact ⟨p, library, root, _, _, built, of_run_project hp, hfound, hwhere,
      isSound_of_run_fromPages hfrom, hok, hdisk⟩

/-- After a build that returns, the sidecar of the library is current. -/
theorem holdsCurrent_of_run_build {result : Report} (hnames : Names config sidecar report)
    (hroot : IsRoot w.cargo config root)
    (hne : ((root.child l.canonical).child sidecar).place ≠
      ((root.child l.canonical).child report).place)
    (h : (Build.build l.declared config directory).run w = (.ok result, w')) :
    HoldsCurrent config w'.disk ((root.child l.canonical).child sidecar) := by
  obtain ⟨p, library, root', format, d, built, hp, hlibrary, hroot', hsound, hok, hdisk⟩ :=
    of_run_build h
  obtain rfl := hroot p hp root' hroot'
  have hcanonical : library.canonical = l.canonical := (canonical_findLibrary hlibrary).1
  rw [hdisk, ← hcanonical]
  rw [← hcanonical] at hne
  refine ⟨_, Corpus.load_sidecar hnames hne hok hsound.keys, ?_⟩
  rw [isCurrent, Sidecar.sorted, Built.sidecar, hsound.digest]
  exact beq_self_eq_true _

/-! ## Resolvers -/

/-- The resolver looks for sidecars in the corpora of the directory, and knows at most the one that
is there. -/
structure LooksIn (root : Path) (sidecar : String) (d : Disk) (l : LibraryName) (r : Resolver) :
    Prop where
  rooted : r.root = root
  named : r.sidecarName = .str sidecar
  known : ∀ s, r.known.lookup l.canonical = some s →
    Sidecar.load d ((root.child l.canonical).child sidecar) = .ok s

theorem LooksIn.fresh (root : Path) (sidecar : String) (d : Disk) (l : LibraryName) :
    LooksIn root sidecar d l ⟨root, .str sidecar, []⟩ where
  rooted := rfl
  named := rfl
  known s hs := by cases hs

theorem LooksIn.sidecarPath (h : LooksIn root sidecar d l r) :
    r.sidecarPath l = .ok ((root.child l.canonical).child sidecar) := by
  rw [Resolver.sidecarPath, h.named, Corpus.configuredPath, Resolver.libraryPath, h.rooted]

theorem LooksIn.canonical (h : LooksIn root sidecar d l r) (hl : l'.canonical = l.canonical) :
    LooksIn root sidecar d l' r where
  rooted := h.rooted
  named := h.named
  known := by
    rw [hl]
    exact h.known

/-- What a resolver loads is what is in the corpus, and then it still knows no more. -/
theorem LooksIn.of_load (h : LooksIn root sidecar d l r) (hload : r.load d l = (r', .ok (some s))) :
    Sidecar.load d ((root.child l.canonical).child sidecar) = .ok s ∧
      LooksIn root sidecar d l r' := by
  rw [Resolver.load, h.sidecarPath] at hload
  cases hknown : r.known.lookup l.canonical with
  | some s' =>
    rw [hknown] at hload
    cases hload
    exact ⟨h.known s hknown, h⟩
  | none =>
    rw [hknown] at hload
    dsimp only at hload
    split at hload
    · cases hload
    · cases hload
    · cases hfile : Sidecar.load d ((root.child l.canonical).child sidecar) with
      | error p =>
        rw [hfile] at hload
        cases hload
      | ok s' =>
        rw [hfile] at hload
        cases hload
        refine ⟨rfl, h.rooted, h.named, fun s'' hs'' => ?_⟩
        rw [Json.lookup_setMember_self] at hs''
        rw [← Option.some.inj hs'', hfile]

/-- A sidecar in the corpus is loaded. -/
theorem LooksIn.load (h : LooksIn root sidecar d l r)
    (hfile : Sidecar.load d ((root.child l.canonical).child sidecar) = .ok s) :
    ∃ r', r.load d l = (r', .ok (some s)) := by
  rw [Resolver.load, h.sidecarPath]
  cases hknown : r.known.lookup l.canonical with
  | some s' =>
    have hs' := h.known s' hknown
    rw [hfile] at hs'
    obtain rfl := Except.ok.inj hs'
    exact ⟨r, rfl⟩
  | none =>
    obtain ⟨bytes, hfind⟩ := find_of_load hfile
    dsimp only
    rw [Disk.has_of_find hfind, hfile]
    exact ⟨_, rfl⟩

/-- A resolver that has forgotten a library knows nothing of it. -/
theorem LooksIn.forget (hroot : r.root = root) (hname : r.sidecarName = .str sidecar) (d : Disk)
    (l : LibraryName) : LooksIn root sidecar d l (r.forget l) where
  rooted := hroot
  named := hname
  known s hs := by
    rw [Resolver.forget, List.lookup_eq_some_iff] at hs
    obtain ⟨before, after, hsplit, -⟩ := hs
    have hmem : (l.canonical, s) ∈ before ++ (l.canonical, s) :: after := by simp
    rw [← hsplit] at hmem
    simp at hmem

/-! ## Building unless current -/

theorem run_readableSidecar (r : Resolver) (l : LibraryName) (w : Workspace) :
    (readableSidecar r l).run w =
      match r.load w.disk l with
      | (r, .ok s) => (.ok (r, s), w)
      | (r, .error (.problem p)) =>
        (.ok (r, none), { w with notices := w.notices ++ [.unreadable p] })
      | (_, .error (.fault f)) => (.error (.fault f), w) := by
  rw [readableSidecar, run_bind (x := Work.disk) (a := w.disk) (t := w) rfl]
  rcases r.load w.disk l with ⟨r', (p | f) | s⟩ <;> rfl

theorem load_fields (r : Resolver) (d : Disk) (l : LibraryName) :
    (r.load d l).1.root = r.root ∧ (r.load d l).1.sidecarName = r.sidecarName := by
  rw [Resolver.load]
  split
  · exact ⟨rfl, rfl⟩
  · exact ⟨rfl, rfl⟩
  · split
    · exact ⟨rfl, rfl⟩
    · exact ⟨rfl, rfl⟩
    · split <;> exact ⟨rfl, rfl⟩

/-- Looking for a sidecar at most reports that it is unreadable. -/
theorem of_run_readableSidecar {o : Option Sidecar}
    (h : (readableSidecar r l).run w = (.ok (r', o), w')) :
    r' = (r.load w.disk l).1 ∧ w'.disk = w.disk ∧ w'.cargo = w.cargo ∧
      ∀ s, o = some s → w' = w ∧ r.load w.disk l = (r', .ok (some s)) := by
  rw [run_readableSidecar] at h
  rcases hload : r.load w.disk l with ⟨r₁, (p | f) | o'⟩ <;> rw [hload] at h <;> cases h
  · exact ⟨rfl, rfl, rfl, fun s hs => by cases hs⟩
  · exact ⟨rfl, rfl, rfl, fun s hs => by rw [hs]; exact ⟨rfl, rfl⟩⟩

/-- A library whose sidecar is current is not built, and nothing else happens either. -/
theorem run_ensureBuilt_current (h : LooksIn root sidecar w.disk l r)
    (hcurrent : HoldsCurrent config w.disk ((root.child l.canonical).child sidecar))
    (directory : Option String) :
    ∃ r', (ensureBuilt r l config directory).run w = (.ok (r', false), w) ∧
      LooksIn root sidecar w.disk l r' := by
  obtain ⟨s, hs, hdigest⟩ := hcurrent
  obtain ⟨r', hload⟩ := h.load hs
  have hread := run_readableSidecar r l w
  rw [hload] at hread
  refine ⟨r', ?_, (h.of_load hload).2⟩
  rw [ensureBuilt, run_bind hread]
  dsimp only
  rw [Option.any_some, if_pos hdigest]
  rfl

/-- A library that has been looked after either was current or has been built. -/
theorem of_run_ensureBuilt (h : (ensureBuilt r l config directory).run w = (.ok (r', b), w')) :
    (b = false ∧ w' = w ∧ ∃ s, r.load w.disk l = (r', .ok (some s)) ∧ isCurrent s config = true) ∨
      (b = true ∧ r' = (r.load w.disk l).1.forget l ∧ ∃ w₁ result,
        w₁.disk = w.disk ∧ w₁.cargo = w.cargo ∧
        (Build.build l.declared config directory).run w₁ = (.ok result, w')) := by
  obtain ⟨⟨r₁, o⟩, w₁, hread, h⟩ := of_run_bind h
  obtain ⟨rfl, hdisk, hcargo, hsome⟩ := of_run_readableSidecar hread
  dsimp only at h
  split at h
  · rename_i hany
    cases h
    cases o with
    | none => cases hany
    | some s =>
      obtain ⟨rfl, hload⟩ := hsome s rfl
      exact .inl ⟨rfl, rfl, s, hload, hany⟩
  · obtain ⟨_, w₂, hnotify, hafter⟩ := of_run_bind h
    obtain ⟨_, w₃, hdiscard, hlast⟩ := of_run_bind hafter
    obtain ⟨result, hbuild⟩ := of_run_discard hdiscard
    cases hlast
    have hw₂ := congrArg Prod.snd hnotify
    refine .inr ⟨rfl, rfl, w₂, result, ?_, ?_, hbuild⟩
    · exact (congrArg Workspace.disk hw₂).symm.trans hdisk
    · exact (congrArg Workspace.cargo hw₂).symm.trans hcargo

/-- When a library has been looked after, its sidecar is current, and the resolver that is left
knows no other one. -/
theorem holdsCurrent_of_run_ensureBuilt (hnames : Names config sidecar report)
    (hroot : IsRoot w.cargo config root)
    (hne : ((root.child l.canonical).child sidecar).place ≠
      ((root.child l.canonical).child report).place)
    (hr : LooksIn root sidecar w.disk l r)
    (h : (ensureBuilt r l config directory).run w = (.ok (r', b), w')) :
    LooksIn root sidecar w'.disk l r' ∧
      HoldsCurrent config w'.disk ((root.child l.canonical).child sidecar) := by
  rcases of_run_ensureBuilt h with ⟨-, rfl, s, hload, hcurrent⟩ |
    ⟨-, rfl, w₁, result, hdisk, hcargo, hbuild⟩
  · obtain ⟨hs, hr'⟩ := hr.of_load hload
    exact ⟨hr', s, hs, hcurrent⟩
  · obtain ⟨hrooted, hnamed⟩ := load_fields r w.disk l
    refine ⟨LooksIn.forget (hrooted.trans hr.rooted) (hnamed.trans hr.named) w'.disk l, ?_⟩
    refine holdsCurrent_of_run_build hnames ?_ hne hbuild
    rw [hcargo]
    exact hroot

end CrateBook.Browse
