import CrateBook.Proofs.Browse.Session

/-!
# Spellings of one library

A library is looked up, built and found on disk under its canonical name, so requests that spell it
in two ways are answered alike and leave the same disk (`answers_respelled`). They differ in what is
reported on the way, and in the name that a problem quotes.

Two pieces of work are `Parallel` when they lead workspaces that agree up to notices to workspaces
that do, and give related answers. Nothing that the program does reads a notice, so a piece of work
that quotes no name is parallel to itself.
-/

namespace CrateBook.Browse

open Corpus (Built Change Report Resolver Sidecar)
open Work

variable {α β γ δ : Type} {E : Failure → Failure → Prop} {R : α → β → Prop} {S : γ → δ → Prop}
  {x : Work α} {y : Work β} {g : α → Work γ} {h : β → Work δ} {w w' : Workspace}

/-! ## Work side by side -/

/-- The workspaces differ at most in their notices. -/
structure Agree (w w' : Workspace) : Prop where
  disk : w.disk = w'.disk
  cargo : w.cargo = w'.cargo
  calls : w.calls = w'.calls

/-- Both answers are values that are related, or failures that are. -/
inductive Alike (E : Failure → Failure → Prop) (R : α → β → Prop) :
    Except Failure α → Except Failure β → Prop
  | ok {a : α} {b : β} : R a b → Alike E R (.ok a) (.ok b)
  | error {f f' : Failure} : E f f' → Alike E R (.error f) (.error f')

/-- An answer that is like a value is the same value. -/
theorem Alike.eq_ok {a : α} {answer : Except Failure α} (h : Alike E (· = ·) (.ok a) answer) :
    answer = .ok a := by
  cases h with
  | ok hab => rw [← hab]

/-- From workspaces that agree both works lead to workspaces that agree, with answers alike. -/
def Parallel (E : Failure → Failure → Prop) (R : α → β → Prop) (x : Work α) (y : Work β) : Prop :=
  ∀ w w', Agree w w' → Agree (x.run w).2 (y.run w').2 ∧ Alike E R (x.run w).1 (y.run w').1

theorem Agree.refl (w : Workspace) : Agree w w := ⟨rfl, rfl, rfl⟩

/-- Notices may be added on either side. -/
theorem Agree.notices (hw : Agree w w') (ns ns' : List Notice) :
    Agree { w with notices := ns } { w' with notices := ns' } := ⟨hw.disk, hw.cargo, hw.calls⟩

/-- What cargo does depends on nothing in which the workspaces may differ. -/
theorem Agree.replied (hw : Agree w w') (args : List String) (directory : Option String)
    (reply : Cargo.Reply) :
    Agree (replied w args directory reply) (replied w' args directory reply) := by
  obtain ⟨hdisk, hcargo, hcalls⟩ := hw
  constructor <;> simp only [Browse.replied, hdisk, hcargo, hcalls]

namespace Parallel

theorem pure {a : α} {b : β} (hab : R a b) : Parallel E R (pure a) (pure b) :=
  fun _ _ hw => ⟨hw, .ok hab⟩

theorem bind (hxy : Parallel E R x y) (hgh : ∀ a b, R a b → Parallel E S (g a) (h b)) :
    Parallel E S (x >>= g) (y >>= h) := by
  intro w w' hw
  obtain ⟨hagree, halike⟩ := hxy w w' hw
  rcases hx : x.run w with ⟨rx, w₁⟩
  rcases hy : y.run w' with ⟨ry, w₁'⟩
  rw [hx, hy] at hagree halike
  cases halike with
  | ok hab =>
    rw [run_bind hx, run_bind hy]
    exact hgh _ _ hab _ _ hagree
  | error hf =>
    rw [run_bind_error hx, run_bind_error hy]
    exact ⟨hagree, .error hf⟩

/-- Both works go on with one value. -/
theorem bind_eq {x y : Work α} {g : α → Work γ} {h : α → Work δ}
    (hxy : Parallel E (· = ·) x y) (hgh : ∀ a, Parallel E S (g a) (h a)) :
    Parallel E S (x >>= g) (y >>= h) :=
  hxy.bind fun a _ hab => hab ▸ hgh a

theorem discard (hxy : Parallel E R x y) :
    Parallel E (· = ·) (discard x) (discard y) :=
  hxy.bind fun _ _ _ => Parallel.pure rfl

theorem notify (n n' : Notice) : Parallel E (· = ·) (notify n) (notify n') :=
  fun _ _ hw => ⟨hw.notices _ _, .ok rfl⟩

theorem orFail {r : Except Failure α} {r' : Except Failure β} (hr : Alike E R r r') :
    Parallel E R (orFail r) (orFail r') := by
  intro w w' hw
  cases hr with
  | ok hab => exact ⟨hw, .ok hab⟩
  | error hf => exact ⟨hw, .error hf⟩

theorem disk : Parallel E (· = ·) Work.disk Work.disk :=
  fun _ _ hw => ⟨hw, .ok hw.disk⟩

theorem ofOk (a : α) (b : β) : Parallel E (fun a' b' => a' = a ∧ b' = b)
    (ofReported (orProblem (.ok a))) (ofReported (orProblem (.ok b))) := by
  intro w w' hw
  rw [run_ofReported, run_ofReported]
  exact ⟨hw.notices _ _, .ok ⟨rfl, rfl⟩⟩

theorem ofReported {P : Failure → Prop} {x : Reported α} (hx : Build.FailsOnly P x)
    (hE : ∀ f, P f → E f f) : Parallel E (· = ·) (ofReported x) (ofReported x) := by
  intro w w' hw
  rw [run_ofReported, run_ofReported]
  rcases hrun : x.run [] with ⟨f | a, ns⟩
  · exact ⟨hw.notices _ _, .error (hE f (hx [] f ns hrun))⟩
  · exact ⟨hw.notices _ _, .ok rfl⟩

end Parallel

/-! ## Failures that quote a name -/

/-- The failure quotes the name by which a library was asked for. -/
def QuotesName : Failure → Prop
  | .problem (.unresolved ..) | .problem (.notADependency ..) => True
  | _ => False

/-- The failures are the same, but for the text of the request and the name of the library in it,
where they quote them. -/
inductive Respelled (raw raw' name name' : String) : Failure → Failure → Prop
  | unresolved : Respelled raw raw' name name'
      (.problem (.unresolved raw name)) (.problem (.unresolved raw' name'))
  | notADependency (available : List String) : Respelled raw raw' name name'
      (.problem (.notADependency name available)) (.problem (.notADependency name' available))
  | same {f : Failure} (h : ¬QuotesName f) : Respelled raw raw' name name' f f

theorem not_quotesName_of_isReadFailure {f : Failure} (h : Build.IsReadFailure f) :
    ¬QuotesName f := by
  cases f with
  | fault f => exact id
  | problem p => cases p <;> first | exact id | exact absurd h id

/-- Saving fails with a file that cannot be written, or with a fault. -/
theorem not_quotesName_of_changes {b : Built} {l : LibraryName} {out : Path} {format : String}
    {config : Json} {d : Disk} {f : Failure}
    (h : (b.applied d l out format config).failure = some f) : ¬QuotesName f := by
  obtain ⟨done, c, rest, hsplit, -, hfails, -⟩ := Corpus.exists_failsWith h
  cases hfails with
  | write p t =>
    rcases Disk.writeFailure_cases _ p with hf | ⟨-, hf⟩ <;> rw [hf] <;> exact id
  | fail =>
    have hmem : .fail f ∈ b.changes l out format config := by simp [hsplit]
    obtain ⟨fault, rfl⟩ := Corpus.fault_of_fail_mem_changes hmem
    exact id
  | directory | tooLong => exact id

/-! ## Work that quotes no name -/

section

variable {raw raw' name name' : String}

/-- Pieces of work do the same to workspaces that agree, and answer requests of two spellings the
same. -/
abbrev SpelledAlike (raw raw' name name' : String) (x y : Work α) : Prop :=
  Parallel (Respelled raw raw' name name') (· = ·) x y

namespace SpelledAlike

theorem ofReported {x : Reported α} (hx : Build.FailsOnly (¬QuotesName ·) x) :
    SpelledAlike raw raw' name name' (ofReported x) (ofReported x) :=
  Parallel.ofReported hx fun _ hf => .same hf

theorem ofFault (r : Except Fault α) :
    SpelledAlike raw raw' name name' (Work.ofReported (orFault r)) (Work.ofReported (orFault r)) :=
  ofReported (.orFault fun _ _ => id)

theorem callCargo (args : List String) (directory : Option String) :
    SpelledAlike raw raw' name name' (callCargo args directory) (callCargo args directory) := by
  intro w w' hw
  rw [run_callCargo, run_callCargo, ← hw.cargo]
  split
  · exact ⟨hw.replied _ _ _, .error (.same id)⟩
  · refine ⟨hw.replied _ _ _, ?_⟩
    split
    · exact .error (.same id)
    · exact .ok rfl

theorem project (directory : Option String) :
    SpelledAlike raw raw' name name' (project directory) (project directory) := by
  refine (callCargo _ directory).bind_eq fun reply => Parallel.orFail ?_
  rw [Cargo.Project.ofText]
  split
  · exact .error (.same id)
  · rename_i v _
    cases Cargo.Project.ofJson v with
    | error f => exact .error (.same id)
    | ok p => exact .ok rfl

theorem save (l : LibraryName) (out : Path) (format : String) (config : Json) (b : Built) :
    SpelledAlike raw raw' name name' (Build.save l out format config b)
      (Build.save l out format config b) := by
  refine Parallel.bind_eq (fun w w' hw => ?_) fun _ => Parallel.pure rfl
  rw [run_makeChanges, run_makeChanges, ← hw.disk]
  refine ⟨⟨rfl, hw.cargo, hw.calls⟩, ?_⟩
  cases hf : (Corpus.applyAll w.disk (b.changes l out format config)).failure with
  | none => exact .ok rfl
  | some f => exact .error (.same (not_quotesName_of_changes hf))

theorem buildFrom (s : Build.Source) (l : LibraryName) (out : Path) (config : Json) :
    SpelledAlike raw raw' name name' (s.build l out config) (s.build l out config) := by
  have hbuilt (x : Disk → Reported Built)
      (hx : ∀ d, Build.FailsOnly Build.IsReadFailure (x d)) (format : String) :
      SpelledAlike raw raw' name name'
        (do Build.save l out format config (← Work.ofReported (x (← Work.disk))))
        (do Build.save l out format config (← Work.ofReported (x (← Work.disk)))) :=
    Parallel.disk.bind_eq fun d =>
      (Parallel.ofReported (hx d) fun _ hf => .same (not_quotesName_of_isReadFailure hf)).bind_eq
        fun b => save l out format config b
  cases s with
  | pages docs => exact hbuilt _ (fun d => Build.failsOnly_fromPages d l docs config) "html"
  | dump path => exact hbuilt _ (fun d => Build.failsOnly_fromDump d l path config) "json"

theorem document (l : LibraryName) (directory : Option String) :
    SpelledAlike raw raw' name name' (Build.document l directory) (Build.document l directory) := by
  refine (Parallel.notify _ _).bind_eq fun _ => (callCargo _ directory).bind_eq fun reply =>
    ofReported (.orProblem fun p hp => ?_)
  rw [Cargo.docDirectory] at hp
  split at hp <;> cases hp
  exact id

theorem dump (l : LibraryName) (p : Cargo.Project) (directory : Option String) :
    SpelledAlike raw raw' name name' (Build.dump l p directory) (Build.dump l p directory) := by
  refine (Parallel.notify _ _).bind_eq fun _ => (callCargo _ directory).discard.bind_eq fun _ =>
    Parallel.disk.bind_eq fun d => ?_
  exact (Parallel.ofReported (Build.failsOnly_requirePage d l _ trivial fun _ _ => trivial)
    fun _ hf => .same (not_quotesName_of_isReadFailure hf)).bind_eq fun _ => Parallel.pure rfl

theorem resolverFor (config : Json) (directory : Option String) :
    SpelledAlike raw raw' name name' (resolverFor config directory)
      (resolverFor config directory) :=
  (project directory).bind_eq fun _ => (ofFault _).bind_eq fun _ => (ofFault _).bind_eq fun _ =>
    Parallel.pure rfl

end SpelledAlike

/-! ## Work for a library -/

variable {l l' : LibraryName} {p p' : ItemPath}

/-- A library is found among the dependencies under its canonical name. -/
theorem library_alike (raw raw' : String) (h : canonicalName name = canonicalName name')
    (p : Cargo.Project) :
    Alike (Respelled raw raw' name name') (· = ·) (p.library name) (p.library name') := by
  -- The names that were passed over are listed in the problem, so they vary in the induction.
  have hfind (all : List String) (ds : List Json) :
      Alike (Respelled raw raw' name name') (· = ·) (Cargo.findLibrary name all ds)
        (Cargo.findLibrary name' all ds) := by
    induction ds generalizing all with
    | nil => exact .error (.notADependency all)
    | cons d ds ih =>
      cases d with
      | str d =>
        have hspelling : (⟨name⟩ : LibraryName).hasSpelling d =
            (⟨name'⟩ : LibraryName).hasSpelling d := by
          rw [LibraryName.hasSpelling, LibraryName.hasSpelling, LibraryName.canonical,
            LibraryName.canonical, h]
        rw [Cargo.findLibrary, Cargo.findLibrary, hspelling]
        split
        · exact .ok rfl
        · exact ih _
      | _ => exact .error (.same id)
  exact hfind [] p.dependencies

theorem build_alike (h : canonicalName name = canonicalName name') (config : Json)
    (directory : Option String) :
    SpelledAlike raw raw' name name' (Build.build name config directory)
      (Build.build name' config directory) := by
  refine (SpelledAlike.project directory).bind_eq fun p =>
    (Parallel.orFail (library_alike raw raw' h p)).bind_eq fun l =>
    (SpelledAlike.ofFault _).bind_eq fun root => (SpelledAlike.ofFault _).bind_eq fun format => ?_
  split
  · exact (SpelledAlike.dump l p directory).bind_eq fun dump =>
      SpelledAlike.buildFrom (.dump dump) l _ config
  · exact (SpelledAlike.document l directory).bind_eq fun docs =>
      SpelledAlike.buildFrom (.pages docs) l _ config

theorem load_congr (l l' : LibraryName) (h : l.canonical = l'.canonical) (r : Resolver) (d : Disk) :
    r.load d l = r.load d l' := by
  simp only [Resolver.load, Resolver.sidecarPath, Resolver.libraryPath, h]

theorem ensureBuilt_alike (h : canonicalName name = canonicalName name') (r : Resolver)
    (config : Json) (directory : Option String) :
    SpelledAlike raw raw' name name' (ensureBuilt r ⟨name⟩ config directory)
      (ensureBuilt r ⟨name'⟩ config directory) := by
  have hread : SpelledAlike raw raw' name name' (readableSidecar r ⟨name⟩)
      (readableSidecar r ⟨name'⟩) := by
    intro w w' hw
    have hload : r.load w.disk ⟨name⟩ = r.load w'.disk ⟨name'⟩ := by
      rw [hw.disk, load_congr ⟨name⟩ ⟨name'⟩ h]
    rw [run_readableSidecar, run_readableSidecar, hload]
    rcases r.load w'.disk ⟨name'⟩ with ⟨r', (p | f) | s⟩
    · exact ⟨hw.notices _ _, .ok rfl⟩
    · exact ⟨hw, .error (.same id)⟩
    · exact ⟨hw, .ok rfl⟩
  refine hread.bind_eq fun found => ?_
  dsimp only
  split
  · exact Parallel.pure rfl
  · refine (Parallel.notify _ _).bind_eq fun _ =>
      (build_alike h config directory).discard.bind_eq fun _ => Parallel.pure ?_
    rw [Resolver.forget, Resolver.forget, LibraryName.canonical, LibraryName.canonical, h]

/-- The failures of looking for a sidecar quote no name. -/
theorem not_quotesName_of_load {r : Resolver} {d : Disk} {f : Failure}
    (h : (r.load d l).2 = .error f) : ¬QuotesName f := by
  rw [Resolver.load] at h
  split at h
  · cases h
  · cases h
    exact id
  · split at h
    · cases h
      exact id
    · cases h
    · split at h
      · rename_i hload
        cases h
        rw [Sidecar.load] at hload
        split at hload <;> cases hload
        exact id
      · cases h

theorem resolve_alike (h : canonicalName p.library = canonicalName p'.library)
    (hinner : p.inner = p'.inner) (r : Resolver) (d : Disk) :
    Alike (Respelled p.raw p'.raw p.library p'.library) (· = ·) (r.resolve d p).2
      (r.resolve d p').2 := by
  have hitem : p.item? = p'.item? := by rw [ItemPath.item?, ItemPath.item?, hinner]
  have hload := load_congr ⟨p.library⟩ ⟨p'.library⟩ h r d
  rw [Resolver.resolve, Resolver.resolve, ← hload]
  dsimp only
  cases hs : (r.load d ⟨p.library⟩).2 with
  | error f => exact .error (.same (not_quotesName_of_load hs))
  | ok s =>
    cases s with
    | none => exact .error .unresolved
    | some s =>
      change Alike _ _ (Resolver.pagePath _ p (some s)) (Resolver.pagePath _ p' (some s))
      simp only [Resolver.pagePath, ItemPath.qualified, Resolver.libraryPath,
        LibraryName.canonical, ← h, ← hitem]
      split
      · exact .ok rfl
      · split
        · exact .error .unresolved
        · exact .error .unresolved
        · rename_i page _ _
          cases hpath : Corpus.configuredPath (((r.load d ⟨p.library⟩).1.root).child
            (canonicalName p.library)) page with
          | error f => exact .error (.same id)
          | ok path => exact .ok rfl

theorem listingPath_alike (h : canonicalName name = canonicalName name') (r : Resolver) (d : Disk) :
    Alike (Respelled name name' name name') (· = ·) (r.listingPath d name).2
      (r.listingPath d name').2 := by
  have hload := load_congr ⟨name⟩ ⟨name'⟩ h r d
  rw [Resolver.listingPath, Resolver.listingPath, ← hload]
  dsimp only
  cases hs : (r.load d ⟨name⟩).2 with
  | error f => exact .error (.same (not_quotesName_of_load hs))
  | ok s =>
    cases s with
    | none => exact .error .unresolved
    | some s =>
      refine .ok ?_
      rw [Resolver.libraryPath, Resolver.libraryPath, LibraryName.canonical, LibraryName.canonical,
        h]

end

/-! ## Requests -/

/-- **Spellings of one library.** Two item paths with the same names inside the library, and
libraries whose canonical names agree, are answered with the same text or with failures of the same
kind, and leave the same disk. So are two names of one library that is listed. A failure is the same
but for what each request says of its own text: a path that could not be resolved is quoted as it
was written, and the name of a library that is listed without the blanks at its ends. -/
theorem answers_respelled (config : Json) (directory : Option String) (w : Workspace) :
    (∀ raw raw' p p', ItemPath.parse raw = .ok p → ItemPath.parse raw' = .ok p' →
      canonicalName p.library = canonicalName p'.library → p.inner = p'.inner →
      Alike (Respelled raw raw' p.library p'.library) (· = ·)
        ((showItem raw config directory).run w).1 ((showItem raw' config directory).run w).1 ∧
      Agree ((showItem raw config directory).run w).2 ((showItem raw' config directory).run w).2) ∧
    ∀ raw raw' name name', parseLibrary raw = .ok name → parseLibrary raw' = .ok name' →
      canonicalName name = canonicalName name' →
      Alike (Respelled (Text.trim raw) (Text.trim raw') (Text.trim raw) (Text.trim raw')) (· = ·)
        ((listItems raw config directory).run w).1 ((listItems raw' config directory).run w).1 ∧
      Agree ((listItems raw config directory).run w).2
        ((listItems raw' config directory).run w).2 := by
  refine ⟨fun raw raw' p p' hp hp' hlibrary hinner => ?_,
    fun raw raw' name name' hname hname' h => ?_⟩
  · obtain ⟨rfl, -⟩ := ItemPath.of_parse hp
    obtain ⟨rfl, -⟩ := ItemPath.of_parse hp'
    suffices h : SpelledAlike p.raw p'.raw p.library p'.library (showItem p.raw config directory)
        (showItem p'.raw config directory) from (h w w (.refl w)).symm
    rw [showItem, showItem, hp, hp']
    refine (Parallel.ofOk p p').bind ?_
    rintro _ _ ⟨rfl, rfl⟩
    exact (SpelledAlike.resolverFor config directory).bind_eq fun r =>
      (ensureBuilt_alike hlibrary r config directory).bind_eq fun built =>
      Parallel.disk.bind_eq fun d =>
      (Parallel.orFail (resolve_alike hlibrary hinner built.1 d)).bind_eq fun page =>
      Parallel.disk.bind_eq fun d => SpelledAlike.ofFault _
  · obtain rfl := ItemPath.eq_trim_of_parseLibrary hname
    obtain rfl := ItemPath.eq_trim_of_parseLibrary hname'
    refine And.symm ?_
    generalize Text.trim raw = name at hname h ⊢
    generalize Text.trim raw' = name' at hname' h ⊢
    suffices hwork : SpelledAlike name name' name name' (listItems raw config directory)
        (listItems raw' config directory) from hwork w w (.refl w)
    rw [listItems, listItems, hname, hname']
    refine (Parallel.ofOk name name').bind ?_
    rintro _ _ ⟨rfl, rfl⟩
    exact (SpelledAlike.resolverFor config directory).bind_eq fun r =>
      (ensureBuilt_alike h r config directory).bind_eq fun built =>
      Parallel.disk.bind_eq fun d =>
      (Parallel.orFail (listingPath_alike h built.1 d)).bind_eq fun page =>
      Parallel.disk.bind_eq fun d => SpelledAlike.ofFault _

/-! ### A library with a hyphen -/

namespace MyLib

open Build.TwoItems (crate good bad)

def settings : Json := .obj [
  ("output", .obj [("dir_name", .str "docmd"), ("metadata_file", .str "metadata.json"),
    ("report_file", .str "build-report.json")]),
  ("build", .obj [("format", .str "json"), ("fail_fast", .bool false)]),
  ("skip", .obj [("tags", .arr []), ("ids", .arr []), ("class_substrings", .arr [])])]

/-- The metadata of a project with one dependency. -/
def metadata : Json := .obj [
  ("packages", .arr [.obj [("dependencies", .arr [.obj [("name", .str "my-lib")]])]]),
  ("target_directory", .str "target")]

def script : Cargo.Script := [
  (" ".intercalate Cargo.metadataArgs, [.reply { stdout := metadata.pretty ++ "\n" }]),
  (" ".intercalate (Cargo.dumpArgs "my-lib"), [.reply {}])]

/-- There is a dump, and nothing has been built of it yet. -/
def disk : Disk := ⟨[(["target"], .directory), (["target", "doc"], .directory),
  (["target", "doc", "my_lib.json"],
    .file (Text.Utf8.encode (Build.TwoItems.value.pretty ++ "\n")))]⟩

def workspace : Workspace := { disk := disk, cargo := script }

def project : Cargo.Project := ⟨⟨"", ["target"]⟩, [.str "my-lib"]⟩

def root : Path := ⟨"", ["target", "docmd"]⟩

def dump : Path := ⟨"", ["target", "doc", "my_lib.json"]⟩

def library : LibraryName := ⟨"my-lib"⟩

theorem besidePages : Corpus.BesidePages settings "metadata.json" "build-report.json" where
  named := ⟨_, rfl, rfl, rfl⟩
  sidecar_plain := by decide
  report_plain := by decide
  sidecar_ne_report := by decide
  sidecar_ext := by decide
  report_ext := by decide

theorem ofText_metadata : Cargo.Project.ofText (metadata.pretty ++ "\n") = .ok project := by
  rw [Cargo.Project.ofText, Json.read?_pretty (by
    simp [metadata, Json.IsTextual, Json.AllTextual, Json.AllTextualMembers])]
  rfl

theorem canonical_library : library.canonical = "my_lib" := by decide

theorem isSpelling : IsSpelling library.canonical "my-lib" := by
  rw [canonical_library, IsSpelling]
  decide

theorem loadCrate_dump : Build.loadCrate disk dump = .ok crate :=
  (Build.loadCrate_of_find Build.TwoItems.isTextual_value rfl).trans rfl

theorem toldApart : Build.ToldApart library crate
    [good, bad] :=
  { Build.TwoItems.toldApart with
    library := by
      rw [canonical_library]
      decide }

theorem unobstructed : disk.Unobstructed (root.child library.canonical) := by
  have hchild : root.child library.canonical = ⟨"", ["target", "docmd", "my_lib"]⟩ := by
    rw [canonical_library]
    decide
  rw [hchild]
  have hvisited : Disk.visited [] ["target", "docmd", "my_lib"] =
      [["target"], ["target", "docmd"], ["target", "docmd", "my_lib"]] := by decide
  refine ⟨by decide, by decide, by decide, by decide, fun q hq bytes => ?_, fun name _ => ?_⟩
  · rw [show Disk.start ⟨"", ["target", "docmd", "my_lib"]⟩ = [] from rfl, hvisited] at hq
    revert q
    simp only [List.forall_mem_cons]
    refine ⟨fun h => ?_, fun h => ?_, fun h => ?_, List.forall_mem_nil _⟩
    all_goals cases h
  · have haround : Disk.isAround ["target", "docmd", "my_lib", name] = false := by
      simp [Disk.isAround]
    have hnone : disk.entry? ["target", "docmd", "my_lib", name] = none := by
      rw [Disk.entry?_eq, haround]
      simp [disk, List.lookup]
    exact fun hdirectory => by cases hnone.symm.trans hdirectory

/-! #### Looking after the library -/

theorem next_script (command : String) : (script.next command).2 = script := by
  have hanswers : ∀ e ∈ script, ∃ r, e.2 = [.reply r] := by simp [script]
  rw [Cargo.Script.next]
  cases hlookup : script.lookup command with
  | none => rfl
  | some answers =>
    obtain ⟨r, rfl⟩ := hanswers _ ((Json.lookup_eq_some_iff_mem (by decide)).1 hlookup)
    rfl

/-- Nothing has been built. -/
structure Ready (w : Workspace) : Prop where
  disk : w.disk = disk
  cargo : w.cargo = script

variable {w w' : Workspace}

theorem Ready.notices (h : Ready w) (ns : List Notice) : Ready { w with notices := ns } :=
  ⟨h.disk, h.cargo⟩

theorem Ready.replied (h : Ready w) {args : List String} {reply : Cargo.Reply}
    (hreply : reply.files = []) : Ready (replied w args none reply) where
  disk := by
    rw [Browse.replied, hreply]
    exact h.disk
  cargo := by
    rw [Browse.replied, h.cargo]
    exact next_script _

theorem Ready.next_metadata (h : Ready w) :
    (w.cargo.next (" ".intercalate Cargo.metadataArgs)).1 =
      .reply { stdout := metadata.pretty ++ "\n" } := by
  rw [h.cargo]
  rfl

theorem Ready.asked (h : Ready w) :
    Ready (Browse.replied w Cargo.metadataArgs none { stdout := metadata.pretty ++ "\n" }) :=
  h.replied rfl

theorem run_dump (h : Ready w) : ∃ w', (Build.dump library project none).run w = (.ok dump, w') ∧
    Ready w' := by
  have hanswer : (w.cargo.next (" ".intercalate (Cargo.dumpArgs "my-lib"))).1 = .reply {} := by
    rw [h.cargo]
    rfl
  have hcall := run_callCargo_reply (w := { w with notices := w.notices ++ [.dumping "my-lib"] })
    hanswer rfl none
  have hready : Ready (Browse.replied { w with notices := w.notices ++ [.dumping "my-lib"] }
      (Cargo.dumpArgs "my-lib") none {}) := (h.notices _).replied rfl
  generalize replied { w with notices := w.notices ++ [.dumping "my-lib"] }
    (Cargo.dumpArgs "my-lib") none {} = w₁ at hcall hready
  have hpath : (project.target.child "doc").child (library.canonical ++ ".json") = dump := by
    rw [canonical_library]
    decide
  have hrequire : (Build.requirePage w₁.disk library dump).run [] = (.ok (), []) := by
    rw [hready.disk]
    rfl
  have hthere : (ofReported (Build.requirePage w₁.disk library dump)).run w₁ = (.ok (), w₁) := by
    rw [run_ofReported, hrequire]
    exact Prod.ext rfl (congrArg (fun ns => { w₁ with notices := ns }) (List.append_nil _))
  refine ⟨w₁, ?_, hready⟩
  rw [Build.dump, hpath, run_bind (x := notify _) (a := ()) rfl]
  refine (run_bind (x := discard _) (a := ()) (t := w₁) ((run_bind hcall).trans rfl)).trans ?_
  rw [run_bind (x := Work.disk) (a := w₁.disk) (t := w₁) rfl, run_bind hthere]
  rfl

/-- The disk holds what has been built of the dump. -/
def IsBuilt (d : Disk) : Prop :=
  ∃ overview listing, Build.SavedItems library crate
    [good, bad] root settings "metadata.json" overview listing d

theorem run_buildFromDump (h : Ready w) : ∃ r w',
    (Build.buildFromDump library dump (root.child library.canonical) settings).run w = (.ok r, w') ∧
      IsBuilt w'.disk := by
  obtain ⟨overview, hoverview⟩ := Build.TwoItems.exists_overview
  obtain ⟨listing, hlisting⟩ := Build.TwoItems.exists_listing
  have hfast : Build.failsFast settings = .ok false := rfl
  obtain ⟨ns, hfrom⟩ := Build.run_fromDump library [] hfast loadCrate_dump hoverview hlisting
    Build.TwoItems.publicItems_crate Build.TwoItems.isOfItem_of_error
  rw [← h.disk] at hfrom
  have hrun := Build.run_buildFromDump (root.child library.canonical) hfrom
  have hpages : ∀ item ∈ [good, bad],
      Disk.IsFileName (pageName (Build.fullPath library crate item)) := by
    simp only [Build.fullPath_eq, canonical_library]
    decide
  have hfree : ((Build.builtItems library crate [good, bad] settings overview
      (Listing.page library.canonical listing)).applied disk library
      (root.child library.canonical) "json" settings).failure = none :=
    Corpus.applied_unobstructed unobstructed besidePages (by decide)
      (Build.isFileName_files hpages)
  have hs := Build.savedItems besidePages hfree
  rw [← h.disk] at hfree hs
  rw [hfree] at hrun
  exact ⟨_, _, hrun, overview, _, hs⟩

theorem run_build (h : Ready w) : ∃ r w', (Build.build "my-lib" settings none).run w = (.ok r, w') ∧
    IsBuilt w'.disk := by
  have hproject := run_project h.next_metadata rfl ofText_metadata none
  have hlibrary : project.library "my-lib" = .ok library := by rfl
  have hroot : Build.outputRoot project settings = .ok root := by rfl
  have hformat : (do (← settings.member "build").member "format") = .ok (.str "json") := by rfl
  obtain ⟨w₁, hdump, hready⟩ := run_dump h.asked
  obtain ⟨r, w', hrun, hbuilt⟩ := run_buildFromDump hready
  refine ⟨r, w', ?_, hbuilt⟩
  rw [Build.build, run_bind hproject, hlibrary, run_bind (x := orFail _) (a := library) rfl,
    run_bind (run_orFault_ok hroot _)]
  dsimp only
  rw [run_bind (run_orFault_ok hformat _), if_pos (by decide), run_bind hdump]
  exact hrun

/-- The resolver of the project. -/
def resolver : Resolver := ⟨root, .str "metadata.json", []⟩

theorem run_ensureBuilt (h : Ready w) : ∃ w',
    (ensureBuilt resolver library settings none).run w = (.ok (resolver, true), w') ∧
      IsBuilt w'.disk := by
  have hload : resolver.load disk library = (resolver, .ok none) := by rfl
  have hread : (readableSidecar resolver library).run w = (.ok (resolver, none), w) := by
    rw [run_readableSidecar, h.disk, hload]
  obtain ⟨r, w', hbuild, hbuilt⟩ := run_build (h.notices (w.notices ++ [.notBuilt "my-lib"]))
  refine ⟨w', ?_, hbuilt⟩
  rw [ensureBuilt, run_bind hread]
  dsimp only
  rw [Option.any_none, if_neg (by decide), run_bind (x := notify _) (a := ()) rfl]
  refine (run_bind (x := discard _) (a := ()) (t := w') ?_).trans rfl
  exact (run_bind hbuild).trans rfl

theorem run_resolver (h : Ready w) :
    (resolverFor settings none).run w = (.ok resolver,
      Browse.replied w Cargo.metadataArgs none { stdout := metadata.pretty ++ "\n" }) :=
  run_resolverFor besidePages.named h.next_metadata rfl ofText_metadata rfl none

/-- The page of the item is shown. -/
theorem run_show {text : String}
    (htext : Rustdoc.itemPage crate good = .ok text) :
    ∃ w', (showItem "my-lib::S" settings none).run workspace =
      (.ok (Text.withLineFeeds text), w') ∧ IsBuilt w'.disk := by
  have hready : Ready workspace := ⟨rfl, rfl⟩
  have hparse : ItemPath.parse "my-lib::S" = .ok ⟨"my-lib::S", "my-lib", ["S"]⟩ := by decide
  obtain ⟨w', hensure, hbuilt⟩ := run_ensureBuilt hready.asked
  obtain ⟨overview, listing, hs⟩ := hbuilt
  have hsteps : [(Separator.colons, "S")].map (·.2) = Build.innerNames crate good := rfl
  obtain ⟨page, hresolve, hfind⟩ :=
    Build.leadsTo_page toldApart hs isSpelling List.mem_cons_self hsteps htext
  rw [show writtenPath "my-lib" [(.colons, "S")] = "my-lib::S" from rfl, Resolver.resolveText,
    hparse] at hresolve
  refine ⟨w', ?_, overview, listing, hs⟩
  rw [showItem, run_bind (run_orProblem_ok hparse _), run_bind (run_resolver hready)]
  refine (run_bind hensure).trans ?_
  dsimp only
  have hread : w'.disk.read page = .ok (Text.withLineFeeds text) :=
    Disk.read_of_decode hfind (Text.Utf8.decode_encode _)
  have hpage : (orFail (resolver.resolve w'.disk ⟨"my-lib::S", "my-lib", ["S"]⟩).2).run w' =
      (.ok page, w') := by
    rw [show (resolver.resolve w'.disk ⟨"my-lib::S", "my-lib", ["S"]⟩).2 = .ok page from hresolve]
    rfl
  rw [run_bind (x := Work.disk) (a := w'.disk) (t := w') rfl, run_bind hpage,
    run_bind (x := Work.disk) (a := w'.disk) (t := w') rfl, run_orFault_ok hread]

/-- The listing is shown. -/
theorem run_list : ∃ text w', (listItems "my-lib" settings none).run workspace = (.ok text, w') ∧
    IsBuilt w'.disk := by
  have hready : Ready workspace := ⟨rfl, rfl⟩
  have hname : parseLibrary "my-lib" = .ok "my-lib" := by decide
  obtain ⟨w', hensure, hbuilt⟩ := run_ensureBuilt hready.asked
  obtain ⟨overview, listing, hs⟩ := hbuilt
  have hload : resolver.load w'.disk ⟨"my-lib"⟩ = _ := Resolver.load_eq rfl hs.has hs.load
  have hfind := hs.find Resolver.listingName listing (Build.lookup_listing_builtFrom fun e he => by
    obtain ⟨item, hi, text, -, rfl⟩ := Build.mem_pages_items.1 he
    exact toldApart.pageName_ne hi (by simp))
  have hread := Disk.read_of_decode hfind (Text.Utf8.decode_encode _)
  refine ⟨Text.withLineFeeds listing, w', ?_, overview, listing, hs⟩
  rw [listItems, run_bind (run_orProblem_ok hname _), run_bind (run_resolver hready)]
  refine (run_bind hensure).trans ?_
  dsimp only
  have hpage : (orFail (resolver.listingPath w'.disk "my-lib").2).run w' =
      (.ok ((root.child library.canonical).child Resolver.listingName), w') := by
    rw [Resolver.listingPath, hload]
    rfl
  rw [run_bind (x := Work.disk) (a := w'.disk) (t := w') rfl, run_bind hpage,
    run_bind (x := Work.disk) (a := w'.disk) (t := w') rfl, run_orFault_ok hread]

end MyLib

/-- Both spellings of `my-lib` have the library built, and then `S` is shown, and what there is in
the library is listed. -/
theorem answers_respelled_my_lib : ∃ text listing w₁ w₂ w₃ w₄,
    Rustdoc.itemPage Build.TwoItems.crate Build.TwoItems.good = .ok text ∧
    (showItem "my-lib::S" MyLib.settings none).run MyLib.workspace =
      (.ok (Text.withLineFeeds text), w₁) ∧
    (showItem " my_lib.S " MyLib.settings none).run MyLib.workspace =
      (.ok (Text.withLineFeeds text), w₂) ∧
    (listItems "my-lib" MyLib.settings none).run MyLib.workspace = (.ok listing, w₃) ∧
    (listItems " my_lib " MyLib.settings none).run MyLib.workspace = (.ok listing, w₄) ∧
    MyLib.IsBuilt w₁.disk ∧ Agree w₁ w₂ ∧ MyLib.IsBuilt w₃.disk ∧ Agree w₃ w₄ := by
  obtain ⟨text, htext⟩ := Build.TwoItems.itemPage_good
  obtain ⟨w₁, hshow, hbuilt⟩ := MyLib.run_show htext
  obtain ⟨listing, w₃, hlist, hbuilt'⟩ := MyLib.run_list
  obtain ⟨hshown, hlisted⟩ := answers_respelled MyLib.settings none MyLib.workspace
  have hparse : ItemPath.parse "my-lib::S" = .ok ⟨"my-lib::S", "my-lib", ["S"]⟩ := by decide
  have hparse' : ItemPath.parse " my_lib.S " = .ok ⟨" my_lib.S ", "my_lib", ["S"]⟩ := by decide
  have hname : parseLibrary "my-lib" = .ok "my-lib" := by decide
  have hname' : parseLibrary " my_lib " = .ok "my_lib" := by decide
  have hcanonical : canonicalName "my-lib" = canonicalName "my_lib" := by decide +kernel
  obtain ⟨hanswer, hagree⟩ := hshown _ _ _ _ hparse hparse' hcanonical rfl
  obtain ⟨hanswer', hagree'⟩ := hlisted _ _ _ _ hname hname' hcanonical
  rcases hshow' : (showItem " my_lib.S " MyLib.settings none).run MyLib.workspace with ⟨answer, w₂⟩
  rcases hlist' : (listItems " my_lib " MyLib.settings none).run MyLib.workspace with
    ⟨answer', w₄⟩
  rw [hshow, hshow'] at hanswer hagree
  rw [hlist, hlist'] at hanswer' hagree'
  obtain rfl := hanswer.eq_ok
  obtain rfl := hanswer'.eq_ok
  exact ⟨text, listing, w₁, w₂, w₃, w₄, htext, hshow, rfl, hlist, rfl, hbuilt, hagree, hbuilt',
    hagree'⟩

end CrateBook.Browse
