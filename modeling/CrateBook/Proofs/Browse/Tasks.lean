import CrateBook.Proofs.Browse.Session
import CrateBook.Proofs.Build.History

/-!
# Tasks

A task is a request or a build, and tasks with configurations of their own are done one after
another. As long as all corpora are below one directory and cargo leaves no files at the places that
are kept, what tasks do is a history of builds (`history_afterTasks`).
-/

namespace CrateBook.Browse

open Build (Attempt History NamesSidecar)
open Work

/-- What a command does: it answers a request, or it builds a library in a directory. -/
inductive Task where
  | answer (q : Request)
  | build (library : String) (directory : Option String)
  deriving DecidableEq, Repr

def Task.run (config : Json) : Task → Work Unit
  | .answer q => discard (q.run config)
  | .build library directory => discard (Build.build library config directory)

/-- The workspace after tasks, each with its configuration, whatever comes of them. -/
def afterTasks (tasks : List (Json × Task)) (w : Workspace) : Workspace :=
  tasks.foldl (fun w task => ((task.2.run task.1).run w).2) w

/-! ## What cargo gives -/

/-- Cargo gives only replies of a kind. -/
def Gives (ok : String → Cargo.Reply → Prop) (script : Cargo.Script) : Prop :=
  ∀ e ∈ script, ∀ reply, .reply reply ∈ e.2 → ok e.1 reply

/-- The dependencies of the project have the names of directories, and with each of the
configurations its corpora are below the directory. -/
structure IsProjectAt (root : Path) (configs : List Json) (p : Cargo.Project) : Prop where
  names : ∀ name, .str name ∈ p.dependencies → Path.IsPlain (canonicalName name)
  root : ∀ config ∈ configs, ∀ root', Build.outputRoot p config = .ok root' → root' = root

/-- The reply leaves no file at a kept place, and the project that it describes, if any, has its
corpora below the directory. -/
structure IsReplyAt (root : Path) (kept : List String → Prop) (configs : List Json)
    (command : String) (reply : Cargo.Reply) : Prop where
  files : ∀ file ∈ reply.files, ¬kept file.1.place
  project : command = " ".intercalate Cargo.metadataArgs →
    ∀ p, Cargo.Project.ofText reply.stdout = .ok p → IsProjectAt root configs p

variable {ok : String → Cargo.Reply → Prop} {script : Cargo.Script} {root : Path}
  {kept : List String → Prop} {configs : List Json} {config : Json} {d₀ d : Disk}
  {as : List Attempt} {w : Workspace} {p : Cargo.Project} {name : String} {library : LibraryName}

theorem Gives.next (h : Gives ok script) (command : String) :
    (∀ reply, (script.next command).1 = .reply reply → ok command reply) ∧
      Gives ok (script.next command).2 := by
  have hmem {answers : List Cargo.Answer} (hlookup : script.lookup command = some answers) :
      (command, answers) ∈ script := by
    obtain ⟨before, after, hsplit, -⟩ := List.lookup_eq_some_iff.1 hlookup
    rw [hsplit]
    simp
  rw [Cargo.Script.next]
  split
  · exact ⟨nofun, h⟩
  · exact ⟨nofun, h⟩
  · rename_i a hlookup
    refine ⟨fun reply hreply => h _ (hmem hlookup) reply ?_, h⟩
    exact List.mem_singleton.2 hreply.symm
  · rename_i a more _ hlookup
    refine ⟨fun reply hreply => h _ (hmem hlookup) reply ?_, fun e he reply hreply => ?_⟩
    · rw [← hreply]
      exact List.mem_cons_self
    · rcases Json.mem_setMember he with rfl | he
      · exact h _ (hmem hlookup) reply (List.mem_cons_of_mem _ hreply)
      · exact h e he reply hreply

theorem IsProjectAt.isPlain (h : IsProjectAt root configs p)
    (hlibrary : p.library name = .ok library) : Path.IsPlain library.canonical :=
  h.names _ (canonical_findLibrary hlibrary).2

/-! ## Tasks are histories of builds -/

/-- Files that are written at other places leave the kept ones as they are. -/
theorem file?_writeFiles {files : List (Path × ByteArray)} (h : ∀ file ∈ files, ¬kept file.1.place)
    {r : List String} (hr : kept r) :
    (files.foldl (fun d f => (d.writeBytes f.1 f.2).1) d).file? r = d.file? r := by
  induction files generalizing d with
  | nil => rfl
  | cons file files ih =>
    obtain ⟨hfile, hrest⟩ := List.forall_mem_cons.1 h
    rw [List.foldl_cons, ih hrest, Disk.file?_writeBytes, if_neg]
    rintro ⟨-, hplace⟩
    exact hfile (hplace ▸ hr)

/-- Cargo will only give replies that keep what is kept, and the disk has a history. -/
structure HasHistory (root : Path) (kept : List String → Prop) (configs : List Json) (d₀ : Disk)
    (w : Workspace) : Prop where
  gives : Gives (IsReplyAt root kept configs) w.cargo
  history : ∃ as, History root kept d₀ as w.disk

theorem keeps_callCargo (args : List String) (directory : Option String) :
    Keeps (HasHistory root kept configs d₀) (callCargo args directory)
      (IsReplyAt root kept configs (" ".intercalate args)) := by
  intro w hw
  obtain ⟨hnext, hlater⟩ := hw.gives.next (" ".intercalate args)
  obtain ⟨as, has⟩ := hw.history
  rw [run_callCargo]
  cases hanswer : (w.cargo.next (" ".intercalate args)).1 with
  | unavailable reason => exact ⟨⟨hlater, as, has⟩, fun a ha => by cases ha⟩
  | reply reply =>
    have hreply := hnext reply hanswer
    refine ⟨⟨hlater, as, has.elsewhere fun r hr => file?_writeFiles hreply.files hr⟩,
      fun a ha => ?_⟩
    dsimp only at ha
    split at ha
    · cases ha
    · exact Except.ok.inj ha ▸ hreply

/-- Builds that are run and stop nowhere are histories, and cargo only adds to them elsewhere. -/
theorem carries_hasHistory (hsidecar : NamesSidecar config) (hconfig : config ∈ configs) :
    Carries (HasHistory root kept configs d₀) (IsProjectAt root configs) config where
  notices _ _ hw := ⟨hw.gives, hw.history⟩
  callCargo args directory := (keeps_callCargo args directory).weaken fun _ _ => trivial
  project _ := (keeps_callCargo _ _).bind fun _ hreply =>
    (Keeps.orFail _).weaken fun p hp => hreply.project rfl p hp
  build p root' hp hroot library s built w hplain hdecides hw := by
    obtain rfl := hp.root config hconfig root' hroot
    obtain ⟨as, has⟩ := hw.history
    obtain ⟨done, hreach, -⟩ := Corpus.reaches_applyAll w.disk
      (built.changes library (root'.child library.canonical) s.format config)
    have hruns : Attempt.Runs ⟨s, library, config, built, done⟩ root' w.disk _ :=
      ⟨hplain, hsidecar, hdecides, _, hreach⟩
    exact ⟨hw.gives, _, has.attempt hruns⟩

/-- The library of a request or of a build is one with the name of a directory. -/
theorem hasHistory_run {task : Task} (hsidecar : NamesSidecar config) (hconfig : config ∈ configs)
    (hw : HasHistory root kept configs d₀ w) :
    HasHistory root kept configs d₀ ((task.run config).run w).2 := by
  have hcarries : Carries (HasHistory root kept configs d₀) (IsProjectAt root configs) config :=
    carries_hasHistory hsidecar hconfig
  cases task with
  | answer q =>
    have hkeeps : Keeps (HasHistory root kept configs d₀) (q.run config) fun _ => True :=
      fun w hw => ⟨hcarries.request (fun _ _ _ hp _ hlibrary => hp.isPlain hlibrary) hw,
        fun _ _ => trivial⟩
    exact (hkeeps.discard w hw).1
  | build name directory =>
    have hkeeps : Keeps (HasHistory root kept configs d₀) (Build.build name config directory)
        fun _ => True := hcarries.run_build directory fun _ hp _ hlibrary => hp.isPlain hlibrary
    exact (hkeeps.discard w hw).1

/-- What tasks do is a history of builds. -/
theorem history_afterTasks (tasks : List (Json × Task))
    (hsidecars : ∀ task ∈ tasks, NamesSidecar task.1)
    (hgives : Gives (IsReplyAt root kept (tasks.map (·.1))) w.cargo) :
    ∃ as, History root kept w.disk as (afterTasks tasks w).disk := by
  -- The replies are for all configurations, also while only the later tasks are left.
  have hrun (tasks' : List (Json × Task)) (hsub : ∀ task ∈ tasks', task ∈ tasks) {w' : Workspace}
      (hw : HasHistory root kept (tasks.map (·.1)) w.disk w') :
      HasHistory root kept (tasks.map (·.1)) w.disk (afterTasks tasks' w') := by
    induction tasks' generalizing w' with
    | nil => exact hw
    | cons task tasks' ih =>
      obtain ⟨hmem, hrest⟩ := List.forall_mem_cons.1 hsub
      exact ih hrest (hasHistory_run (hsidecars task hmem) (List.mem_map_of_mem hmem) hw)
  exact (hrun tasks (fun _ h => h) ⟨hgives, [], .start⟩).history

end CrateBook.Browse
