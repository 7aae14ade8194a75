import CrateBook.Proofs.Corpus.Saved

/-!
# Saving where nothing stands in the way

A directory is unobstructed when no file stands on the way to it and no directory stands where one
of its files would go. Writing and removing plain names in it succeeds and leaves it unobstructed
(`Unobstructed.write`, `Unobstructed.remove`), so all changes of a build whose pages have plain
names are made (`Unobstructed.applied`).
-/

namespace CrateBook

namespace Disk

variable {d : Disk} {out : Path} {place q : List String} {names : List String}

/-! ## Making directories without obstacles -/

theorem entry?_makeDirectoriesFrom_of_mem
    (hshort : ∀ name ∈ names, name.utf8ByteSize ≤ maxNameBytes)
    (h : ∀ q ∈ visited place names, ∀ bytes, d.entry? q ≠ some (.file bytes)) :
    (d.makeDirectoriesFrom place names).2 = true ∧
      ∀ q ∈ visited place names,
        Disk.entry? (d.makeDirectoriesFrom place names).1 q = some .directory := by
  induction names generalizing d place with
  | nil => exact ⟨rfl, by simp [visited]⟩
  | cons name names ih =>
    rw [visited] at h ⊢
    obtain ⟨hfirst, hrest⟩ := List.forall_mem_cons.1 h
    obtain ⟨hname, hshort⟩ := List.forall_mem_cons.1 hshort
    rw [makeDirectoriesFrom, if_neg (Nat.not_lt.2 hname)]
    cases he : d.entry? (step place name) with
    | none =>
      have ha := isAround_of_entry?_ne (d := d) (r := step place name) (by simp [he])
      have hput := fun r => entry?_put (d := d) (r := r) ha .directory
      have hfree : ∀ q ∈ visited (step place name) names, ∀ bytes,
          entry? (d.put (step place name) .directory) q ≠ some (.file bytes) := by
        intro q hq bytes
        rw [hput]
        split
        · simp
        · exact hrest q hq bytes
      obtain ⟨hok, hdirs⟩ := ih hshort hfree
      refine ⟨hok, List.forall_mem_cons.2 ⟨?_, hdirs⟩⟩
      refine (grows_makeDirectoriesFrom _ _ _).keeps _ ?_
      rw [hput, if_pos rfl]
    | some e =>
      cases e with
      | file bytes => exact absurd he (hfirst bytes)
      | directory =>
        obtain ⟨hok, hdirs⟩ := ih hshort hrest
        exact ⟨hok, List.forall_mem_cons.2
          ⟨(grows_makeDirectoriesFrom _ _ _).keeps _ he, hdirs⟩⟩

theorem walkFrom_append_of_directories {name : String} (hplace : d.entry? place = some .directory)
    (hshort : ∀ n ∈ names ++ [name], n.utf8ByteSize ≤ maxNameBytes)
    (h : ∀ q ∈ visited place names, d.entry? q = some .directory) :
    d.walkFrom place (names ++ [name]) = .ok ((names ++ [name]).foldl step place) := by
  induction names generalizing place with
  | nil => exact walkFrom_cons_eq_ok.2 ⟨hplace, hshort name (by simp), rfl⟩
  | cons first names ih =>
    rw [visited] at h
    obtain ⟨hfirst, hrest⟩ := List.forall_mem_cons.1 h
    obtain ⟨hname, hshort⟩ := List.forall_mem_cons.1 hshort
    exact walkFrom_cons_eq_ok.2 ⟨hplace, hname, ih hfirst hshort hrest⟩

/-- Beside a name that can be walked to, a name that is too long is found out. -/
theorem walkFrom_long {name long : String} (h : d.walkFrom place (names ++ [name]) = .ok q)
    (hlong : maxNameBytes < long.utf8ByteSize) :
    d.walkFrom place (names ++ [long]) = .error .tooLong := by
  induction names generalizing place with
  | nil =>
    obtain ⟨hplace, -⟩ := walkFrom_cons_eq_ok.1 h
    rw [List.nil_append, walkFrom, hplace]
    exact if_pos hlong
  | cons first names ih =>
    obtain ⟨hplace, hfirst, hrest⟩ := walkFrom_cons_eq_ok.1 h
    rw [List.cons_append, walkFrom, hplace]
    exact (if_neg (Nat.not_lt.2 hfirst)).trans (ih hrest)

theorem find_long {name long : String} (hname : Path.IsName name) (hlongName : Path.IsName long)
    (h : d.walk (out.child name) = .ok q) (hlong : maxNameBytes < long.utf8ByteSize)
    (hclean : (out.child long).hasNull = false) : d.find (out.child long) = .error .tooLong := by
  have hwalk : d.walk (out.child long) = .error .tooLong := by
    obtain ⟨-, hfrom⟩ := walk_eq_ok.1 h
    rw [Path.child_name hname] at hfrom
    rw [walk, refusal?, hclean, if_neg Bool.false_ne_true]
    split
    · rename_i o ho
      split at ho
      · rw [Option.some.inj ho]
      · cases ho
    · rw [Path.child_name hlongName]
      exact walkFrom_long hfrom hlong
  rw [find, hwalk]
  rfl

theorem length_of_mem_visited (h : ∀ name ∈ names, name ≠ "..") (hq : q ∈ visited place names) :
    q.length ≤ place.length + names.length := by
  induction names generalizing place with
  | nil => cases hq
  | cons name names ih =>
    obtain ⟨hname, hrest⟩ := List.forall_mem_cons.1 h
    have hstep : (step place name).length = place.length + 1 := by
      rw [Path.step_plain place hname]
      simp
    rw [visited] at hq
    rcases List.mem_cons.1 hq with rfl | hq
    · simp [hstep]
    · have hlen := ih hrest hq
      simp only [List.length_cons]
      omega

/-! ## Unobstructed directories -/

/-- The name of a file that a system accepts. -/
def IsFileName (name : String) : Prop :=
  name.utf8ByteSize + draftBytes ≤ maxNameBytes ∧ name.toList.contains '\x00' = false

instance : DecidablePred IsFileName := fun _ => inferInstanceAs (Decidable (_ ∧ _))

/-- Nothing stands in the way of writing files into a directory. -/
structure Unobstructed (d : Disk) (out : Path) : Prop where
  plain : ∀ name ∈ out.parts, name ≠ ".."
  short : ∀ name ∈ out.parts, name.utf8ByteSize ≤ maxNameBytes
  /-- There is room for a name of any length. -/
  room : out.byteSize + (maxNameBytes + 1) ≤ maxPathBytes
  clean : out.hasNull = false
  way : ∀ q ∈ visited (start out) out.parts, ∀ bytes, d.entry? q ≠ some (.file bytes)
  inside : ∀ name, Path.IsPlain name → d.entry? (out.place ++ [name]) ≠ some .directory

variable {name : String}

theorem head?_of_mem_visited {first : String} (h : ∀ name ∈ names, name ≠ "..")
    (hplace : place.head? = some first) (hq : q ∈ visited place names) : q.head? = some first := by
  induction names generalizing place with
  | nil => cases hq
  | cons name names ih =>
    obtain ⟨hname, hrest⟩ := List.forall_mem_cons.1 h
    have hstep : (step place name).head? = some first := by
      rw [Path.step_plain place hname, List.head?_append, hplace]
      rfl
    rw [visited] at hq
    rcases List.mem_cons.1 hq with rfl | hq
    · exact hstep
    · exact ih hrest hstep hq

/-- A place in a directory of which the disk holds nothing is free. -/
theorem entry?_eq_none_of_head? {first : String} (hfirst : Path.IsPlain first)
    (hfree : some first ∉ d.entries.map (·.1.head?)) (hq : q.head? = some first) :
    d.entry? q = none := by
  obtain ⟨rest, rfl⟩ := List.head?_eq_some_iff.1 hq
  have hslash : first ≠ "/" := by
    rintro rfl
    exact hfirst.1.2.2 (by decide)
  have ha : isAround (first :: rest) = false := by
    simp [isAround, hslash, hfirst.2]
  rw [entry?_eq, ha, if_neg Bool.false_ne_true, List.lookup_eq_none_iff]
  intro e he
  rw [bne_iff_ne]
  intro heq
  exact hfree (List.mem_map.2 ⟨e, he, heq ▸ rfl⟩)

/-- A directory whose first name is new on the disk is unobstructed. -/
theorem unobstructed_of_new {first : String} {rest : List String} (hfirst : Path.IsPlain first)
    (hfree : some first ∉ d.entries.map (·.1.head?)) (hroot : out.root = "")
    (hparts : out.parts = first :: rest) (hplain : ∀ name ∈ out.parts, name ≠ "..")
    (hshort : ∀ name ∈ out.parts, name.utf8ByteSize ≤ maxNameBytes)
    (hroom : out.byteSize + (maxNameBytes + 1) ≤ maxPathBytes) (hclean : out.hasNull = false) :
    d.Unobstructed out := by
  have hstart : start out = [] := by rw [start, hroot]; rfl
  have hstep : step [] first = [first] := Path.step_plain [] hfirst.2
  refine ⟨hplain, hshort, hroom, hclean, fun q hq bytes he => ?_, fun name _ he => ?_⟩
  · rw [hstart, hparts, visited, hstep] at hq
    have hhead : q.head? = some first := by
      rcases List.mem_cons.1 hq with rfl | hq
      · rfl
      · rw [hparts] at hplain
        exact head?_of_mem_visited (fun n hn => hplain n (List.mem_cons_of_mem _ hn)) rfl hq
    rw [entry?_eq_none_of_head? hfirst hfree hhead] at he
    cases he
  · have hhead : (out.place ++ [name]).head? = some first := by
      rw [Path.place, Path.foldl_step_plain _ hplain, hstart, hparts]
      rfl
    rw [entry?_eq_none_of_head? hfirst hfree hhead] at he
    cases he

theorem Unobstructed.place_not_mem_visited (h : d.Unobstructed out) :
    out.place ++ [name] ∉ visited (start out) out.parts := by
  intro hmem
  have hlen := length_of_mem_visited h.plain hmem
  rw [Path.place, Path.foldl_step_plain _ h.plain] at hlen
  simp at hlen

theorem byteSize_child (hname : Path.IsName name) :
    (out.child name).byteSize = out.byteSize + (name.utf8ByteSize + 1) := by
  rw [Path.child_name hname, Path.byteSize, Path.byteSize, List.foldl_append]
  rfl

theorem refusal?_eq_none :
    refusal? out = none ↔ out.hasNull = false ∧ out.byteSize ≤ maxPathBytes := by
  rw [refusal?]
  split
  · rename_i hnull
    simp [hnull]
  · rename_i hnull
    simp [hnull]

theorem Unobstructed.refusal?_eq_none (h : d.Unobstructed out) : refusal? out = none :=
  Disk.refusal?_eq_none.2 ⟨h.clean, (Nat.le_add_right _ _).trans h.room⟩

/-- A path to a file in an unobstructed directory. -/
theorem Unobstructed.takes (h : d.Unobstructed out) (hname : Path.IsName name)
    (hfile : IsFileName name) : Takes (out.child name) := by
  obtain ⟨hshort, hclean⟩ := hfile
  have hroom := h.room
  rw [draftBytes, maxNameBytes] at hshort
  rw [maxNameBytes, maxPathBytes] at hroom
  refine ⟨Disk.refusal?_eq_none.2 ⟨?_, ?_⟩, ?_⟩
  · have hout := h.clean
    rw [Path.hasNull] at hout
    rw [Path.child_name hname, Path.hasNull, List.any_append, hout, List.any_cons, hclean]
    rfl
  · rw [byteSize_child hname, maxPathBytes]
    omega
  · rw [Path.child_name hname]
    intro n hn
    rcases List.mem_append.1 hn with hn | hn
    · exact h.short n hn
    · rw [List.mem_singleton.1 hn, maxNameBytes]
      omega

/-- Writing a file into an unobstructed directory. -/
theorem Unobstructed.write (h : d.Unobstructed out) (hname : Path.IsPlain name)
    (hfile : IsFileName name) (bytes : ByteArray) :
    (d.writeBytes (out.child name) bytes).2 = true ∧
      (d.writeBytes (out.child name) bytes).1.Unobstructed out := by
  obtain ⟨hmade, hdirs⟩ := entry?_makeDirectoriesFrom_of_mem h.short h.way
  have hgrows := grows_makeDirectoriesFrom d (start out) out.parts
  have hchild : out.child name = ⟨out.root, out.parts ++ [name]⟩ := Path.child_name hname.1
  have hparent : (out.child name).parent = out := by
    rw [hchild, Path.parent]
    simp
  have hplace : (out.child name).place = out.place ++ [name] := Path.place_child_name hname
  cases hd : d.makeDirectoriesFrom (start out) out.parts with
  | mk d₁ made =>
  rw [hd] at hmade hdirs hgrows
  have hwalk : d₁.walk (out.child name) = .ok (out.place ++ [name]) := by
    have htakes := h.takes hname.1 hfile
    refine walk_eq_ok.2 ⟨htakes.whole, ?_⟩
    rw [← hplace]
    rw [hchild] at htakes ⊢
    exact walkFrom_append_of_directories (entry?_start d₁ out) htakes.names hdirs
  have hinside : ∀ n, Path.IsPlain n → d₁.entry? (out.place ++ [n]) ≠ some .directory := by
    intro n hn he
    rcases hgrows (out.place ++ [n]) with heq | ⟨hmem, _⟩
    · exact h.inside n hn (heq.symm.trans he)
    · exact h.place_not_mem_visited hmem
  have hfits : fits (out.child name) = true := by
    have hroom := h.room
    have hshort := hfile.1
    have hlast : (out.child name).name = name := by rw [hchild, Path.name_eq_getLast rfl]
    rw [fits, Bool.and_eq_true, decide_eq_true_eq, decide_eq_true_eq, hlast,
      byteSize_child hname.1]
    exact ⟨hshort, by omega⟩
  have ha := isAround_of_entry?_ne (hinside name hname)
  have hresult : d.writeBytes (out.child name) bytes =
      (d₁.put (out.place ++ [name]) (.file bytes), true) := by
    have hmake : d.makeDirectories (out.child name).parent = (d₁, true) := by
      rw [hparent, makeDirectories, h.refusal?_eq_none, hd, show made = true from hmade]
      rfl
    rw [writeBytes, hmake]
    dsimp only
    rw [hwalk]
    dsimp only
    split
    · rename_i he
      exact absurd he (hinside name hname)
    · rw [if_pos hfits]
  rw [hresult]
  refine ⟨rfl, h.plain, h.short, h.room, h.clean, fun q hq b => ?_, fun n hn => ?_⟩
  · rw [entry?_put ha, if_neg (fun e => h.place_not_mem_visited (e ▸ hq)), hdirs q hq]
    simp
  · rw [entry?_put ha]
    split
    · simp
    · exact hinside n hn

/-- Removing a file from an unobstructed directory. -/
theorem Unobstructed.remove (h : d.Unobstructed out) (hname : Path.IsPlain name)
    (hfile : IsFileName name) :
    ∃ d', d.remove (out.child name) = .ok d' ∧ d'.Unobstructed out := by
  cases hr : d.remove (out.child name) with
  | error f =>
    rcases remove_error hr with ⟨hdir, -⟩ | ⟨hlong, -⟩
    · have hplace := find_directory hdir
      rw [Path.place_child_name hname] at hplace
      exact absurd hplace (h.inside name hname)
    · exact absurd hlong (h.takes hname.1 hfile).find_ne_tooLong
  | ok d' =>
    refine ⟨d', rfl, h.plain, h.short, h.room, h.clean, fun q hq b he => ?_, fun n hn he => ?_⟩
    · exact h.way q hq b (entry?_remove hr he)
    · exact h.inside n hn (entry?_remove hr he)

end Disk

namespace Corpus

variable {d : Disk} {out : Path} {c : Change} {cs : List Change}

/-- The change writes or removes a file of the directory itself, or only reports. -/
def Change.IsWithin (out : Path) : Change → Prop
  | .write p _ => ∃ name, Path.IsPlain name ∧ Disk.IsFileName name ∧ p = out.child name
  | .remove p => ∃ name, Path.IsPlain name ∧ Disk.IsFileName name ∧ p = out.child name
  | .report _ => True
  | .fail _ => False

theorem apply_unobstructed (h : d.Unobstructed out) (hc : c.IsWithin out) :
    ∃ d' ns, c.apply d = (d', .ok ns) ∧ d'.Unobstructed out := by
  cases c with
  | write p t =>
    obtain ⟨name, hname, hfile, rfl⟩ := hc
    obtain ⟨hok, hd⟩ := h.write hname hfile (Text.Utf8.encode t)
    refine ⟨_, [], ?_, hd⟩
    rw [apply_write, hok, if_pos rfl]
  | remove p =>
    obtain ⟨name, hname, hfile, rfl⟩ := hc
    obtain ⟨d', hr, hd⟩ := h.remove hname hfile
    refine ⟨d', [], ?_, hd⟩
    rw [Change.apply, hr]
  | report n => exact ⟨d, [n], rfl, h⟩
  | fail f => exact hc.elim

theorem applyAll_unobstructed (h : d.Unobstructed out) (hcs : ∀ c ∈ cs, c.IsWithin out) :
    (applyAll d cs).failure = none := by
  induction cs generalizing d with
  | nil => rfl
  | cons c cs ih =>
    obtain ⟨hc, hrest⟩ := List.forall_mem_cons.1 hcs
    obtain ⟨d', ns, ha, hd⟩ := apply_unobstructed h hc
    rw [applyAll_cons_ok ha]
    exact ih hd hrest

/-- All changes of a build are made in an unobstructed directory when its pages have plain names. -/
theorem applied_unobstructed {b : Built} {library : LibraryName} {format sidecar report : String}
    {config : Json} (h : d.Unobstructed out) (hfiles : BesidePages config sidecar report)
    (hbeside : Disk.IsFileName sidecar ∧ Disk.IsFileName report)
    (hpages : ∀ page ∈ b.files.map (·.1), Path.IsPlain page ∧ Disk.IsFileName page) :
    (b.applied d library out format config).failure = none := by
  refine applyAll_unobstructed h fun c hc => ?_
  rcases mem_changes hfiles.named hc with ⟨s, t, hs, rfl⟩ | rfl | ⟨n, rfl⟩
  · rcases hs with hs | rfl | rfl
    · obtain ⟨hplain, hname⟩ := hpages s hs
      exact ⟨s, hplain, hname, rfl⟩
    · exact ⟨s, hfiles.sidecar_plain, hbeside.1, rfl⟩
    · exact ⟨s, hfiles.report_plain, hbeside.2, rfl⟩
  · exact ⟨report, hfiles.report_plain, hbeside.2, rfl⟩
  · trivial

end Corpus

end CrateBook
