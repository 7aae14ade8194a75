import CrateBook.Disk
import CrateBook.Proofs.Text.Joining

/-!
# What changes on a disk

`Path.place` is the place that the names of a path spell; when a path can be walked at all, that is
where it leads (`walkFrom_eq`), and it can still be walked when directories are added
(`KeepsDirectories.walk`). Writing makes directories along the path and then sets the bytes at its
place: `file?_writeBytes` says what every file is afterwards, and `walk_writeBytes` that the path
leads there. Removing does the same for one file (`file?_remove`).
-/

namespace CrateBook

/-- The place that a path spells. -/
def Path.place (p : Path) : List String := p.parts.foldl Disk.step (Disk.start p)

namespace Disk

variable {d d' d'' : Disk} {p : Path} {place q r : List String} {names : List String}

/-! ## Entries -/

theorem entry?_eq (d : Disk) (r : List String) :
    d.entry? r = if isAround r then some .directory else d.entries.lookup r := rfl

/-- The bytes of the file at a place. -/
def file? (d : Disk) (r : List String) : Option ByteArray :=
  match d.entry? r with
  | some (.file bytes) => some bytes
  | _ => none

theorem file?_eq_some : d.file? r = some bytes ↔ d.entry? r = some (.file bytes) := by
  rw [file?]
  split
  · rename_i h
    simp [h]
  · rename_i h
    simp only [reduceCtorEq, false_iff]
    exact h bytes

theorem mem_files_of_file? (h : d.file? r = some bytes) : (r, bytes) ∈ d.files := by
  have hentry := file?_eq_some.1 h
  rw [entry?_eq] at hentry
  split at hentry
  · cases hentry
  · obtain ⟨before, after, hsplit, -⟩ := List.lookup_eq_some_iff.1 hentry
    rw [files, List.mem_filterMap]
    exact ⟨(r, .file bytes), by simp [hsplit], rfl⟩

theorem lookup_filter_ne {l : List (List String × Entry)} :
    (l.filter (·.1 != place)).lookup r = if r = place then none else l.lookup r := by
  induction l with
  | nil => simp
  | cons m l ih =>
    obtain ⟨key, e⟩ := m
    rw [List.filter_cons]
    by_cases hk : key = place
    · subst hk
      rw [if_neg (by simp), ih, List.lookup_cons]
      split
      · rfl
      · rename_i hr
        rw [beq_eq_false_iff_ne.2 hr]
    · rw [if_pos (by simpa using hk), List.lookup_cons, List.lookup_cons, ih]
      by_cases hr : r = key
      · subst hr
        simp [hk]
      · rw [beq_eq_false_iff_ne.2 hr]

theorem entry?_put (h : isAround place = false) (e : Entry) :
    entry? (d.put place e) r = if r = place then some e else d.entry? r := by
  rw [entry?_eq, entry?_eq, put]
  by_cases hr : r = place
  · subst hr
    simp [h]
  · rw [if_neg hr, List.lookup_cons, beq_eq_false_iff_ne.2 hr, lookup_filter_ne, if_neg hr]

theorem entry?_erase (h : isAround place = false) :
    entry? (d.erase place) r = if r = place then none else d.entry? r := by
  rw [entry?_eq, entry?_eq, erase]
  by_cases hr : r = place
  · subst hr
    simp [h, lookup_filter_ne]
  · rw [if_neg hr, lookup_filter_ne, if_neg hr]

theorem isAround_of_entry?_ne (h : d.entry? r ≠ some .directory) : isAround r = false := by
  rw [entry?_eq] at h
  split at h
  · exact absurd rfl h
  · rename_i hr
    exact Bool.eq_false_iff.2 hr

theorem entry?_start (d : Disk) (p : Path) : d.entry? (start p) = some .directory := by
  rw [start]
  split <;> rfl

/-! ## Walking -/

/-- What the system takes at all is walked name by name. -/
theorem walk_eq_ok :
    d.walk p = .ok q ↔ refusal? p = none ∧ d.walkFrom (start p) p.parts = .ok q := by
  rw [walk]
  split
  · rename_i ho
    simp [ho]
  · rename_i ho
    simp [ho]

theorem walkFrom_cons_eq_ok {name : String} :
    d.walkFrom place (name :: names) = .ok q ↔ d.entry? place = some .directory ∧
      name.utf8ByteSize ≤ maxNameBytes ∧ d.walkFrom (step place name) names = .ok q := by
  rw [walkFrom]
  split
  · rename_i hplace
    rw [hplace]
    by_cases hlong : maxNameBytes < name.utf8ByteSize
    · simp [hlong, Nat.not_le.2 hlong]
    · simp [hlong, Nat.not_lt.1 hlong]
  all_goals
    rename_i hplace
    simp [hplace]

theorem walkFrom_eq (h : d.walkFrom place names = .ok q) : q = names.foldl step place := by
  induction names generalizing place with
  | nil => exact (Except.ok.inj h).symm
  | cons name names ih => exact ih (walkFrom_cons_eq_ok.1 h).2.2

theorem walk_eq (h : d.walk p = .ok q) : q = p.place := walkFrom_eq (walk_eq_ok.1 h).2

/-- The system takes the path: no null character is in it, and neither the whole nor a name is too
long. -/
structure Takes (p : Path) : Prop where
  whole : refusal? p = none
  names : ∀ name ∈ p.parts, name.utf8ByteSize ≤ maxNameBytes

instance : DecidablePred Takes := fun p =>
  decidable_of_iff (refusal? p = none ∧ ∀ name ∈ p.parts, name.utf8ByteSize ≤ maxNameBytes)
    ⟨fun h => ⟨h.1, h.2⟩, fun h => ⟨h.whole, h.names⟩⟩

theorem walkFrom_ne_tooLong (h : ∀ name ∈ names, name.utf8ByteSize ≤ maxNameBytes) :
    d.walkFrom place names ≠ .error .tooLong := by
  induction names generalizing place with
  | nil => exact fun hw => nomatch hw
  | cons name names ih =>
    obtain ⟨hname, hrest⟩ := List.forall_mem_cons.1 h
    rw [walkFrom]
    split
    · rw [if_neg (Nat.not_lt.2 hname)]
      exact ih hrest
    · simp
    · simp

theorem Takes.find_ne_tooLong (h : Takes p) : d.find p ≠ .error .tooLong := by
  have hwalk : d.walk p ≠ .error .tooLong := by
    rw [walk, h.whole]
    exact walkFrom_ne_tooLong h.names
  rw [find]
  cases hw : d.walk p with
  | error o =>
    rw [hw] at hwalk
    simpa [bind, Except.bind] using hwalk
  | ok q =>
    simp only [bind, Except.bind]
    split <;> simp [pure, Except.pure, throw, throwThe, MonadExceptOf.throw]

theorem not_hasNull_of_refusal? (h : refusal? p = none) : p.hasNull = false := by
  rw [refusal?] at h
  split at h
  · cases h
  · rename_i hnull
    exact Bool.eq_false_iff.2 hnull

theorem Takes.not_hasNull (h : Takes p) : p.hasNull = false := not_hasNull_of_refusal? h.whole

theorem not_hasNull_of_walk (h : d.walk p = .ok q) : p.hasNull = false :=
  not_hasNull_of_refusal? (walk_eq_ok.1 h).1

theorem walkFrom_ne_null : d.walkFrom place names ≠ .error .null := by
  induction names generalizing place with
  | nil => exact fun hw => nomatch hw
  | cons name names ih =>
    rw [walkFrom]
    split
    · split
      · simp
      · exact ih
    · simp
    · simp

theorem hasNull_of_find (h : d.find p = .error .null) : p.hasNull = true := by
  have hwalk : d.walk p = .error .null := by
    rw [find] at h
    cases hw : d.walk p with
    | error o =>
      rw [hw] at h
      exact congrArg Except.error (Except.error.inj h)
    | ok q =>
      simp only [hw, bind, Except.bind] at h
      split at h <;> cases h
  rw [walk, refusal?] at hwalk
  split at hwalk
  · rename_i ho
    split at ho
    · assumption
    · split at ho <;> cases ho
      cases hwalk
  · exact absurd hwalk walkFrom_ne_null

/-- Every directory of `d` is one of `d'`. -/
def KeepsDirectories (d d' : Disk) : Prop :=
  ∀ r, d.entry? r = some .directory → d'.entry? r = some .directory

theorem KeepsDirectories.refl (d : Disk) : d.KeepsDirectories d := fun _ h => h

theorem KeepsDirectories.trans (h : d.KeepsDirectories d') (h' : d'.KeepsDirectories d'') :
    d.KeepsDirectories d'' := fun r hr => h' r (h r hr)

theorem KeepsDirectories.walkFrom (hd : d.KeepsDirectories d')
    (h : d.walkFrom place names = .ok q) : d'.walkFrom place names = .ok q := by
  induction names generalizing place with
  | nil => exact h
  | cons name names ih =>
    obtain ⟨hplace, hname, hrest⟩ := walkFrom_cons_eq_ok.1 h
    exact walkFrom_cons_eq_ok.2 ⟨hd _ hplace, hname, ih hrest⟩

theorem KeepsDirectories.walk (hd : d.KeepsDirectories d') (h : d.walk p = .ok q) :
    d'.walk p = .ok q :=
  walk_eq_ok.2 ((walk_eq_ok.1 h).imp_right hd.walkFrom)

theorem find_eq_file : d.find p = .ok (.file bytes) ↔
    d.walk p = .ok p.place ∧ d.file? p.place = some bytes := by
  rw [file?_eq_some, find]
  cases h : d.walk p with
  | error o => simp [bind, Except.bind]
  | ok q =>
    obtain rfl := walk_eq h
    simp only [bind, Except.bind, true_and]
    split <;> rename_i he
    · rw [he]
      simp [pure, Except.pure]
    · rw [he]
      simp [throw, throwThe, MonadExceptOf.throw]

theorem has_of_find {e : Entry} (h : d.find p = .ok e) : d.has p = .ok true := by
  rw [has, lookUp, h]
  rfl

theorem lookUp_eq_some {e : Entry} : d.lookUp p = .ok (some e) ↔ d.find p = .ok e := by
  rw [lookUp]
  split <;> rename_i hfind <;> simp [hfind]

/-- A look-up fails only where a name is too long. -/
theorem lookUp_error {f : Fault} (h : d.lookUp p = .error f) :
    d.find p = .error .tooLong ∧ f = .nameTooLong p.toString := by
  rw [lookUp] at h
  split at h
  · cases h
  · rename_i hfind
    exact ⟨hfind, (Except.error.inj h).symm⟩
  · cases h

theorem Takes.has_ne_error (h : Takes p) {f : Fault} : d.has p ≠ .error f := by
  intro hhas
  rw [has] at hhas
  cases hlook : d.lookUp p with
  | ok o =>
    rw [hlook] at hhas
    cases hhas
  | error g => exact h.find_ne_tooLong (lookUp_error hlook).1

/-- A text without carriage returns is read as it was written. -/
theorem read_of_find {s : String} (h : d.find p = .ok (.file (Text.Utf8.encode s)))
    (hs : '\r' ∉ s.toList) : d.read p = .ok s := by
  simp only [read, h, Text.Utf8.decode_encode, Text.withLineFeeds_eq_self hs]

/-- A file that can be read is found. -/
theorem find_of_read {s : String} (h : d.read p = .ok s) : ∃ bytes t,
    d.find p = .ok (.file bytes) ∧ Text.Utf8.decode bytes = .ok t ∧ s = Text.withLineFeeds t := by
  rw [read] at h
  split at h
  · cases h
  · cases h
  · rename_i bytes hfind
    split at h
    · rename_i t ht
      exact ⟨bytes, t, hfind, ht, (Except.ok.inj h).symm⟩
    · cases h

theorem read_error {f : Fault} (h : d.read p = .error f) :
    (∃ o, d.find p = .error o ∧ f = lookupFault p o) ∨ f = .isDirectory p.toString ∨
      ∃ fault, f = .notUtf8 fault := by
  rw [read] at h
  split at h
  · rename_i o hfind
    exact .inl ⟨o, hfind, (Except.error.inj h).symm⟩
  · exact .inr (.inl (Except.error.inj h).symm)
  · split at h
    · cases h
    · exact .inr (.inr ⟨_, (Except.error.inj h).symm⟩)

theorem read_of_decode {bytes : ByteArray} {t : String} (h : d.find p = .ok (.file bytes))
    (ht : Text.Utf8.decode bytes = .ok t) : d.read p = .ok (Text.withLineFeeds t) := by
  simp only [read, h, ht]

/-! ## Making directories -/

/-- The places on the way along names, each name giving one. -/
def visited (place : List String) : List String → List (List String)
  | [] => []
  | name :: rest => step place name :: visited (step place name) rest

theorem visited_append (place names names' : List String) :
    visited place (names ++ names') =
      visited place names ++ visited (names.foldl step place) names' := by
  induction names generalizing place with
  | nil => rfl
  | cons name names ih => rw [List.cons_append, visited, visited, ih]; rfl

theorem step_cases (place : List String) (name : String) :
    step place name <+: place ∨ step place name = place ++ [name] := by
  rw [step]
  split
  · exact .inr rfl
  · rename_i hname
    obtain rfl : name = ".." := by simpa using hname
    split
    · exact .inl List.prefix_rfl
    · split
      · exact .inr rfl
      · exact .inl (List.dropLast_prefix _)

/-- The way along some names leads to a place named by one of them, or back to where it came
from. -/
theorem mem_of_mem_visited {place names q : List String} {name : String}
    (h : q ++ [name] ∈ visited place names) : name ∈ names ∨ q ++ [name] <+: place := by
  induction names generalizing place with
  | nil => cases h
  | cons first names ih =>
    have hfirst (hp : q ++ [name] <+: step place first) :
        name ∈ first :: names ∨ q ++ [name] <+: place := by
      rcases step_cases place first with hs | hs
      · exact .inr (hp.trans hs)
      · rw [hs, List.prefix_concat_iff] at hp
        rcases hp with hp | hp
        · obtain ⟨-, hlast⟩ := List.append_inj' hp rfl
          exact .inl (List.mem_cons.2 (.inl (List.singleton_inj.1 hlast)))
        · exact .inr hp
    rw [visited] at h
    rcases List.mem_cons.1 h with h | h
    · exact hfirst (h ▸ List.prefix_rfl)
    · rcases ih h with h | h
      · exact .inl (List.mem_cons_of_mem _ h)
      · exact hfirst h

/-- `d'` is `d` with new directories at some of the places. -/
def Grows (places : List (List String)) (d d' : Disk) : Prop :=
  ∀ r, d'.entry? r = d.entry? r ∨
    r ∈ places ∧ d.entry? r = none ∧ d'.entry? r = some .directory

theorem Grows.keeps {places : List (List String)} (h : Grows places d d') :
    d.KeepsDirectories d' := by
  intro r hr
  rcases h r with he | ⟨_, hn, _⟩
  · rw [he, hr]
  · rw [hr] at hn
    cases hn

theorem Grows.file?_eq {places : List (List String)} (h : Grows places d d')
    (r : List String) : d'.file? r = d.file? r := by
  rcases h r with he | ⟨_, hn, hd⟩
  · rw [file?, file?, he]
  · rw [file?, file?, hn, hd]

theorem grows_makeDirectoriesFrom (d : Disk) (place names : List String) :
    Grows (visited place names) d (d.makeDirectoriesFrom place names).1 := by
  induction names generalizing d place with
  | nil => exact fun r => .inl rfl
  | cons name names ih =>
    intro r
    rw [makeDirectoriesFrom, visited]
    split
    · exact .inl rfl
    split
    · rcases ih d (step place name) r with h | ⟨hr, h⟩
      · exact .inl h
      · exact .inr ⟨List.mem_cons_of_mem _ hr, h⟩
    · exact .inl rfl
    · rename_i hnone
      have ha := isAround_of_entry?_ne (d := d) (r := step place name) (by simp [hnone])
      have hput := entry?_put (d := d) (r := r) ha .directory
      rcases ih (d.put (step place name) .directory) (step place name) r with h | ⟨hr, hn, h⟩
      · rw [h, hput]
        split
        · rename_i hr
          subst hr
          exact .inr ⟨List.mem_cons_self, hnone, rfl⟩
        · exact .inl rfl
      · rw [hput] at hn
        split at hn
        · cases hn
        · exact .inr ⟨List.mem_cons_of_mem _ hr, hn, h⟩

theorem Grows.refl (places : List (List String)) (d : Disk) : Grows places d d := fun _ => .inl rfl

theorem grows_makeDirectories (d : Disk) (p : Path) :
    Grows (visited (start p) p.parts) d (d.makeDirectories p).1 := by
  rw [makeDirectories]
  split
  · exact .refl _ d
  · exact grows_makeDirectoriesFrom d (start p) p.parts

/-! ## Writing -/

/-- What a write does: directories are made, and then the bytes are set or nothing else happens. -/
theorem writeBytes_cases (d : Disk) (p : Path) (bytes : ByteArray) :
    ∃ d₁, Grows (visited (start p) p.parent.parts) d d₁ ∧
      (d.writeBytes p bytes = (d₁, false) ∨
        d₁.walk p = .ok p.place ∧ isAround p.place = false ∧
          d₁.entry? p.place ≠ some .directory ∧
          d.writeBytes p bytes = (d₁.put p.place (.file bytes), true)) := by
  have hgrows : Grows (visited (start p) p.parent.parts) d (d.makeDirectories p.parent).1 :=
    grows_makeDirectories d p.parent
  rw [writeBytes]
  cases hd : d.makeDirectories p.parent with
  | mk d₁ made =>
  rw [hd] at hgrows
  refine ⟨d₁, hgrows, ?_⟩
  cases made with
  | false => exact .inl rfl
  | true =>
    dsimp only
    cases hw : d₁.walk p with
    | error o => exact .inl rfl
    | ok place =>
      obtain rfl := walk_eq hw
      dsimp only
      split
      · exact .inl rfl
      · rename_i hnot
        split
        · exact .inr ⟨rfl, isAround_of_entry?_ne hnot, hnot, rfl⟩
        · exact .inl rfl

/-- A file that is not written is reported as such, or a null character is found in its path. -/
theorem writeFailure_cases (d : Disk) (p : Path) :
    d.writeFailure p = .problem (.writeFailed p.toString "not writable") ∨
      p.hasNull = true ∧ d.writeFailure p = .fault .nullInPath := by
  rw [writeFailure]
  split
  · rename_i hnull
    refine .inr ⟨?_, rfl⟩
    rw [Bool.or_eq_true, Bool.and_eq_true] at hnull
    rcases hnull with hparent | ⟨h, -⟩
    · rw [Path.hasNull, List.any_eq_true] at hparent ⊢
      obtain ⟨name, hname, hc⟩ := hparent
      exact ⟨name, List.mem_of_mem_dropLast hname, hc⟩
    · exact h
  · exact .inl rfl

theorem keeps_writeBytes (d : Disk) (p : Path) (bytes : ByteArray) :
    d.KeepsDirectories (d.writeBytes p bytes).1 := by
  obtain ⟨d₁, hgrows, h | ⟨_, ha, hnot, h⟩⟩ := writeBytes_cases d p bytes
  · rw [h]
    exact hgrows.keeps
  · intro r hr
    have hr₁ := hgrows.keeps r hr
    have hne : r ≠ p.place := fun e => hnot (e ▸ hr₁)
    rw [h, entry?_put ha, if_neg hne]
    exact hr₁

/-- The files after a write. -/
theorem file?_writeBytes (d : Disk) (p : Path) (bytes : ByteArray) (r : List String) :
    (d.writeBytes p bytes).1.file? r =
      if (d.writeBytes p bytes).2 = true ∧ p.place = r then some bytes else d.file? r := by
  obtain ⟨d₁, hgrows, h | ⟨_, ha, -, h⟩⟩ := writeBytes_cases d p bytes
  · simp [h, hgrows.file?_eq]
  · rw [h, file?, entry?_put ha]
    by_cases hr : r = p.place
    · subst hr
      simp
    · rw [if_neg hr, if_neg fun hc => hr hc.2.symm]
      exact hgrows.file?_eq r

theorem walk_writeBytes (h : (d.writeBytes p bytes).2 = true) :
    (d.writeBytes p bytes).1.walk p = .ok p.place := by
  obtain ⟨d₁, _, hf | ⟨hw, ha, hnot, hw'⟩⟩ := writeBytes_cases d p bytes
  · rw [hf] at h
    cases h
  · rw [hw']
    refine KeepsDirectories.walk (fun r hr => ?_) hw
    have hne : r ≠ p.place := fun e => hnot (e ▸ hr)
    rw [entry?_put ha, if_neg hne]
    exact hr

/-- What was written is found. -/
theorem find_of_write {t : String} (h : d.write p t = (d', .ok ())) :
    d'.find p = .ok (.file (Text.Utf8.encode t)) := by
  rw [write] at h
  split at h
  · rename_i hbytes
    obtain rfl := congrArg Prod.fst h
    have hok : (d.writeBytes p (Text.Utf8.encode t)).2 = true := by rw [hbytes]
    have hwalk := walk_writeBytes hok
    have hfile := file?_writeBytes d p (Text.Utf8.encode t) p.place
    rw [if_pos ⟨hok, rfl⟩] at hfile
    rw [hbytes] at hwalk hfile
    exact find_eq_file.2 ⟨hwalk, hfile⟩
  · cases congrArg Prod.snd h

/-- A directory after a write was one before or lies on the way to what is written. -/
theorem directory_writeBytes (h : entry? (d.writeBytes p bytes).1 r = some .directory) :
    d.entry? r = some .directory ∨ r ∈ visited (start p) p.parent.parts := by
  obtain ⟨d₁, hgrows, hf | ⟨_, ha, _, hw⟩⟩ := writeBytes_cases d p bytes
  · rw [hf] at h
    rcases hgrows r with he | ⟨hr, _⟩
    · exact .inl (he ▸ h)
    · exact .inr hr
  · rw [hw, entry?_put ha] at h
    split at h
    · cases h
    · rcases hgrows r with he | ⟨hr, _⟩
      · exact .inl (he ▸ h)
      · exact .inr hr

/-! ## Removing -/

theorem remove_cases (h : d.remove p = .ok d') :
    d' = d ∧ d.has p = .ok false ∨
      isAround p.place = false ∧ d.walk p = .ok p.place ∧ d' = d.erase p.place ∧
        d.entry? p.place ≠ some .directory := by
  rw [remove] at h
  split at h
  · cases h
  · rename_i hnone
    exact .inl ⟨(Except.ok.inj h).symm, by rw [has, hnone]; rfl⟩
  · cases h
  · rename_i bytes hsome
    obtain ⟨hw, hb⟩ := find_eq_file.1 (lookUp_eq_some.1 hsome)
    rw [hw] at h
    rw [file?_eq_some] at hb
    have hnot : d.entry? p.place ≠ some .directory := by simp [hb]
    exact .inr ⟨isAround_of_entry?_ne hnot, hw, (Except.ok.inj h).symm, hnot⟩

theorem keeps_remove (h : d.remove p = .ok d') : d.KeepsDirectories d' := by
  rcases remove_cases h with ⟨rfl, _⟩ | ⟨ha, _, rfl, hnot⟩
  · exact .refl _
  · intro r hr
    have hne : r ≠ p.place := fun e => hnot (e ▸ hr)
    rw [entry?_erase ha, if_neg hne]
    exact hr

/-- The files elsewhere after one is removed. -/
theorem file?_remove (h : d.remove p = .ok d') (hr : p.place ≠ r) : d'.file? r = d.file? r := by
  rcases remove_cases h with ⟨rfl, _⟩ | ⟨ha, _, rfl, _⟩
  · rfl
  · rw [file?, entry?_erase ha, if_neg hr.symm]
    rfl

theorem entry?_remove {e : Entry} (h : d.remove p = .ok d') (hr : d'.entry? r = some e) :
    d.entry? r = some e := by
  rcases remove_cases h with ⟨rfl, _⟩ | ⟨ha, _, rfl, _⟩
  · exact hr
  · rw [entry?_erase ha] at hr
    split at hr
    · cases hr
    · exact hr

/-- Only a directory cannot be removed, and what cannot be looked up. -/
theorem remove_error {f : Fault} (h : d.remove p = .error f) :
    d.find p = .ok .directory ∧ f = .isDirectory p.toString ∨
      d.find p = .error .tooLong ∧ f = .nameTooLong p.toString := by
  rw [remove] at h
  split at h
  · rename_i hlookup
    obtain rfl := Except.error.inj h
    exact .inr (lookUp_error hlookup)
  · cases h
  · rename_i hsome
    exact .inl ⟨lookUp_eq_some.1 hsome, (Except.error.inj h).symm⟩
  · rename_i hsome
    rw [(find_eq_file.1 (lookUp_eq_some.1 hsome)).1] at h
    cases h

theorem find_directory (h : d.find p = .ok .directory) : d.entry? p.place = some .directory := by
  rw [find] at h
  cases hw : d.walk p with
  | error o =>
    rw [hw] at h
    cases h
  | ok q =>
    obtain rfl := walk_eq hw
    rw [hw] at h
    simp only [bind, Except.bind] at h
    split at h
    · rename_i he
      exact he.trans (congrArg some (Except.ok.inj h))
    · cases h

/-- What has been removed is gone. -/
theorem has_remove (h : d.remove p = .ok d') : d'.has p = .ok false := by
  rcases remove_cases h with ⟨rfl, hhas⟩ | ⟨ha, hw, rfl, hnot⟩
  · exact hhas
  · have hwalk : (d.erase p.place).walk p = .ok p.place := by
      refine KeepsDirectories.walk (fun r hr => ?_) hw
      have hne : r ≠ p.place := fun e => hnot (e ▸ hr)
      rw [entry?_erase ha, if_neg hne]
      exact hr
    have hnone : Disk.entry? (d.erase p.place) p.place = none := by rw [entry?_erase ha, if_pos rfl]
    rw [has, lookUp, find, hwalk]
    simp only [bind, Except.bind]
    rw [hnone]
    rfl

end Disk

end CrateBook
