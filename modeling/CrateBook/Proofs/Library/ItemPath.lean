import CrateBook.Library.ItemPath
import CrateBook.Library.Name
import CrateBook.Proofs.Library.PageName

/-!
# Reading item paths back

A library and identifiers inside it, written one after another with either separator before each
identifier, are read back as they are: `parse_writtenPath`. Any spelling of a library's canonical
name with hyphens for some of its underscores has that canonical name (`IsSpelling.canonicalName`).
-/

namespace CrateBook

/-- What stands between two names of an item path. -/
inductive Separator where
  | colons
  | dot

/-- How a separator is written. -/
def Separator.text : Separator → String
  | colons => "::"
  | dot => "."

/-- How a library and the names inside it are written, each name after a separator. -/
def writtenPath (library : String) (steps : List (Separator × String)) : String :=
  library ++ String.join (steps.map fun s => s.1.text ++ s.2)

/-- The text spells an identifier with hyphens for some of its underscores. -/
def IsSpelling (canonical s : String) : Prop :=
  s.toList.map (fun c => if c = '-' then '_' else c) = canonical.toList

variable {s canonical library : String} {steps : List (Separator × String)}

theorem IsSpelling.isPageChar (h : IsSpelling canonical s) (hc : IsIdentifier canonical) {c : Char}
    (hmem : c ∈ s.toList) : isPageChar c = true := by
  have himage : (if c = '-' then '_' else c) ∈ canonical.toList := by
    rw [← h]
    exact List.mem_map_of_mem hmem
  have hchar := isPageChar_of_isIdentifierChar (hc.char himage)
  by_cases hd : c = '-'
  · subst hd
    decide
  · rwa [if_neg hd] at hchar

theorem IsSpelling.ne_empty (h : IsSpelling canonical s) (hc : IsIdentifier canonical) :
    s ≠ "" := by
  rintro rfl
  exact hc.1 (String.toList_eq_nil_iff.1 h.symm)

theorem IsSpelling.canonicalName (h : IsSpelling canonical s) (hc : IsIdentifier canonical) :
    canonicalName s = canonical := by
  rw [CrateBook.canonicalName,
    Text.trim_eq_self fun c hmem => isBlank_of_isPageChar (h.isPageChar hc hmem)]
  rw [IsSpelling] at h
  rw [h, String.ofList_toList]

namespace ItemPath

/-- A character that can stand in a name of an item path: no separator has it, and it is not
blank. -/
def isPathNameChar (c : Char) : Bool := c != ':' && c != '.' && !Text.isBlank c

/-- The text can be a name in an item path. -/
def IsPathName (s : String) : Prop := s ≠ "" ∧ s.toList.all isPathNameChar = true

instance : DecidablePred IsPathName := fun s => inferInstanceAs (Decidable (s ≠ "" ∧ _))

theorem IsPathName.char (h : IsPathName s) {c : Char} (hc : c ∈ s.toList) :
    c ≠ ':' ∧ c ≠ '.' ∧ Text.isBlank c = false := by
  have hchar := List.all_eq_true.1 h.2 c hc
  simpa [isPathNameChar, and_assoc] using hchar

theorem isPathName_of_isPageChar (hne : s ≠ "") (h : ∀ c ∈ s.toList, isPageChar c = true) :
    IsPathName s := by
  refine ⟨hne, List.all_eq_true.2 fun c hc => ?_⟩
  have hcolon : c ≠ ':' := by rintro rfl; exact absurd (h _ hc) (by decide)
  have hdot : c ≠ '.' := by rintro rfl; exact absurd (h _ hc) (by decide)
  simp [isPathNameChar, hcolon, hdot, isBlank_of_isPageChar (h c hc)]

theorem isPathName_of_isIdentifier (h : IsIdentifier s) : IsPathName s :=
  isPathName_of_isPageChar h.1 fun _ hc => isPageChar_of_isIdentifierChar (h.char hc)

theorem segmentRuns_ne_nil (cs : List Char) : segmentRuns cs ≠ [] := by
  rw [segmentRuns.eq_def]
  split
  · simp
  · simp
  · split
    · simp
    · split <;> simp

/-- Characters of a name go to the front of the first segment. -/
theorem segmentRuns_append {cs ds : List Char} (h : ∀ c ∈ cs, c ≠ ':' ∧ c ≠ '.') :
    segmentRuns (cs ++ ds) = (segmentRuns ds).modifyHead (cs ++ ·) := by
  induction cs with
  | nil => cases h : segmentRuns ds <;> simp [h]
  | cons c cs ih =>
    obtain ⟨hcolon, hdot⟩ := h c List.mem_cons_self
    rw [List.cons_append, segmentRuns, if_neg hdot,
      ih fun d hd => h d (List.mem_cons_of_mem _ hd)]
    · cases hs : segmentRuns ds with
      | nil => exact absurd hs (segmentRuns_ne_nil ds)
      | cons first rest => rfl
    · intro _ hc _
      exact hcolon hc

theorem segmentRuns_separator (sep : Separator) (ds : List Char) :
    segmentRuns (sep.text.toList ++ ds) = [] :: segmentRuns ds := by
  cases sep with
  | colons => rfl
  | dot =>
    change segmentRuns ('.' :: ds) = _
    rw [segmentRuns, if_pos rfl]
    intro _ hc
    cases hc

theorem toList_writtenPath (library : String) (steps : List (Separator × String)) :
    (writtenPath library steps).toList =
      library.toList ++ steps.flatMap fun s => s.1.text.toList ++ s.2.toList := by
  rw [writtenPath, String.toList_append, String.toList_join, List.flatMap_map]
  simp

theorem writtenPath_ne_empty (h : IsPathName library) : writtenPath library steps ≠ "" := by
  intro he
  have hnil := congrArg String.toList he
  rw [toList_writtenPath] at hnil
  exact h.1 (String.toList_eq_nil_iff.1 (List.append_eq_nil_iff.1 hnil).1)

theorem isBlank_of_mem_writtenPath (hlibrary : IsPathName library)
    (hsteps : ∀ s ∈ steps, IsPathName s.2) {c : Char}
    (hc : c ∈ (writtenPath library steps).toList) : Text.isBlank c = false := by
  rw [toList_writtenPath] at hc
  rcases List.mem_append.1 hc with hc | hc
  · exact (hlibrary.char hc).2.2
  · obtain ⟨⟨sep, n⟩, hs, hc⟩ := List.mem_flatMap.1 hc
    rcases List.mem_append.1 hc with hc | hc
    · have hsep : c = ':' ∨ c = '.' := by cases sep <;> simp_all [Separator.text]
      rcases hsep with rfl | rfl <;> decide
    · exact ((hsteps _ hs).char hc).2.2

theorem segmentRuns_writtenPath (hlibrary : IsPathName library)
    (hsteps : ∀ s ∈ steps, IsPathName s.2) :
    segmentRuns (writtenPath library steps).toList =
      library.toList :: steps.map (·.2.toList) := by
  have hname {n : String} (h : IsPathName n) : ∀ c ∈ n.toList, c ≠ ':' ∧ c ≠ '.' :=
    fun c hc => ⟨(h.char hc).1, (h.char hc).2.1⟩
  rw [toList_writtenPath, segmentRuns_append (hname hlibrary)]
  suffices h : segmentRuns (steps.flatMap fun s => s.1.text.toList ++ s.2.toList) =
      [] :: steps.map (·.2.toList) by
    rw [h]
    simp
  induction steps with
  | nil => rfl
  | cons s steps ih =>
    obtain ⟨hs, hrest⟩ := List.forall_mem_cons.1 hsteps
    rw [List.flatMap_cons, List.append_assoc, segmentRuns_separator,
      segmentRuns_append (hname hs), ih hrest]
    simp

theorem IsPathName.isName (h : IsPathName s) : isName s = true := by
  rw [ItemPath.isName, List.all_eq_true]
  intro c hc
  obtain ⟨hcolon, -, hblank⟩ := h.char hc
  simp [hcolon, hblank]

theorem refusal?_eq_none {names : List String} (hne : names ≠ [])
    (h : ∀ n ∈ names, IsPathName n) : refusal? names = none := by
  obtain ⟨first, rest, rfl⟩ := List.exists_cons_of_ne_nil hne
  have hempty : "" ∉ first :: rest := fun hmem => (h "" hmem).1 rfl
  have hfirst := (h first List.mem_cons_self).1
  have hlast : (first :: rest).getLast? ≠ some "" := fun he => hempty (List.mem_of_getLast? he)
  have hfind : (first :: rest).find? (!isName ·) = none := by
    rw [List.find?_eq_none]
    intro n hn
    simp [(h n hn).isName]
  rw [refusal?, if_neg (by simp [hfirst]), if_neg (by simpa using hfirst),
    if_neg (by simpa using hlast), if_neg (by simpa using hempty), hfind]
  rfl

/-- A path is read from the text that is left when the blanks at its ends are dropped. -/
theorem parse_of_trim {raw : String} (hlibrary : IsPathName library)
    (hsteps : ∀ s ∈ steps, IsPathName s.2) (htrim : Text.trim raw = writtenPath library steps) :
    parse raw = .ok ⟨raw, library, steps.map (·.2)⟩ := by
  have hsegments : segments (writtenPath library steps) = library :: steps.map (·.2) := by
    rw [segments, segmentRuns_writtenPath hlibrary hsteps]
    simp
  have hrefusal : refusal? (library :: steps.map (·.2)) = none := by
    refine refusal?_eq_none (by simp) fun n hn => ?_
    rcases List.mem_cons.1 hn with rfl | hn
    · exact hlibrary
    · obtain ⟨s, hs, rfl⟩ := List.mem_map.1 hn
      exact hsteps s hs
  rw [parse]
  dsimp only
  rw [htrim, if_neg (by simpa using writtenPath_ne_empty hlibrary), hsegments, hrefusal]

/-- A written path is read back. -/
theorem parse_writtenPath (hlibrary : IsPathName library)
    (hsteps : ∀ s ∈ steps, IsPathName s.2) :
    parse (writtenPath library steps) =
      .ok ⟨writtenPath library steps, library, steps.map (·.2)⟩ :=
  parse_of_trim hlibrary hsteps
    (Text.trim_eq_self fun _ hc => isBlank_of_mem_writtenPath hlibrary hsteps hc)

/-! ## Libraries of paths -/

variable {raw : String} {path : ItemPath}

/-- The text can stand between the separators of an item path. -/
def IsSegment (s : String) : Prop :=
  s ≠ "" ∧ '.' ∉ s.toList ∧ ∀ c ∈ s.toList, Text.isBlank c = false

theorem dot_not_mem_of_mem_segmentRuns {cs segment : List Char} (h : segment ∈ segmentRuns cs) :
    '.' ∉ segment := by
  fun_induction segmentRuns cs generalizing segment with
  | case1 => simp_all
  | case2 cs ih =>
    rcases List.mem_cons.1 h with rfl | h
    · exact List.not_mem_nil
    · exact ih h
  | case3 cs _ ih =>
    rcases List.mem_cons.1 h with rfl | h
    · exact List.not_mem_nil
    · exact ih h
  | case4 c cs _ hc hnil ih =>
    rw [List.mem_singleton.1 h]
    simpa using Ne.symm hc
  | case5 c cs _ hc s ss hs ih =>
    rcases List.mem_cons.1 h with rfl | h
    · intro hmem
      rcases List.mem_cons.1 hmem with rfl | hmem
      · exact hc rfl
      · exact ih (hs ▸ List.mem_cons_self) hmem
    · exact ih (hs ▸ List.mem_cons_of_mem _ h)

theorem of_refusal?_eq_none {names : List String} (h : refusal? names = none) :
    ∀ n ∈ names, n ≠ "" ∧ isName n = true := by
  rw [refusal?] at h
  split at h
  · cases h
  · split at h
    · cases h
    · split at h
      · cases h
      · split at h
        · cases h
        · rename_i hempty
          rw [Option.map_eq_none_iff, List.find?_eq_none] at h
          intro n hn
          refine ⟨?_, by simpa using h n hn⟩
          rintro rfl
          exact hempty (by simpa using hn)

/-- An item path keeps the text that spells it, and is made of the segments of that text. -/
theorem of_parse (h : parse raw = .ok path) : path.raw = raw ∧
    segments (Text.trim raw) = path.library :: path.inner ∧
    refusal? (path.library :: path.inner) = none := by
  rw [parse] at h
  dsimp only at h
  split at h
  · cases h
  · split at h
    · cases h
    · cases h
    · rename_i library inner hrefusal hnames
      obtain rfl := Except.ok.inj h
      exact ⟨rfl, hnames, hnames ▸ hrefusal⟩

/-- The library of an item path is a segment of it. -/
theorem isSegment_of_parse (h : parse raw = .ok path) : IsSegment path.library := by
  obtain ⟨-, hnames, hrefusal⟩ := of_parse h
  obtain ⟨hne, hname⟩ := of_refusal?_eq_none hrefusal _ List.mem_cons_self
  have hmem : path.library ∈ segments (Text.trim raw) := hnames ▸ List.mem_cons_self
  obtain ⟨segment, hsegment, hlibrary⟩ := List.mem_map.1 hmem
  refine ⟨hne, ?_, fun c hc => ?_⟩
  · rw [← hlibrary, String.toList_ofList]
    exact dot_not_mem_of_mem_segmentRuns hsegment
  · have hchar := List.all_eq_true.1 hname c hc
    simp only [Bool.and_eq_true, Bool.not_eq_true'] at hchar
    exact hchar.2

/-- A library is read from an item path that names nothing inside it. -/
theorem of_parseLibrary (h : parseLibrary raw = .ok s) :
    ∃ path, parse (Text.trim raw) = .ok path ∧ path.inner = [] ∧ path.library = s := by
  rw [parseLibrary] at h
  split at h
  · cases h
  · split at h
    · cases h
    · cases hparse : parse (Text.trim raw) with
      | error f =>
        rw [hparse] at h
        cases h
      | ok path =>
        rw [hparse] at h
        simp only [bind, Except.bind] at h
        split at h
        · rename_i hinner
          exact ⟨path, rfl, List.isEmpty_iff.1 hinner, Except.ok.inj h⟩
        · cases h

theorem isSegment_of_parseLibrary (h : parseLibrary raw = .ok s) : IsSegment s := by
  obtain ⟨path, hparse, -, rfl⟩ := of_parseLibrary h
  exact isSegment_of_parse hparse

theorem eq_of_segmentRuns_eq_singleton {cs segment : List Char} (h : segmentRuns cs = [segment]) :
    segment = cs := by
  fun_induction segmentRuns cs generalizing segment with
  | case1 => exact (List.singleton_inj.1 h).symm
  | case2 cs ih => exact absurd (List.cons.inj h).2 (segmentRuns_ne_nil cs)
  | case3 cs _ ih => exact absurd (List.cons.inj h).2 (segmentRuns_ne_nil _)
  | case4 c cs _ hc hnil ih => exact absurd hnil (segmentRuns_ne_nil cs)
  | case5 c cs _ hc s ss hs ih =>
    obtain ⟨rfl, rfl⟩ := List.cons.inj h
    rw [ih hs]

/-- A library is named by the text that spells it, without the blanks at its ends. -/
theorem eq_trim_of_parseLibrary (h : parseLibrary raw = .ok s) : s = Text.trim raw := by
  obtain ⟨path, hparse, hinner, rfl⟩ := of_parseLibrary h
  obtain ⟨-, hnames, -⟩ := of_parse hparse
  rw [hinner, segments, List.map_eq_singleton_iff] at hnames
  obtain ⟨segment, hruns, hsegment⟩ := hnames
  rw [← hsegment, eq_of_segmentRuns_eq_singleton hruns, String.ofList_toList]
  exact Text.trimOf_trimOf _ _

/-- The canonical name of a library is the name of a directory, when a path names the library and
the library is declared without a slash. -/
theorem IsSegment.isPlain_canonical (h : IsSegment s) {l : LibraryName}
    (hl : l.canonical = canonicalName s) (hslash : '/' ∉ l.declared.toList) :
    Path.IsPlain l.canonical := by
  obtain ⟨hne, hdot, hblank⟩ := h
  have hs : (canonicalName s).toList = s.toList.map fun c => if c = '-' then '_' else c := by
    rw [canonicalName, Text.trim_eq_self hblank, String.toList_ofList]
  have hempty : l.canonical ≠ "" := by
    rw [hl]
    intro he
    rw [he] at hs
    exact hne (String.toList_eq_nil_iff.1 (List.map_eq_nil_iff.1 hs.symm))
  have hnodot : '.' ∉ l.canonical.toList := by
    rw [hl, hs]
    intro hmem
    obtain ⟨c, hc, heq⟩ := List.mem_map.1 hmem
    split at heq
    · cases heq
    · exact hdot (heq ▸ hc)
  have hnoslash : '/' ∉ l.canonical.toList := by
    rw [LibraryName.canonical, canonicalName, String.toList_ofList]
    intro hmem
    obtain ⟨c, hc, heq⟩ := List.mem_map.1 hmem
    split at heq
    · cases heq
    · exact hslash (heq ▸ Text.mem_of_mem_trimOf hc)
  refine ⟨⟨hempty, ?_, hnoslash⟩, ?_⟩ <;>
    exact fun he => hnodot (by rw [he]; decide)

end ItemPath

end CrateBook
