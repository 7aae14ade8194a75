import CrateBook.Proofs.Library.ItemPath
import CrateBook.Proofs.Text.Words

/-!
# The grammar of item paths

An item path is names with a separator between each two of them, the first one the library
(`Spells`), and blanks at its ends do not count. A text is read just when it is such a path, and
what is read are the names that it spells; every other text is refused with the text itself
(`reads_spelled_paths`).
-/

namespace CrateBook.ItemPath

open Text (allBlank)

/-- The text is the names with a separator between each two of them, the library in front. -/
structure Spells (text library : String) (inner : List String) : Prop where
  isName_library : IsPathName library
  isName_inner : ∀ n ∈ inner, IsPathName n
  separated : ∃ steps : List (Separator × String),
    steps.map (·.2) = inner ∧ text = writtenPath library steps

variable {raw text library name : String} {inner : List String} {path : ItemPath}
  {steps : List (Separator × String)}

/-! ## Cutting a text at its separators -/

/-- Characters are their segments with the separators between them. -/
theorem exists_separated (cs : List Char) : ∃ first, ∃ steps : List (Separator × List Char),
    segmentRuns cs = first :: steps.map (·.2) ∧
      cs = first ++ steps.flatMap fun s => s.1.text.toList ++ s.2 := by
  fun_induction segmentRuns cs with
  | case1 => exact ⟨[], [], rfl, rfl⟩
  | case2 cs ih =>
    obtain ⟨first, steps, hruns, hcs⟩ := ih
    refine ⟨[], (.colons, first) :: steps, by rw [hruns]; rfl, ?_⟩
    rw [hcs]
    simp [Separator.text]
  | case3 cs _ ih =>
    obtain ⟨first, steps, hruns, hcs⟩ := ih
    refine ⟨[], (.dot, first) :: steps, by rw [hruns]; rfl, ?_⟩
    rw [hcs]
    simp [Separator.text]
  | case4 c cs _ _ hnil => exact absurd hnil (segmentRuns_ne_nil cs)
  | case5 c cs _ _ s ss hs ih =>
    obtain ⟨first, steps, hruns, hcs⟩ := ih
    obtain ⟨rfl, rfl⟩ := List.cons.inj (hs.symm.trans hruns)
    refine ⟨c :: s, steps, rfl, ?_⟩
    rw [hcs]
    rfl

/-- A text is its segments with the separators between them. -/
theorem exists_writtenPath (s : String) : ∃ library, ∃ steps : List (Separator × String),
    segments s = library :: steps.map (·.2) ∧ s = writtenPath library steps := by
  obtain ⟨first, steps, hruns, hcs⟩ := exists_separated s.toList
  refine ⟨String.ofList first, steps.map fun s => (s.1, String.ofList s.2), ?_, ?_⟩
  · rw [segments, hruns, List.map_cons, List.map_map, List.map_map]
    rfl
  · rw [← String.toList_inj, toList_writtenPath, hcs, List.flatMap_map]
    simp

theorem not_mem_of_mem_segments {s n : String} (h : n ∈ segments s) : '.' ∉ n.toList := by
  obtain ⟨run, hrun, rfl⟩ := List.mem_map.1 h
  rw [String.toList_ofList]
  exact dot_not_mem_of_mem_segmentRuns hrun

/-! ## What is read -/

theorem isPathName_of_isName (hne : name ≠ "") (hdot : '.' ∉ name.toList)
    (hname : isName name = true) : IsPathName name := by
  refine ⟨hne, List.all_eq_true.2 fun c hc => ?_⟩
  have hc' : c ≠ '.' := by rintro rfl; exact hdot hc
  have hchar := List.all_eq_true.1 hname c hc
  simpa [isPathNameChar, hc'] using hchar

/-- The names of a path that is read are spelled by the text, without the blanks at its ends. -/
theorem spells_of_parse (h : parse raw = .ok path) :
    Spells (Text.trim raw) path.library path.inner := by
  obtain ⟨-, hnames, hrefusal⟩ := of_parse h
  have hname (n : String) (hn : n ∈ path.library :: path.inner) : IsPathName n := by
    obtain ⟨hne, hisName⟩ := of_refusal?_eq_none hrefusal n hn
    exact isPathName_of_isName hne (not_mem_of_mem_segments (hnames ▸ hn)) hisName
  obtain ⟨library, steps, hsegments, htext⟩ := exists_writtenPath (Text.trim raw)
  obtain ⟨rfl, hinner⟩ := List.cons.inj (hsegments.symm.trans hnames)
  exact ⟨hname _ List.mem_cons_self, fun n hn => hname n (List.mem_cons_of_mem _ hn),
    steps, hinner, htext⟩

/-- The names that a text spells are read from it. -/
theorem Spells.parse (h : Spells (Text.trim raw) library inner) :
    parse raw = .ok ⟨raw, library, inner⟩ := by
  obtain ⟨steps, rfl, htext⟩ := h.separated
  have hsteps : ∀ s ∈ steps, IsPathName s.2 := fun s hs =>
    h.isName_inner s.2 (List.mem_map_of_mem hs)
  exact parse_of_trim h.isName_library hsteps htext

theorem parse_eq_ok_iff : parse raw = .ok path ↔
    path.raw = raw ∧ Spells (Text.trim raw) path.library path.inner := by
  refine ⟨fun h => ⟨(of_parse h).1, spells_of_parse h⟩, ?_⟩
  rintro ⟨rfl, h⟩
  exact h.parse

/-- A text that is refused is refused with the text itself. -/
theorem exists_path_or_refused (raw : String) :
    (∃ path, parse raw = .ok path) ∨ ∃ reason, parse raw = .error (.badItemPath raw reason) := by
  rw [parse]
  dsimp only
  split
  · exact .inr ⟨_, rfl⟩
  · split
    · exact .inr ⟨_, rfl⟩
    · exact .inr ⟨_, rfl⟩
    · exact .inl ⟨_, rfl⟩

theorem refused_iff : (∃ reason, parse raw = .error (.badItemPath raw reason)) ↔
    ¬∃ library inner, Spells (Text.trim raw) library inner := by
  constructor
  · rintro ⟨reason, hreason⟩ ⟨library, inner, h⟩
    rw [h.parse] at hreason
    cases hreason
  · intro h
    refine (exists_path_or_refused raw).resolve_left ?_
    rintro ⟨path, hpath⟩
    exact h ⟨_, _, spells_of_parse hpath⟩

/-! ## Reading what was read -/

theorem trim_writtenPath (hlibrary : IsPathName library) (hsteps : ∀ s ∈ steps, IsPathName s.2)
    {l r : String} (hl : allBlank l = true) (hr : allBlank r = true) :
    Text.trim (l ++ writtenPath library steps ++ r) = writtenPath library steps :=
  Text.trim_append_append hl hr (writtenPath_ne_empty hlibrary) fun _ hc =>
    isBlank_of_mem_writtenPath hlibrary hsteps hc

/-- The full path of an item is written with two colons before each name. -/
theorem qualified_eq (path : ItemPath) (library : String) :
    path.qualified library = writtenPath library (path.inner.map (Separator.colons, ·)) := by
  have hsteps : (path.inner.map (Separator.colons, ·)).map (fun s => s.1.text ++ s.2) =
      path.inner.map ("::" ++ ·) := by
    rw [List.map_map]
    rfl
  rw [qualified, item?, writtenPath, hsteps]
  cases path.inner with
  | nil => simp
  | cons n ns =>
    rw [List.map_cons, String.join_cons, String.append_assoc, ← Text.intercalate_cons,
      ← String.append_assoc]
    rfl

/-- The full path of an item that was read is read as the same item. -/
theorem parse_qualified (h : parse raw = .ok path) : parse (path.qualified path.library) =
    .ok ⟨path.qualified path.library, path.library, path.inner⟩ := by
  have hspells := spells_of_parse h
  have hsteps : ∀ s ∈ path.inner.map (Separator.colons, ·), IsPathName s.2 := by
    intro s hs
    obtain ⟨n, hn, rfl⟩ := List.mem_map.1 hs
    exact hspells.isName_inner n hn
  have hinner : (path.inner.map (Separator.colons, ·)).map (·.2) = path.inner := by
    rw [List.map_map]
    exact List.map_id _
  rw [qualified_eq, parse_writtenPath hspells.isName_library hsteps, hinner]

/-! ## Libraries alone -/

theorem writtenPath_nil (library : String) : writtenPath library [] = library := by
  simp [writtenPath]

/-- The names of libraries are the texts that spell one name. -/
theorem parseLibrary_eq_ok_iff :
    parseLibrary raw = .ok name ↔ Spells (Text.trim raw) name [] := by
  constructor
  · intro h
    obtain ⟨path, hparse, hinner, rfl⟩ := of_parseLibrary h
    have hspells := spells_of_parse hparse
    have htrim : Text.trim (Text.trim raw) = Text.trim raw := Text.trimOf_trimOf _ _
    rwa [htrim, hinner] at hspells
  · intro h
    obtain ⟨steps, hsteps, htext⟩ := h.separated
    obtain rfl := List.map_eq_nil_iff.1 hsteps
    rw [writtenPath_nil] at htext
    have hcolon : Text.contains name "::" = false := by
      rw [← Bool.not_eq_true]
      intro hmem
      exact (h.isName_library.char (Text.mem_of_contains hmem (by decide : ':' ∈ _))).1 rfl
    have htrim : Text.trim name = writtenPath name [] := by
      rw [writtenPath_nil]
      exact Text.trim_eq_self fun c hc => (h.isName_library.char hc).2.2
    rw [parseLibrary, htext, if_neg (by simpa using h.isName_library.1), hcolon,
      if_neg Bool.false_ne_true, parse_of_trim h.isName_library (by simp) htrim]
    rfl

/-! ## The grammar -/

/-- **Item paths are read by their grammar.** A text is read just when it spells a path, and any
other text is refused with itself. What is read are the names that are spelled, with any separators
and with blanks on either side; the full path of an item is read as the same item again. A text
names a library when it spells a path of one name. -/
theorem reads_spelled_paths (raw : String) :
    (∀ path, parse raw = .ok path ↔
      path.raw = raw ∧ Spells (Text.trim raw) path.library path.inner) ∧
    ((∃ reason, parse raw = .error (.badItemPath raw reason)) ↔
      ¬∃ library inner, Spells (Text.trim raw) library inner) ∧
    (∀ path, parse raw = .ok path →
      path.item? = (if path.inner = [] then none else some ("::".intercalate path.inner)) ∧
      ∃ path', parse (path.qualified path.library) = .ok path' ∧
        path'.library = path.library ∧ path'.item? = path.item?) ∧
    (∀ l r library steps, allBlank l = true → allBlank r = true → IsPathName library →
      (∀ s ∈ steps, IsPathName s.2) → raw = l ++ writtenPath library steps ++ r →
      parse raw = .ok ⟨raw, library, steps.map (·.2)⟩) ∧
    ∀ name, parseLibrary raw = .ok name ↔ Spells (Text.trim raw) name [] := by
  refine ⟨fun _ => parse_eq_ok_iff, refused_iff, fun path h => ⟨?_, _, parse_qualified h, rfl, rfl⟩,
    ?_, fun _ => parseLibrary_eq_ok_iff⟩
  · simp [item?, List.isEmpty_iff]
  · rintro l r library steps hl hr hlibrary hsteps rfl
    exact parse_of_trim hlibrary hsteps (trim_writtenPath hlibrary hsteps hl hr)

/-- Both separators may stand in one path, and three colons are not a separator. -/
theorem reads_spelled_paths_serde :
    allBlank "\t" = true ∧ allBlank " " = true ∧ IsPathName "serde" ∧
    (∀ s ∈ [(Separator.colons, "de"), (Separator.dot, "Error")], IsPathName s.2) ∧
    parse "\tserde::de.Error " = .ok ⟨"\tserde::de.Error ", "serde", ["de", "Error"]⟩ ∧
    ∃ reason, parse "serde:::de" = .error (.badItemPath "serde:::de" reason) := by
  have hblank : allBlank "\t" = true ∧ allBlank " " = true := by decide
  have hname : IsPathName "serde" := by decide
  have hsteps : ∀ s ∈ [(Separator.colons, "de"), (Separator.dot, "Error")], IsPathName s.2 := by
    decide
  exact ⟨hblank.1, hblank.2, hname, hsteps, (reads_spelled_paths _).2.2.2.1 "\t" " " "serde" _
    hblank.1 hblank.2 hname hsteps rfl, badNameReason ":de", by decide⟩

end CrateBook.ItemPath
