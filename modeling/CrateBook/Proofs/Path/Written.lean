import CrateBook.Proofs.Disk.Place

/-!
# Written paths

A path that was read from a text is clean (`clean_ofString`), and a clean path is read back from its
written form (`ofString_toString`). So names that are joined by slashes in a text are the names that
the text adds to a path (`child_intercalate`), and a plain name leads to the place of that name in a
directory (`place_child_name`).
-/

namespace CrateBook

namespace Text

theorem not_mem_of_mem_splitOn {c : Char} {cs piece : List Char} (h : piece ∈ cs.splitOn c) :
    c ∉ piece := by
  induction cs generalizing piece with
  | nil =>
    rw [List.splitOn_nil, List.mem_singleton] at h
    subst h
    simp
  | cons d ds ih =>
    rw [List.splitOn_cons_eq_if_modifyHead] at h
    cases hs : ds.splitOn c with
    | nil => exact absurd hs (List.splitOn_ne_nil c ds)
    | cons first rest =>
      rw [hs] at h ih
      split at h
      · rcases List.mem_cons.1 h with rfl | h
        · simp
        · exact ih h
      · rename_i hd
        rcases List.mem_cons.1 h with rfl | h
        · intro hmem
          rcases List.mem_cons.1 hmem with rfl | hmem
          · simp at hd
          · exact ih List.mem_cons_self hmem
        · exact ih (List.mem_cons_of_mem _ h)

theorem splitOnChar_intercalate {sep : String} {c : Char} {names : List String}
    (hsep : sep.toList = [c]) (h : ∀ n ∈ names, c ∉ n.toList) (hn : names ≠ []) :
    splitOnChar (sep.intercalate names) c = names := by
  have hl : ∀ l ∈ names.map String.toList, c ∉ l := by
    intro l hl
    obtain ⟨n, hn, rfl⟩ := List.mem_map.1 hl
    exact h n hn
  rw [splitOnChar, String.toList_intercalate, hsep,
    List.splitOn_intercalate c hl (by simpa using hn)]
  simp

end Text

namespace Path

variable {p out : Path} {s name : String} {names : List String}

/-- The text is one name of a written path. -/
def IsName (s : String) : Prop := s ≠ "" ∧ s ≠ "." ∧ '/' ∉ s.toList

/-- The text is a name of something inside the directory in which it is looked up. -/
def IsPlain (s : String) : Prop := IsName s ∧ s ≠ ".."

instance : DecidablePred IsName := fun s => inferInstanceAs (Decidable (s ≠ "" ∧ _ ∧ _))

instance : DecidablePred IsPlain := fun s => inferInstanceAs (Decidable (IsName s ∧ _))

/-- A path that a text can spell. -/
structure IsClean (p : Path) : Prop where
  root : p.root = "" ∨ p.root = "/" ∨ p.root = "//"
  parts : ∀ name ∈ p.parts, IsName name

/-! ## Reading and writing -/

theorem clean_ofString (s : String) : IsClean (ofString s) where
  root := by
    rw [ofString]
    dsimp only
    rw [rootOf.eq_def]
    split <;> simp
  parts := by
    intro name h
    simp only [ofString, List.mem_filter, Bool.and_eq_true, bne_iff_ne, Text.splitOnChar,
      List.mem_map] at h
    obtain ⟨⟨cs, hcs, rfl⟩, hne, hdot⟩ := h
    refine ⟨hne, hdot, ?_⟩
    rw [String.toList_ofList]
    exact Text.not_mem_of_mem_splitOn hcs

theorem head?_intercalate (h : ∀ n ∈ names, IsName n) :
    ("/".intercalate names).toList.head? ≠ some '/' := by
  cases names with
  | nil => simp
  | cons n names =>
    obtain ⟨hne, -, hslash⟩ := h n List.mem_cons_self
    rw [Text.head?_intercalate _ _ hne]
    exact fun hhead => hslash (List.mem_of_head? hhead)

theorem rootOf_of_head? {cs : List Char} (h : cs.head? ≠ some '/') : rootOf cs = "" := by
  rw [rootOf.eq_def]
  split <;> simp_all

theorem rootOf_root_append (hp : IsClean p) {cs : List Char} (h : cs.head? ≠ some '/') :
    rootOf (p.root.toList ++ cs) = p.root := by
  rcases hp.root with hr | hr | hr
  · rw [hr]
    exact rootOf_of_head? h
  · rw [hr]
    cases cs with
    | nil => rfl
    | cons c cs =>
      have hc : c ≠ '/' := by simpa using h
      simp [rootOf, hc]
  · rw [hr]
    cases cs with
    | nil => rfl
    | cons c cs =>
      have hc : c ≠ '/' := by simpa using h
      simp [rootOf, hc]

theorem splitOnChar_slash (s : String) :
    Text.splitOnChar ("/" ++ s) '/' = "" :: Text.splitOnChar s '/' := by
  simp [Text.splitOnChar, List.splitOn_cons_eq_if_modifyHead]

theorem parts_ofString_slash (s : String) : (ofString ("/" ++ s)).parts = (ofString s).parts := by
  rw [ofString, ofString, splitOnChar_slash]
  simp

theorem parts_ofString_intercalate (h : ∀ n ∈ names, IsName n) :
    (ofString ("/".intercalate names)).parts = names := by
  cases hn : names with
  | nil => rfl
  | cons n ns =>
    rw [← hn, ofString,
      Text.splitOnChar_intercalate rfl (fun m hm => (h m hm).2.2) (by simp [hn])]
    refine List.filter_eq_self.2 fun m hm => ?_
    simp [(h m hm).1, (h m hm).2.1]

/-- Names joined by slashes spell the path of these names. -/
theorem ofString_intercalate (h : ∀ n ∈ names, IsName n) :
    ofString ("/".intercalate names) = ⟨"", names⟩ := by
  have hroot : (ofString ("/".intercalate names)).root = "" := rootOf_of_head? (head?_intercalate h)
  calc ofString ("/".intercalate names)
      = ⟨(ofString ("/".intercalate names)).root, (ofString ("/".intercalate names)).parts⟩ := rfl
    _ = ⟨"", names⟩ := by rw [hroot, parts_ofString_intercalate h]

theorem ofString_name (h : IsName s) : ofString s = ⟨"", [s]⟩ := by
  have hnames : ∀ n ∈ [s], IsName n := by simpa using h
  have hs := ofString_intercalate hnames
  simpa using hs

/-- A clean path is read back from its written form. -/
theorem ofString_toString (hp : IsClean p) (hne : p.parts ≠ []) : ofString p.toString = p := by
  have htext : p.toString = p.root ++ "/".intercalate p.parts := by
    rw [toString, if_neg]
    simp [hne]
  have hroot : (ofString p.toString).root = p.root := by
    change rootOf p.toString.toList = p.root
    rw [htext, String.toList_append]
    exact rootOf_root_append hp (head?_intercalate hp.parts)
  have hparts : (ofString p.toString).parts = p.parts := by
    have h := parts_ofString_intercalate hp.parts
    rw [htext]
    rcases hp.root with hr | hr | hr <;> rw [hr]
    · simpa using h
    · rw [parts_ofString_slash, h]
    · rw [show "//" ++ "/".intercalate p.parts = "/" ++ ("/" ++ "/".intercalate p.parts) from by
          rw [← String.append_assoc]; rfl,
        parts_ofString_slash, parts_ofString_slash, h]
  calc ofString p.toString
      = ⟨(ofString p.toString).root, (ofString p.toString).parts⟩ := rfl
    _ = p := by rw [hroot, hparts]

/-! ## Places inside a directory -/

theorem name_eq_getLast {init : List String} {last : String} (h : p.parts = init ++ [last]) :
    p.name = last := by
  simp [Path.name, h]

theorem child_intercalate (h : ∀ n ∈ names, IsName n) :
    out.child ("/".intercalate names) = ⟨out.root, out.parts ++ names⟩ := by
  rw [child, ofString_intercalate h, join]
  rfl

theorem child_name (h : IsName s) : out.child s = ⟨out.root, out.parts ++ [s]⟩ := by
  rw [child, ofString_name h, join]
  rfl

/-! ## Null characters -/

theorem hasNull_eq_true : p.hasNull = true ↔ ∃ name ∈ p.parts, '\x00' ∈ name.toList := by
  simp [hasNull]

/-- A null character in the path of what is inside a directory stands in the path of the directory
or in the text that leads on from there. -/
theorem hasNull_child (h : (out.child s).hasNull = true) :
    out.hasNull = true ∨ (ofString s).hasNull = true := by
  rw [child, join] at h
  split at h
  · exact .inr h
  · rwa [hasNull, List.any_append, Bool.or_eq_true] at h

theorem hasNull_child_of_ofString (h : (ofString s).hasNull = true) :
    (out.child s).hasNull = true := by
  rw [child, join]
  split
  · exact h
  · rw [hasNull, List.any_append, Bool.or_eq_true]
    exact .inr h

theorem not_hasNull_of_name (hname : IsName s) (h : '\x00' ∉ s.toList) :
    (ofString s).hasNull = false := by
  rw [ofString_name hname]
  simpa [hasNull] using h

theorem step_plain (place : List String) (h : s ≠ "..") : Disk.step place s = place ++ [s] := by
  rw [Disk.step, if_pos]
  simpa using h

theorem foldl_step_plain (place : List String) (h : ∀ n ∈ names, n ≠ "..") :
    names.foldl Disk.step place = place ++ names := by
  induction names generalizing place with
  | nil => simp
  | cons n names ih =>
    rw [List.foldl_cons, step_plain place (h n List.mem_cons_self),
      ih _ fun m hm => h m (List.mem_cons_of_mem _ hm)]
    simp

/-- Plain names lead to their place below that of the directory. -/
theorem place_append (h : ∀ n ∈ names, n ≠ "..") :
    place ⟨out.root, out.parts ++ names⟩ = out.place ++ names := by
  rw [place, List.foldl_append]
  exact foldl_step_plain _ h

theorem place_of_parts {init : List String} (h : p.parts = init ++ [name]) (hname : name ≠ "..") :
    p.place = place ⟨p.root, init⟩ ++ [name] := by
  rw [place, h, List.foldl_append, List.foldl_cons, List.foldl_nil, step_plain _ hname]
  rfl

theorem place_child_name (h : IsPlain s) : (out.child s).place = out.place ++ [s] := by
  rw [child_name h.1]
  exact place_append (by simpa using h.2)

/-- What is written into a directory does not lead through a name of it that the written path does
not go through. -/
theorem place_not_mem_visited (hname : IsPlain name)
    (hout : (out.child name).place ∉ Disk.visited (Disk.start out) out.parts)
    (hs : name ∉ (ofString s).parts.dropLast) :
    (out.child name).place ∉
      Disk.visited (Disk.start (out.child s)) (out.child s).parent.parts := by
  rw [place_child_name hname] at hout ⊢
  rw [child, join, parent]
  split
  · -- An absolute path starts at the root, which has no name of that kind.
    intro hmem
    rcases Disk.mem_of_mem_visited hmem with h | h
    · exact hs h
    · rw [Disk.start] at h
      split at h
      · simpa using h.length_le
      · have hslash : name = "/" := by
          have hmem := h.subset (List.mem_append_right _ (List.mem_singleton_self name))
          exact List.mem_singleton.1 hmem
        rw [hslash] at hname
        exact absurd hname (by decide)
  · dsimp only
    change out.place ++ [name] ∉ Disk.visited (Disk.start out) _
    by_cases hparts : (ofString s).parts = []
    · rw [hparts, List.append_nil]
      intro hmem
      obtain ⟨rest, hrest⟩ := out.parts.dropLast_prefix
      rw [← hrest, Disk.visited_append] at hout
      exact hout (List.mem_append_left _ hmem)
    · rw [List.dropLast_append_of_ne_nil hparts, Disk.visited_append, List.mem_append, not_or]
      refine ⟨hout, fun hmem => ?_⟩
      rcases Disk.mem_of_mem_visited hmem with h | h
      · exact hs h
      · have hlen : (out.place ++ [name]).length ≤ out.place.length := h.length_le
        simp at hlen

end Path

end CrateBook
