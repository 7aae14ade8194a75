import CrateBook.Proofs.Text.Lines
import CrateBook.Rustdoc.Docs

/-!
# Lines of documentation

Each line of a documentation is cleaned by itself, and empty lines are dropped at the ends
(`lines_clean`). A line without a comment mark only loses blanks at its end, so code examples keep
their lines, but for comments in them: the marks are dropped there as they are everywhere
(`code_lines_survive`).
-/

namespace CrateBook.Rustdoc.Docs

open Text (IsLine)

/-- The line starts or ends fenced code. -/
def isFence (line : String) : Bool := Text.startsWith line "```"

/-- The first characters of the line are a comment mark. -/
def isComment (line : String) : Bool := Text.startsWith (Text.trim line) "//"

/-- The line holds text behind four spaces. -/
def isIndented (line : String) : Bool := Text.startsWith line "    " && !Text.allBlank line

/-- The lines between two fences and the indented ones, where the first line is in fenced code or is
not. A fence that is not ended fences nothing. -/
def codeLinesFrom (fenced : Bool) : List String → List String
  | [] => []
  | line :: lines =>
    if isFence line then codeLinesFrom (!fenced) lines
    else if (fenced && lines.any isFence) || isIndented line then
      line :: codeLinesFrom fenced lines
    else codeLinesFrom fenced lines

/-- The lines of the code examples of a documentation. -/
def codeLines (docs : String) : List String := codeLinesFrom false (Text.lines docs)

variable {line : String} {lines before after ms : List String} {fenced : Bool}

/-! ## One line -/

theorem mem_of_mem_cleanLine {c : Char} (h : c ∈ (cleanLine line).toList) : c ∈ line.toList := by
  have hdrop (s : String) (n : Nat) (h : c ∈ (Text.trimStart (Text.drop s n)).toList) :
      c ∈ s.toList := by
    rw [Text.trimStart, Text.trimStartOf, String.toList_ofList, Text.drop,
      String.toList_ofList] at h
    exact List.mem_of_mem_drop ((List.dropWhile_suffix _).subset h)
  rw [cleanLine] at h
  split at h
  · exact Text.mem_of_mem_trimOf (hdrop _ _ h)
  · split at h
    · exact Text.mem_of_mem_trimOf (hdrop _ _ h)
    · rw [Text.trimEnd, Text.trimEndOf, String.toList_ofList] at h
      exact Text.mem_of_mem_dropEndWhile h

theorem isLine_cleanLine (h : IsLine line) : IsLine (cleanLine line) :=
  fun c hc => h c (mem_of_mem_cleanLine hc)

/-- A line without a comment mark only loses blanks at its end. -/
theorem cleanLine_of_not_isComment (h : isComment line = false) :
    cleanLine line = Text.trimEnd line := by
  have hmark : Text.startsWith (Text.trim line) "///" = false := by
    refine Bool.eq_false_iff.2 fun hslashes => ?_
    rw [isComment, ← Text.append_drop_of_startsWith hslashes] at h
    exact absurd h (by simp [Text.startsWith])
  rw [cleanLine, if_neg (by simp [hmark]), if_neg (by simpa [isComment] using h)]

/-- Without the marks at its start a line has as many characters of a kind less as the marks
have. -/
theorem count_of_startsWith_trim {c : Char} {marks : String} (hc : Text.isBlank c = false)
    (h : Text.startsWith (Text.trim line) marks = true) :
    line.toList.count c = marks.toList.count c +
      (Text.trimStart (Text.drop (Text.trim line) marks.toList.length)).toList.count c := by
  rw [Text.trimStart, Text.count_trimStartOf hc, ← List.count_append, ← String.toList_append,
    Text.append_drop_of_startsWith h, Text.trim, Text.trimOf, Text.count_trimEndOf hc,
    Text.count_trimStartOf hc]

/-- No character is lost but blanks and the slashes of marks. -/
theorem count_cleanLine {c : Char} (hc : Text.isBlank c = false) (hslash : c ≠ '/')
    (line : String) :
    (cleanLine line).toList.count c = line.toList.count c := by
  have hmark : "///".toList.count c = 0 ∧ "//".toList.count c = 0 := by
    simp [Ne.symm hslash]
  rw [cleanLine]
  split
  next h =>
    rw [count_of_startsWith_trim hc h, hmark.1, Nat.zero_add]
    rfl
  next =>
    split
    next h =>
      rw [count_of_startsWith_trim hc h, hmark.2, Nat.zero_add]
      rfl
    next => exact Text.count_trimEndOf hc line

theorem count_slash_cleanLine (h : isComment line = true) :
    (cleanLine line).toList.count '/' < line.toList.count '/' := by
  rw [isComment] at h
  rw [cleanLine]
  split
  next hslashes =>
    rw [count_of_startsWith_trim (by decide) hslashes]
    exact Nat.lt_add_of_pos_left (by decide)
  next =>
    rw [count_of_startsWith_trim (by decide) h]
    exact Nat.lt_add_of_pos_left (by decide)

/-- A line only loses blanks at its end exactly when no comment mark comes first in it. -/
theorem cleanLine_eq_trimEnd_iff : cleanLine line = Text.trimEnd line ↔ isComment line = false := by
  refine ⟨fun h => Bool.eq_false_iff.2 fun hcomment => ?_, cleanLine_of_not_isComment⟩
  have hcount := count_slash_cleanLine hcomment
  rw [h, Text.trimEnd, Text.count_trimEndOf (by decide)] at hcount
  exact Nat.lt_irrefl _ hcount

/-! ## All lines -/

/-- Joined lines that have been trimmed do not end in an end of a line. -/
theorem isLineEnd_getLast?_trimOf {c : Char} (h : ∀ m ∈ ms, IsLine m)
    (hlast : (Text.trimOf (· == '\n') ("\n".intercalate ms)).toList.getLast? = some c) :
    Text.isLineEnd c = false := by
  have hmem : c ∈ ("\n".intercalate ms).toList :=
    Text.mem_of_mem_trimOf (List.mem_of_getLast? hlast)
  rw [Text.trimOf] at hlast
  have hfeed : c ≠ '\n' := by simpa using Text.of_getLast?_trimEndOf hlast
  rcases Text.mem_of_mem_intercalate hmem with hmem | ⟨m, hm, hmem⟩
  · exact absurd (List.mem_singleton.1 hmem) hfeed
  · exact h m hm c hmem

/-- Joined lines without the line feeds at both ends are the lines without the empty ones there. -/
theorem exists_lines_trimOf (h : ∀ m ∈ ms, IsLine m) :
    ∃ a b, ms = List.replicate a "" ++ Text.lines (Text.trimOf (· == '\n') ("\n".intercalate ms)) ++
      List.replicate b "" := by
  by_cases hne : ms = []
  · subst hne
    exact ⟨0, 0, rfl⟩
  -- Lines are read back when one more line feed ends the last of them, which may be empty.
  have hread := Text.lines_intercalate_of_isLine hne h
  have hend (c : Char) := isLineEnd_getLast?_trimOf (c := c) h
  have hfeed {cs : List Char} (h : ∀ c ∈ cs, (c == '\n') = true) :
      ∃ n, cs = List.replicate n '\n' :=
    ⟨_, List.eq_replicate_iff.2 ⟨rfl, fun c hc => by simpa using h c hc⟩⟩
  obtain ⟨before, after, hjoined, hbefore, hafter⟩ :=
    Text.exists_trimOf (· == '\n') ("\n".intercalate ms)
  obtain ⟨a, rfl⟩ := hfeed hbefore
  obtain ⟨b, rfl⟩ := hfeed hafter
  generalize Text.trimOf (· == '\n') ("\n".intercalate ms) = text at hjoined hend ⊢
  have hempty : Text.lines "" = [] := by rfl
  cases hlast : text.toList.getLast? with
  | none =>
    have htext : text = "" := by simpa using hlast
    have hfeeds : "\n".intercalate ms ++ "\n" =
        String.ofList (List.replicate (a + b + 1) '\n') ++ "" := by
      rw [← String.toList_inj, String.toList_append, hjoined, htext]
      simp [List.replicate_append_replicate, ← List.replicate_succ']
    refine ⟨a + b + 1, 0, ?_⟩
    rw [← hread, hfeeds, Text.lines_feeds_append, htext, List.replicate_zero, List.append_nil]
  | some c =>
    have hfeeds : "\n".intercalate ms ++ "\n" = String.ofList (List.replicate a '\n') ++
        (text ++ "\n" ++ (String.ofList (List.replicate b '\n') ++ "")) := by
      have hshift : List.replicate b '\n' ++ ['\n'] = '\n' :: List.replicate b '\n' := by
        rw [← List.replicate_succ', List.replicate_succ]
      rw [← String.toList_inj, String.toList_append, hjoined]
      simp [hshift]
    refine ⟨a, b, ?_⟩
    rw [← hread, hfeeds, Text.lines_feeds_append, Text.lines_append_feed, Text.lines_feeds_append,
      Text.lines_concat_feed hlast (hend c hlast), hempty, List.append_nil, List.append_assoc]

/-- The lines of clean documentation are the clean lines, but for empty ones at both ends. -/
theorem lines_clean (docs : String) : ∃ a b, (Text.lines docs).map cleanLine =
    List.replicate a "" ++ Text.lines (clean docs) ++ List.replicate b "" :=
  exists_lines_trimOf
    (List.forall_mem_map.2 fun _ h => isLine_cleanLine (Text.isLine_of_mem_lines h))

/-! ## Code -/

theorem isFence_eq_false (h : cleanLine line = "") : isFence line = false := by
  refine Bool.eq_false_iff.2 fun hfence => ?_
  have hmark : '\x60' ∈ line.toList := by
    rw [← Text.append_drop_of_startsWith hfence]
    simp
  -- Backticks are kept in every line.
  have hcount := count_cleanLine (c := '\x60') (by decide) (by decide) line
  rw [h] at hcount
  exact (List.count_pos_iff.2 hmark).ne hcount

/-- An indented line of which nothing is left is a comment. -/
theorem isComment_of_isIndented (h : isIndented line = true) (hclean : cleanLine line = "") :
    isComment line = true := by
  by_contra hcomment
  rw [cleanLine_of_not_isComment (by simpa using hcomment), Text.trimEnd, Text.trimEndOf] at hclean
  obtain ⟨dropped, hline, hblank⟩ := Text.dropEndWhile_append_dropped Text.isBlank line.toList
  have hnil : Text.dropEndWhile Text.isBlank line.toList = [] := by simpa using hclean
  have hall : Text.allBlank line = true := by
    rw [Text.allBlank, hline, hnil, List.nil_append]
    exact List.all_eq_true.2 hblank
  simp [isIndented, hall] at h

theorem codeLinesFrom_sublist (fenced : Bool) (lines : List String) :
    (codeLinesFrom fenced lines).Sublist lines := by
  fun_induction codeLinesFrom fenced lines with
  | case1 => exact .slnil
  | case2 _ line lines _ ih => exact ih.cons line
  | case3 _ line lines _ _ ih => exact ih.cons_cons line
  | case4 _ line lines _ _ ih => exact ih.cons line

theorem any_isFence_eq_false (h : ∀ line ∈ lines, cleanLine line = "") :
    lines.any isFence = false :=
  List.any_eq_false.2 fun line hline => by simp [isFence_eq_false (h line hline)]

/-- A line of which nothing is left is no code but a comment, unless it is between fences. -/
theorem filter_codeLinesFrom_cons (hline : cleanLine line = "")
    (hfenced : (fenced && lines.any isFence) = false) :
    (codeLinesFrom fenced (line :: lines)).filter (!isComment ·) =
      (codeLinesFrom fenced lines).filter (!isComment ·) := by
  rw [codeLinesFrom, if_neg (by simp [isFence_eq_false hline]), hfenced, Bool.false_or]
  split
  next hcode => rw [List.filter_cons_of_neg (by simp [isComment_of_isIndented hcode hline])]
  next => rfl

theorem filter_codeLinesFrom_eq_nil (h : ∀ line ∈ lines, cleanLine line = "") (fenced : Bool) :
    (codeLinesFrom fenced lines).filter (!isComment ·) = [] := by
  induction lines with
  | nil => rfl
  | cons line lines ih =>
    obtain ⟨hline, hlines⟩ := List.forall_mem_cons.1 h
    have hfences := any_isFence_eq_false hlines
    rw [filter_codeLinesFrom_cons hline (by rw [hfences, Bool.and_false]), ih hlines]

/-- Empty lines at the start are no code but comments. -/
theorem codeLinesFrom_empty_append (h : ∀ line ∈ before, cleanLine line = "")
    (lines : List String) :
    (codeLinesFrom false (before ++ lines)).filter (!isComment ·) =
      (codeLinesFrom false lines).filter (!isComment ·) := by
  induction before with
  | nil => rfl
  | cons line before ih =>
    obtain ⟨hline, hbefore⟩ := List.forall_mem_cons.1 h
    rw [List.cons_append, filter_codeLinesFrom_cons hline (Bool.false_and _), ih hbefore]

/-- Empty lines at the end are no code but comments, and end no fenced code. -/
theorem codeLinesFrom_append_empty (h : ∀ line ∈ after, cleanLine line = "") (fenced : Bool)
    (lines : List String) :
    (codeLinesFrom fenced (lines ++ after)).filter (!isComment ·) =
      (codeLinesFrom fenced lines).filter (!isComment ·) := by
  induction lines generalizing fenced with
  | nil =>
    rw [List.nil_append, filter_codeLinesFrom_eq_nil h, codeLinesFrom, List.filter_nil]
  | cons line lines ih =>
    -- Whether a fence is ended depends on the lines behind, and the empty ones hold no fence.
    have hany : (lines ++ after).any isFence = lines.any isFence := by
      rw [List.any_append, any_isFence_eq_false h, Bool.or_false]
    rw [List.cons_append, codeLinesFrom, codeLinesFrom, hany]
    split
    · exact ih _
    · split
      · rw [List.filter_cons, List.filter_cons, ih]
      · exact ih _

theorem map_trimEnd_filter (lines : List String) :
    (lines.filter (!isComment ·)).map Text.trimEnd =
      (lines.filter (!isComment ·)).map cleanLine := by
  refine List.map_congr_left fun line hline => ?_
  have hkept := (List.mem_filter.1 hline).2
  exact (cleanLine_of_not_isComment (by simpa using hkept)).symm

/-- The lines of code that are no comments stand in clean documentation, in order and without the
blanks at their ends. -/
theorem map_codeLines_sublist (docs : String) :
    (((codeLines docs).filter (!isComment ·)).map Text.trimEnd).Sublist
      (Text.lines (clean docs)) := by
  obtain ⟨a, b, hlines⟩ := lines_clean docs
  obtain ⟨init, after, hdocs, hinit, hafter⟩ := List.map_eq_append_iff.1 hlines
  obtain ⟨before, kept, rfl, hbefore, hkept⟩ := List.map_eq_append_iff.1 hinit
  have hempty {lines : List String} {n : Nat} (h : lines.map cleanLine = List.replicate n "") :
      ∀ line ∈ lines, cleanLine line = "" := fun line hline =>
    List.eq_of_mem_replicate (h ▸ List.mem_map_of_mem hline)
  rw [codeLines, hdocs, codeLinesFrom_append_empty (hempty hafter),
    codeLinesFrom_empty_append (hempty hbefore), map_trimEnd_filter, ← hkept]
  exact (List.filter_sublist.trans (codeLinesFrom_sublist false kept)).map cleanLine

/-- Each line of a documentation stands in the clean text, in order, but for empty ones at the ends.
Nothing but blanks at its end is lost of a line exactly when no comment mark comes first in it, and
so the lines of code examples are kept that are no comments. -/
theorem code_lines_survive (docs : String) :
    (∃ a b, (Text.lines docs).map cleanLine =
      List.replicate a "" ++ Text.lines (clean docs) ++ List.replicate b "") ∧
    (∀ line ∈ Text.lines docs, cleanLine line = Text.trimEnd line ↔ isComment line = false) ∧
    (((codeLines docs).filter (!isComment ·)).map Text.trimEnd).Sublist (Text.lines (clean docs)) :=
  ⟨lines_clean docs, fun _ _ => cleanLine_eq_trimEnd_iff, map_codeLines_sublist docs⟩

/-- A comment in fenced code loses its mark, and one in indented code its indentation too. -/
theorem comments_in_code_lost :
    codeLines "```\n// note\nlet x = 1;\n```" = ["// note", "let x = 1;"] ∧
      clean "```\n// note\nlet x = 1;\n```" = "```\nnote\nlet x = 1;\n```" ∧
      "// note" ∉ Text.lines "```\nnote\nlet x = 1;\n```" ∧
    codeLines "Example:\n\n    // note\n    let x = 1;" = ["    // note", "    let x = 1;"] ∧
      clean "Example:\n\n    // note\n    let x = 1;" = "Example:\n\nnote\n    let x = 1;" ∧
      "    // note" ∉ Text.lines "Example:\n\nnote\n    let x = 1;" := by
  refine ⟨by decide, by decide, by decide, by decide, by decide, by decide⟩

end CrateBook.Rustdoc.Docs
