import Mathlib
import CrateBook.Proofs.Text.Joining
import CrateBook.Proofs.Text.Trimming
import CrateBook.Text.Lines
import CrateBook.Text.Pieces

/-!
# Ordinary characters

Whatever is done to a text on its way to a page touches only blanks, digits and the marks of
Markdown. `ordinary` is what is left of a text without them. Squeezing, trimming, cutting into lines
and joining keep it (`ordinary_squeeze`, `ordinary_trim`, `flatMap_ordinary_lines`,
`ordinary_intercalate`), and so does replacing what is not ordinary by what is not
(`ordinary_replace`).
-/

namespace CrateBook.Text

/-- The character may be added or dropped when a page is written: it is a blank, a digit or a mark
of Markdown. -/
def isMark (c : Char) : Bool :=
  isBlank c || c.isDigit || ['#', '*', '_', '`', '-', '>', '|', '\\', '.', ':'].contains c

/-- The characters of a text that are no marks, in order. -/
def ordinary (s : String) : List Char := s.toList.filter (!isMark ·)

variable {s t sep : String} {cs ds p q : List Char} {c : Char}

theorem isMark_of_isBlank (h : isBlank c = true) : isMark c = true := by simp [isMark, h]

theorem isMark_of_isDigit (h : c.isDigit = true) : isMark c = true := by simp [isMark, h]

theorem ordinary_eq_nil (h : ∀ c ∈ s.toList, isMark c = true) : ordinary s = [] := by
  rw [ordinary, List.filter_eq_nil_iff]
  intro c hc
  simp [h c hc]

@[simp]
theorem ordinary_empty : ordinary "" = [] := ordinary_eq_nil (by simp)

@[simp]
theorem ordinary_append (s t : String) : ordinary (s ++ t) = ordinary s ++ ordinary t := by
  rw [ordinary, String.toList_append, List.filter_append]
  rfl

theorem ordinary_ofList (cs : List Char) : ordinary (String.ofList cs) = cs.filter (!isMark ·) := by
  rw [ordinary, String.toList_ofList]

theorem ordinary_of_allBlank (h : allBlank s = true) : ordinary s = [] :=
  ordinary_eq_nil fun c hc => isMark_of_isBlank (List.all_eq_true.1 h c hc)

theorem ordinary_toString (n : Nat) : ordinary (toString n) = [] :=
  ordinary_eq_nil fun _ hc => isMark_of_isDigit (isDigit_of_mem_toString hc)

/-- Joining adds no ordinary characters but those of the separator. -/
theorem ordinary_intercalate (hsep : ordinary sep = []) (l : List String) :
    ordinary (sep.intercalate l) = l.flatMap ordinary := by
  induction l with
  | nil => rfl
  | cons s l ih =>
    cases l with
    | nil => simp
    | cons t l =>
      rw [String.intercalate_cons_of_ne_nil (by simp), ordinary_append, ordinary_append, hsep, ih,
        List.append_nil]
      rfl

theorem filter_flatten_map_ofList (l : List (List Char)) :
    (l.map String.ofList).flatMap ordinary = l.flatten.filter (!isMark ·) := by
  induction l with
  | nil => rfl
  | cons cs l ih =>
    rw [List.map_cons, List.flatMap_cons, ih, ordinary_ofList, List.flatten_cons,
      List.filter_append]

/-! ## Words and lines -/

theorem flatten_splitOnP (p : Char → Bool) (cs : List Char) :
    (cs.splitOnP p).flatten = cs.filter (!p ·) := by
  induction cs with
  | nil => rfl
  | cons c cs ih =>
    rw [List.splitOnP_cons_eq_if_modifyHead]
    by_cases hc : p c = true
    · simp [hc, ih]
    · rw [if_neg hc, List.filter_cons_of_pos (by simpa using hc), ← ih]
      cases h : cs.splitOnP p with
      | nil => exact absurd h (List.splitOnP_ne_nil p cs)
      | cons first rest => rfl

theorem flatten_filter_isEmpty (l : List (List Char)) :
    (l.filter (!·.isEmpty)).flatten = l.flatten := by
  induction l with
  | nil => rfl
  | cons cs l ih => cases cs <;> simp [ih]

/-- The words of a text are all of it but its blanks. -/
theorem flatten_wordRuns (cs : List Char) : (wordRuns cs).flatten = cs.filter (!isBlank ·) := by
  rw [wordRuns, flatten_filter_isEmpty, flatten_splitOnP]

/-- On one squeezed line the only blanks are spaces. -/
theorem mem_squeeze (h : c ∈ (squeeze s).toList) : c = ' ' ∨ isBlank c = false := by
  rcases mem_of_mem_intercalate h with hc | ⟨part, hpart, hc⟩
  · exact .inl (List.mem_singleton.1 hc)
  · obtain ⟨word, hword, rfl⟩ := List.mem_map.1 hpart
    rw [String.toList_ofList] at hc
    have hkept : c ∈ (wordRuns s.toList).flatten := List.mem_flatten.2 ⟨word, hword, hc⟩
    rw [flatten_wordRuns, List.mem_filter] at hkept
    exact .inr (by simpa using hkept.2)

theorem filter_isMark_filter_isBlank (cs : List Char) :
    (cs.filter (!isBlank ·)).filter (!isMark ·) = cs.filter (!isMark ·) := by
  rw [List.filter_filter]
  refine List.filter_congr fun c _ => ?_
  cases hc : isBlank c <;> simp [isMark, hc]

theorem flatMap_ordinary_words (s : String) : (words s).flatMap ordinary = ordinary s := by
  rw [words, filter_flatten_map_ofList, flatten_wordRuns, filter_isMark_filter_isBlank]
  rfl

@[simp]
theorem ordinary_squeeze (s : String) : ordinary (squeeze s) = ordinary s := by
  rw [squeeze, ordinary_intercalate (by decide), flatMap_ordinary_words]

theorem isBlank_of_isLineEnd (h : isLineEnd c = true) : isBlank c = true := by
  simp only [isLineEnd, isBlank, Bool.or_eq_true, Bool.and_eq_true, decide_eq_true_eq,
    beq_iff_eq] at h ⊢
  omega

/-- The lines of a text are all of it but its line ends. -/
theorem filter_flatten_lineRuns (cs : List Char) :
    (lineRuns cs).flatten.filter (!isMark ·) = cs.filter (!isMark ·) := by
  induction cs using lineRuns.induct with
  | case1 => rfl
  | case2 cs ih =>
    rw [lineRuns, List.flatten_cons, List.nil_append, ih]
    rfl
  | case3 c cs hr hend ih =>
    rw [lineRuns, if_pos hend, List.flatten_cons, List.nil_append, ih, List.filter_cons_of_neg]
    · simp [isMark_of_isBlank (isBlank_of_isLineEnd hend)]
    · exact hr
  | case4 c cs hr hend hl ih =>
    rw [hl] at ih
    rw [lineRuns, if_neg hend, hl, List.filter_cons, ← ih]
    · simp [List.filter_cons]
    · exact hr
  | case5 c cs hr hend l ls hl ih =>
    rw [hl] at ih
    rw [lineRuns, if_neg hend, hl, List.filter_cons, ← ih]
    · simp [List.filter_cons]
    · exact hr

theorem flatMap_ordinary_lines (s : String) : (lines s).flatMap ordinary = ordinary s := by
  rw [lines, filter_flatten_map_ofList, filter_flatten_lineRuns]
  rfl

/-! ## Trimming -/

theorem filter_dropWhile {b : Char → Bool} (h : ∀ c, b c = true → isMark c = true)
    (cs : List Char) : (cs.dropWhile b).filter (!isMark ·) = cs.filter (!isMark ·) := by
  induction cs with
  | nil => rfl
  | cons c cs ih =>
    by_cases hc : b c = true
    · rw [List.dropWhile_cons_of_pos hc, ih, List.filter_cons_of_neg (by simp [h c hc])]
    · rw [List.dropWhile_cons_of_neg hc]

theorem filter_dropEndWhile {b : Char → Bool} (h : ∀ c, b c = true → isMark c = true)
    (cs : List Char) : (dropEndWhile b cs).filter (!isMark ·) = cs.filter (!isMark ·) := by
  rw [dropEndWhile, List.filter_reverse, filter_dropWhile h, ← List.filter_reverse,
    List.reverse_reverse]

@[simp]
theorem ordinary_trim (s : String) : ordinary (trim s) = ordinary s := by
  rw [trim, trimOf, trimEndOf, ordinary_ofList, trimStartOf, String.toList_ofList,
    filter_dropEndWhile fun c => isMark_of_isBlank, filter_dropWhile fun c => isMark_of_isBlank]
  rfl

/-! ## Replacing -/

theorem eq_append_of_after? {r : List Char} (h : after? p cs = some r) : cs = p ++ r := by
  induction p generalizing cs with
  | nil => exact Option.some.inj h
  | cons a p ih =>
    cases cs with
    | nil => cases h
    | cons c cs =>
      rw [after?] at h
      split at h
      · rename_i hc
        rw [ih h, hc]
        rfl
      · cases h

theorem replaceRuns_drop (p q : List Char) (n : Nat) (cs : List Char) :
    replaceRuns p q n cs = replaceRuns p q 0 (cs.drop n) := by
  induction cs generalizing n with
  | nil => rw [List.drop_nil]; rfl
  | cons c cs ih =>
    cases n with
    | zero => rfl
    | succ n => rw [replaceRuns, List.drop_succ_cons, ih]

/-- Replacing marks by marks keeps what is ordinary. -/
theorem filter_replaceRuns {a : Char} (hp : ∀ c ∈ a :: p, isMark c = true)
    (hq : ∀ c ∈ q, isMark c = true) (cs : List Char) :
    (replaceRuns (a :: p) q 0 cs).filter (!isMark ·) = cs.filter (!isMark ·) := by
  have hnil {l : List Char} (h : ∀ c ∈ l, isMark c = true) : l.filter (!isMark ·) = [] :=
    List.filter_eq_nil_iff.2 fun c hc => by simp [h c hc]
  induction hn : cs.length using Nat.strong_induction_on generalizing cs with
  | _ n ih =>
    subst hn
    cases cs with
    | nil => rfl
    | cons c cs =>
      rw [replaceRuns]
      cases ha : after? (a :: p) (c :: cs) with
      | none =>
        rw [Option.isSome_none, if_neg Bool.false_ne_true, List.filter_cons, List.filter_cons,
          ih cs.length (by simp) cs rfl]
      | some r =>
        obtain ⟨rfl, hcs⟩ : c = a ∧ cs = p ++ r := List.cons.inj (eq_append_of_after? ha)
        rw [Option.isSome_some, if_pos rfl, replaceRuns_drop, List.filter_append, hnil hq,
          List.nil_append, ih _ (by simp) _ rfl, hcs]
        have hdrop : (p ++ r).drop ((c :: p).length - 1) = r := by simp
        have hc : isMark c = true := hp c List.mem_cons_self
        rw [hdrop, List.filter_cons_of_neg (by simp [hc]), List.filter_append,
          hnil fun c hc => hp c (List.mem_cons_of_mem _ hc), List.nil_append]

theorem ordinary_replace {a : Char} {p q : String} (ha : p.toList = a :: cs)
    (hp : ∀ c ∈ p.toList, isMark c = true) (hq : ∀ c ∈ q.toList, isMark c = true) (s : String) :
    ordinary (replace s p q) = ordinary s := by
  rw [ha] at hp
  rw [replace, ordinary_ofList, ha, filter_replaceRuns hp hq]
  rfl

/-- A character is replaced by another one wherever it stands. -/
theorem replaceRuns_singleton (a b : Char) (cs : List Char) :
    replaceRuns [a] [b] 0 cs = cs.map fun c => if c = a then b else c := by
  induction cs with
  | nil => rfl
  | cons c cs ih =>
    rw [List.map_cons, ← ih, replaceRuns, after?]
    by_cases hc : c = a
    · simp [hc, after?]
    · simp [hc, Ne.symm hc]

end CrateBook.Text
