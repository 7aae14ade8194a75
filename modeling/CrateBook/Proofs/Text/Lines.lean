import CrateBook.Proofs.Text.Joining
import CrateBook.Proofs.Text.Ordinary
import CrateBook.Proofs.Text.Trimming
import CrateBook.Text.Lines

/-!
# Lines of texts

A line feed cuts a text: what stands before it and what stands after it are cut into lines each for
itself (`lines_append_feed`). So parts that are joined by line feeds keep the lines they have
(`lines_intercalate`), and lines that are joined are read back (`lines_intercalate_of_isLine`).
-/

namespace CrateBook.Text

/-- Nothing in the text ends a line. -/
def IsLine (s : String) : Prop := ∀ c ∈ s.toList, isLineEnd c = false

instance (s : String) : Decidable (IsLine s) :=
  decidable_of_iff (s.toList.all (!isLineEnd ·) = true) (by simp [IsLine])

variable {s t m : String} {cs ds : List Char} {c : Char}

theorem lineRuns_feed (ds : List Char) : lineRuns ('\n' :: ds) = [] :: lineRuns ds := by
  rw [lineRuns.eq_3 _ _ (by rintro _ h; cases h)]
  rfl

theorem lineRuns_cons_of_not_isLineEnd (h : isLineEnd c = false) (cs : List Char) :
    lineRuns (c :: cs) = match lineRuns cs with
      | [] => [[c]]
      | l :: ls => (c :: l) :: ls := by
  rw [lineRuns.eq_3 _ _ (by rintro _ rfl; cases h)]
  exact if_neg (by simp [h])

theorem lineRuns_append_feed_ne_nil (cs ds : List Char) : lineRuns (cs ++ '\n' :: ds) ≠ [] := by
  intro h
  rw [lineRuns.eq_def] at h
  split at h
  · simp_all
  · cases h
  · split at h
    · cases h
    · split at h <;> cases h

/-- A line feed cuts a text. -/
theorem lineRuns_append_feed (cs ds : List Char) :
    lineRuns (cs ++ '\n' :: ds) = lineRuns (cs ++ ['\n']) ++ lineRuns ds := by
  fun_induction lineRuns cs with
  | case1 => rw [List.nil_append, lineRuns_feed]; rfl
  | case2 cs ih => exact congrArg (List.cons []) ih
  | case3 c cs hreturn hend ih =>
    -- A carriage return at the very end makes one line end with the line feed.
    cases cs with
    | nil =>
      by_cases hc : c = '\r'
      · subst hc
        rfl
      · rw [List.singleton_append, List.singleton_append,
          lineRuns.eq_3 _ _ fun _ h => absurd h hc, lineRuns.eq_3 _ _ fun _ h => absurd h hc,
          if_pos hend, if_pos hend, lineRuns_feed]
        rfl
    | cons d cs =>
      have hne (es : List Char) : ∀ fs, c = '\r' → d :: (cs ++ es) = '\n' :: fs → False := by
        rintro fs hc h
        obtain ⟨rfl, -⟩ := List.cons.inj h
        exact hreturn _ hc rfl
      simp only [List.cons_append] at ih ⊢
      rw [lineRuns.eq_3 _ _ (hne _), lineRuns.eq_3 _ _ (hne _), if_pos hend, if_pos hend, ih]
      rfl
  | case4 c cs _ hend hnil ih | case5 c cs _ hend _ _ hcons ih =>
    have hline : isLineEnd c = false := by simpa using hend
    rw [List.cons_append, List.cons_append, lineRuns_cons_of_not_isLineEnd hline,
      lineRuns_cons_of_not_isLineEnd hline, ih]
    cases h : lineRuns (cs ++ ['\n']) with
    | nil => exact absurd h (lineRuns_append_feed_ne_nil cs [])
    | cons l ls => rfl

theorem lines_append_feed (s t : String) :
    lines (s ++ "\n" ++ t) = lines (s ++ "\n") ++ lines t := by
  have h : (s ++ "\n" ++ t).toList = s.toList ++ '\n' :: t.toList := by simp
  rw [lines, h, lineRuns_append_feed, List.map_append, lines, lines, String.toList_append]
  rfl

/-- A text that ends in a line feed and a text after it are cut into lines each for itself. -/
theorem lines_append_of_getLast (h : s.toList.getLast? = some '\n') (t : String) :
    lines (s ++ t) = lines s ++ lines t := by
  obtain ⟨cs, hcs⟩ := List.getLast?_eq_some_iff.1 h
  obtain rfl : s = String.ofList cs ++ "\n" := by
    rw [← String.toList_inj, hcs]
    simp
  exact lines_append_feed _ t

theorem lineRuns_of_isLine (h : ∀ c ∈ cs, isLineEnd c = false) :
    lineRuns (cs ++ ['\n']) = [cs] := by
  induction cs with
  | nil => exact lineRuns_feed []
  | cons c cs ih =>
    obtain ⟨hc, hcs⟩ := List.forall_mem_cons.1 h
    rw [List.cons_append, lineRuns_cons_of_not_isLineEnd hc, ih hcs]

theorem IsLine.lines (h : IsLine s) : lines (s ++ "\n") = [s] := by
  have hs : (s ++ "\n").toList = s.toList ++ ['\n'] := by simp
  rw [Text.lines, hs, lineRuns_of_isLine h, List.map_singleton, String.ofList_toList]

/-- Parts that are joined by line feeds keep their lines. -/
theorem lines_intercalate {parts : List String} (h : parts ≠ []) :
    lines ("\n".intercalate parts ++ "\n") = parts.flatMap fun m => lines (m ++ "\n") := by
  induction parts with
  | nil => exact absurd rfl h
  | cons m parts ih =>
    cases parts with
    | nil => simp
    | cons m' parts =>
      rw [String.intercalate_cons_of_ne_nil (by simp), String.append_assoc, lines_append_feed,
        ih (by simp)]
      rfl

/-- Lines that are joined are read back. -/
theorem lines_intercalate_of_isLine {ms : List String} (h : ms ≠ []) (hms : ∀ m ∈ ms, IsLine m) :
    lines ("\n".intercalate ms ++ "\n") = ms := by
  rw [lines_intercalate h, List.flatMap_congr fun m hm => (hms m hm).lines]
  simp

theorem append_feeds (s : String) : s ++ "\n\n" = s ++ "\n" ++ "\n" := by
  rw [String.append_assoc]
  rfl

/-- Lines that are joined and ended by a blank line are read back with an empty line behind them. -/
theorem lines_intercalate_append_feeds {ms : List String} (h : ms ≠ []) (hms : ∀ m ∈ ms, IsLine m) :
    lines ("\n".intercalate ms ++ "\n\n") = ms ++ [""] := by
  rw [append_feeds, lines_append_feed, lines_intercalate_of_isLine h hms]
  rfl

/-- Line feeds before a text are empty lines. -/
theorem lines_feeds_append (n : Nat) (s : String) :
    lines (String.ofList (List.replicate n '\n') ++ s) = List.replicate n "" ++ lines s := by
  rw [lines, lines, String.toList_append, String.toList_ofList]
  induction n with
  | zero => rfl
  | succ n ih =>
    rw [List.replicate_succ, List.cons_append, lineRuns_feed, List.map_cons, ih,
      List.replicate_succ, List.cons_append]

/-- A line feed behind a line that has not ended ends it. -/
theorem lineRuns_concat_feed (h : cs.getLast? = some c) (hc : isLineEnd c = false) :
    lineRuns (cs ++ ['\n']) = lineRuns cs := by
  have hlast {d : Char} {ds : List Char} (h : (d :: ds).getLast? = some c)
      (hd : isLineEnd d = true) : ds.getLast? = some c := by
    cases ds with
    | nil =>
      have hdc : d = c := by simpa using h
      rw [hdc, hc] at hd
      cases hd
    | cons e es => simpa [List.getLast?_cons] using h
  fun_induction lineRuns cs with
  | case1 => cases h
  | case2 cs ih => exact congrArg (List.cons []) (ih (hlast (hlast h (by decide)) (by decide)))
  | case3 d cs hreturn hend ih =>
    have hcs := hlast h hend
    have hne : ∀ es, d = '\r' → cs ++ ['\n'] = '\n' :: es → False := by
      rintro es hd he
      cases cs with
      | nil => cases hcs
      | cons e cs =>
        obtain ⟨rfl, -⟩ := List.cons.inj he
        exact hreturn _ hd rfl
    rw [List.cons_append, lineRuns.eq_3 _ _ hne, if_pos hend, ih hcs]
  | case4 d cs _ hend hnil ih =>
    have hline : isLineEnd d = false := by simpa using hend
    rw [List.cons_append, lineRuns_cons_of_not_isLineEnd hline]
    cases cs with
    | nil => rfl
    | cons e cs => rw [ih (by simpa [List.getLast?_cons] using h), hnil]
  | case5 d cs _ hend l ls hcons ih =>
    have hline : isLineEnd d = false := by simpa using hend
    rw [List.cons_append, lineRuns_cons_of_not_isLineEnd hline]
    cases cs with
    | nil => cases hcons
    | cons e cs => rw [ih (by simpa [List.getLast?_cons] using h), hcons]

theorem lines_concat_feed (h : s.toList.getLast? = some c) (hc : isLineEnd c = false) :
    lines (s ++ "\n") = lines s := by
  have hs : (s ++ "\n").toList = s.toList ++ ['\n'] := by simp
  rw [lines, hs, lineRuns_concat_feed h hc, lines]

theorem isLine_of_mem_lineRuns {l : List Char} (h : l ∈ lineRuns cs) :
    ∀ c ∈ l, isLineEnd c = false := by
  fun_induction lineRuns cs generalizing l with
  | case1 => cases h
  | case2 cs ih | case3 c cs _ _ ih =>
    rcases List.mem_cons.1 h with rfl | h
    · simp
    · exact ih h
  | case4 c cs _ hend _ ih =>
    rw [List.mem_singleton.1 h]
    simpa using hend
  | case5 c cs _ hend l' ls hcons ih =>
    rcases List.mem_cons.1 h with rfl | h
    · exact List.forall_mem_cons.2 ⟨by simpa using hend, ih (hcons ▸ List.mem_cons_self)⟩
    · exact ih (hcons ▸ List.mem_cons_of_mem _ h)

theorem isLine_of_mem_lines (h : m ∈ lines s) : IsLine m := by
  obtain ⟨l, hl, rfl⟩ := List.mem_map.1 h
  intro c hc
  rw [String.toList_ofList] at hc
  exact isLine_of_mem_lineRuns hl c hc

theorem IsLine.append (hs : IsLine s) (ht : IsLine t) : IsLine (s ++ t) := by
  intro c hc
  rw [String.toList_append] at hc
  exact (List.mem_append.1 hc).elim (hs c) (ht c)

theorem IsLine.drop (h : IsLine s) (n : Nat) : IsLine (drop s n) := by
  intro c hc
  rw [Text.drop, String.toList_ofList] at hc
  exact h c (List.mem_of_mem_drop hc)

theorem isLineEnd_of_isBlank (h : isBlank c = false) : isLineEnd c = false := by
  simp only [isBlank, isLineEnd, Bool.or_eq_false_iff, Bool.and_eq_false_iff,
    decide_eq_false_iff_not, beq_eq_false_iff_ne] at h ⊢
  omega

theorem isLine_squeeze (s : String) : IsLine (squeeze s) := by
  intro c hc
  rcases mem_squeeze hc with rfl | hc
  · decide
  · exact isLineEnd_of_isBlank hc

/-! ## Starts of lines -/

theorem startsWith_append (p s : String) : startsWith (p ++ s) p = true := by
  rw [startsWith, String.toList_append, List.isPrefixOf_iff_prefix]
  exact List.prefix_append _ _

theorem drop_append (p s : String) : drop (p ++ s) p.toList.length = s := by
  rw [drop, String.toList_append, List.drop_left, String.ofList_toList]

theorem append_drop_of_startsWith {p : String} (h : startsWith s p = true) :
    p ++ drop s p.toList.length = s := by
  obtain ⟨rest, hrest⟩ := List.isPrefixOf_iff_prefix.1 h
  rw [← String.toList_inj, String.toList_append, drop, String.toList_ofList, ← hrest,
    List.drop_left]

theorem after?_eq_none {p : String} (h : startsWith s p = false) :
    after? p.toList s.toList = none := by
  cases hafter : after? p.toList s.toList with
  | none => rfl
  | some rest =>
    have hs : s = p ++ String.ofList rest := by
      rw [← String.toList_inj, String.toList_append, String.toList_ofList]
      exact eq_append_of_after? hafter
    rw [hs, startsWith_append] at h
    cases h

/-- A text that starts with one mark does not start with another one. -/
theorem startsWith_append_eq_false {p q : String} {c d : Char} {cs ds : List Char}
    (hp : p.toList = c :: cs) (hq : q.toList = d :: ds) (hne : d ≠ c) (s : String) :
    startsWith (p ++ s) q = false := by
  rw [startsWith, String.toList_append, hp, hq, List.cons_append, List.isPrefixOf,
    beq_eq_false_iff_ne.2 hne, Bool.false_and]

theorem startsWith_eq_false_of_allBlank {p : String} {cs : List Char} (hs : allBlank s = true)
    (hp : p.toList = c :: cs) (hc : isBlank c = false) : startsWith s p = false := by
  rw [startsWith, hp]
  cases h : s.toList with
  | nil => rfl
  | cons d ds =>
    have hd : isBlank d = true := List.all_eq_true.1 hs d (h ▸ List.mem_cons_self)
    have hne : c ≠ d := by
      rintro rfl
      rw [hc] at hd
      cases hd
    rw [List.isPrefixOf, beq_eq_false_iff_ne.2 hne, Bool.false_and]

/-! ## Ends of lines -/

/-- The text ends in a character that is not blank. -/
def EndsSolid (s : String) : Prop := ∃ c, s.toList.getLast? = some c ∧ isBlank c = false

theorem EndsSolid.ne_empty (h : EndsSolid s) : s ≠ "" := by
  rintro rfl
  obtain ⟨c, hc, -⟩ := h
  cases hc

theorem EndsSolid.append (h : EndsSolid t) (s : String) : EndsSolid (s ++ t) := by
  obtain ⟨c, hc, hblank⟩ := h
  refine ⟨c, ?_, hblank⟩
  rw [String.toList_append, List.getLast?_append, hc]
  rfl

/-- Blanks behind a joined text are trimmed when the last part ends in no blank. -/
theorem trimEnd_intercalate {init : List String} {last : String} (h : EndsSolid last)
    (ht : allBlank t = true) :
    trimEnd ("\n".intercalate (init ++ [last]) ++ t) = "\n".intercalate (init ++ [last]) := by
  refine trimEnd_append ht fun c hc => ?_
  rw [getLast?_intercalate h.ne_empty] at hc
  obtain ⟨c', hc', hblank⟩ := h
  rw [hc] at hc'
  exact Option.some.inj hc' ▸ hblank

end CrateBook.Text
