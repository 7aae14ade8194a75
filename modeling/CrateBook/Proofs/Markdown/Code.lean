import CrateBook.Markdown.Basic
import CrateBook.Proofs.Markdown.Lines
import CrateBook.Proofs.Text.Trimming
import CrateBook.Proofs.Text.Words

/-!
# Marks of code

A code span opens with a run of backticks and closes with the next run of the same length, no matter
what runs of other lengths stand between (`isSpan_iff`). Fenced code opens with a line of three
backticks and closes with the next line that holds nothing but three or more. So both read back what
was put between their marks exactly when no run and no line in it closes them before
(`isSpan_inlineCode_iff`, `fencedCode?_codeBlock_iff`).
-/

namespace CrateBook.Markdown

/-- A backtick. -/
def tick : Char := '\x60'

/-- So many backticks. -/
def ticks (n : Nat) : List Char := List.replicate n tick

/-- The lengths of the runs of backticks around the other characters, zero where none stand. So many
backticks stand before the text. -/
def runsFrom (run : Nat) : List Char → List Nat
  | [] => [run]
  | c :: cs => if c = tick then runsFrom (run + 1) cs else run :: runsFrom 0 cs

/-- The lengths of the runs of backticks in a text. -/
def runs (s : String) : List Nat := runsFrom 0 s.toList

/-- The text up to the next run of exactly `n` backticks, and the text behind that run. The first
run starts with the backticks that stand before the text. -/
def closeSpan (n run : Nat) : List Char → Option (List Char × List Char)
  | [] => if run = n then some ([], []) else none
  | c :: cs =>
    if c = tick then closeSpan n (run + 1) cs
    else if run = n then some ([], c :: cs)
    else (closeSpan n 0 cs).map fun (code, rest) => (ticks run ++ c :: code, rest)

/-- The code of the span at the start of a text, and the text behind the span. -/
def codeSpan? (cs : List Char) : Option (List Char × List Char) :=
  let n := (cs.takeWhile (· == tick)).length
  if n = 0 then none else closeSpan n 0 (cs.dropWhile (· == tick))

/-- The text is one code span, with this code between its marks. -/
def IsSpan (s code : String) : Prop := codeSpan? s.toList = some (code.toList, [])

instance (s code : String) : Decidable (IsSpan s code) :=
  inferInstanceAs (Decidable (_ = _))

/-- Between runs of `n` backticks the code neither widens nor closes the marks. -/
structure Fits (n : Nat) (code : List Char) : Prop where
  ne : code ≠ []
  first : code.head? ≠ some tick
  last : code.getLast? ≠ some tick
  run : n ∉ runsFrom 0 code

/-- Whether the line closes a fence of so many backticks: at least as many, behind at most three
spaces, and only blanks behind them. -/
def closesFence (n : Nat) (line : String) : Bool :=
  let marks := line.toList.dropWhile (· == ' ')
  decide ((line.toList.takeWhile (· == ' ')).length ≤ 3) &&
    decide (n ≤ (marks.takeWhile (· == tick)).length) &&
    (marks.dropWhile (· == tick)).all fun c => c == ' ' || c == '\t'

/-- The number of backticks of the fence that a line opens: three or more, behind at most three
spaces, and no backtick in what is said about the code. -/
def openedFence? (line : String) : Option Nat :=
  let marks := line.toList.dropWhile (· == ' ')
  let n := (marks.takeWhile (· == tick)).length
  if (line.toList.takeWhile (· == ' ')).length ≤ 3 ∧ 3 ≤ n ∧
      tick ∉ marks.dropWhile (· == tick) then some n
  else none

/-- The lines of the fenced code that starts with the first line, and the lines behind it. -/
def fencedCode? : List String → Option (List String × List String)
  | [] => none
  | line :: lines => (openedFence? line).map fun n =>
    (lines.takeWhile (!closesFence n ·), (lines.dropWhile (!closesFence n ·)).drop 1)

variable {n run : Nat} {c : Char} {cs ds code rest : List Char}

/-! ## Runs of backticks -/

theorem ticks_succ (n : Nat) : ticks (n + 1) = tick :: ticks n := List.replicate_succ

theorem ticks_append_cons (n : Nat) (cs : List Char) :
    ticks n ++ tick :: cs = ticks (n + 1) ++ cs := by
  rw [ticks, ticks, List.replicate_succ', List.append_assoc, List.singleton_append]

theorem runsFrom_append (h : c ≠ tick) (run : Nat) (cs ds : List Char) :
    runsFrom run (cs ++ c :: ds) = runsFrom run cs ++ runsFrom 0 ds := by
  fun_induction runsFrom run cs with
  | case1 run => rw [List.nil_append, runsFrom, if_neg h, List.singleton_append]
  | case2 run cs ih => rw [List.cons_append, runsFrom, if_pos rfl, ih]
  | case3 run d cs hd ih => rw [List.cons_append, runsFrom, if_neg hd, ih, List.cons_append]

theorem runsFrom_ticks (run n : Nat) (cs : List Char) :
    runsFrom run (ticks n ++ cs) = runsFrom (run + n) cs := by
  induction n generalizing run with
  | zero => rfl
  | succ n ih =>
    rw [ticks_succ, List.cons_append, runsFrom, if_pos rfl, ih, Nat.add_assoc, Nat.add_comm 1]

/-- A text without backticks has no runs. -/
theorem eq_zero_of_mem_runsFrom (h : tick ∉ cs) : ∀ n ∈ runsFrom 0 cs, n = 0 := by
  induction cs with
  | nil => simp [runsFrom]
  | cons c cs ih =>
    obtain ⟨hc, hcs⟩ := not_or.1 (mt List.mem_cons.2 h)
    rw [runsFrom, if_neg (Ne.symm hc)]
    exact List.forall_mem_cons.2 ⟨rfl, ih hcs⟩

theorem no_ticks_first (h : cs.head? ≠ some tick) :
    cs.takeWhile (· == tick) = [] ∧ cs.dropWhile (· == tick) = cs := by
  have hrest : cs.dropWhile (· == tick) = cs := Text.dropWhile_eq_self fun c hc =>
    beq_eq_false_iff_ne.2 fun he => h (he ▸ hc)
  have hsplit := List.takeWhile_append_dropWhile (p := (· == tick)) (l := cs)
  rw [hrest] at hsplit
  exact ⟨List.append_left_eq_self.1 hsplit, hrest⟩

/-! ## Spans -/

theorem closeSpan_ticks (h : rest.head? ≠ some tick) (run k : Nat) :
    closeSpan (run + k) run (ticks k ++ rest) = some ([], rest) := by
  induction k generalizing run with
  | zero =>
    cases rest with
    | nil => simp [ticks, closeSpan]
    | cons c rest =>
      have hc : c ≠ tick := fun he => h (congrArg some he)
      simp [ticks, closeSpan, hc]
  | succ k ih =>
    rw [ticks_succ, List.cons_append, closeSpan, if_pos rfl, ← Nat.add_assoc, Nat.add_right_comm]
    exact ih (run + 1)

/-- Code whose last character is no backtick is read up to the first run that is as long as the
opening one. -/
theorem closeSpan_append (hc : c ≠ tick) (hrest : rest.head? ≠ some tick)
    (hruns : n ∉ runsFrom run cs) :
    closeSpan n run (cs ++ c :: (ticks n ++ rest)) = some (ticks run ++ (cs ++ [c]), rest) := by
  have hclose : closeSpan n 0 (ticks n ++ rest) = some ([], rest) := by
    simpa using closeSpan_ticks hrest 0 n
  fun_induction runsFrom run cs with
  | case1 run =>
    have hrun : run ≠ n := by simpa [eq_comm] using hruns
    rw [List.nil_append, closeSpan, if_neg hc, if_neg hrun, hclose]
    rfl
  | case2 run cs ih =>
    rw [List.cons_append, closeSpan, if_pos rfl, ih hruns, List.cons_append, ticks_append_cons]
  | case3 run d cs hd ih =>
    obtain ⟨hrun, hruns⟩ := not_or.1 (mt List.mem_cons.2 hruns)
    rw [List.cons_append, closeSpan, if_neg hd, if_neg (Ne.symm hrun), ih hruns]
    rfl

/-- What is read as a span: the text before the closing run, which no run of its length stands
in. -/
theorem of_closeSpan_eq_some (hn : 0 < n) (h : closeSpan n run cs = some (code, rest)) :
    ticks run ++ cs = code ++ ticks n ++ rest ∧ code.getLast? ≠ some tick ∧
      n ∉ runsFrom 0 code := by
  fun_induction closeSpan n run cs generalizing code with
  | case1 =>
    cases h
    exact ⟨by simp, by simp, by simpa [runsFrom] using hn.ne'⟩
  | case2 => cases h
  | case3 run cs ih =>
    rw [ticks_append_cons]
    exact ih h
  | case4 c cs hc =>
    cases h
    exact ⟨by simp, by simp, by simpa [runsFrom] using hn.ne'⟩
  | case5 run c cs hc hrun ih =>
    obtain ⟨⟨code', rest'⟩, hclose, heq⟩ := Option.map_eq_some_iff.1 h
    cases heq
    obtain ⟨hcs, hlast, hruns⟩ := ih hclose
    have hcs : cs = code' ++ ticks n ++ rest := hcs
    refine ⟨by simp [hcs], ?_, ?_⟩
    · rw [List.getLast?_append, List.getLast?_cons]
      cases hcode : code'.getLast? with
      | none => simpa using hc
      | some d => simpa [hcode] using hlast
    · rw [runsFrom_ticks, Nat.zero_add, runsFrom, if_neg hc, List.mem_cons, not_or]
      exact ⟨Ne.symm hrun, hruns⟩

/-- Behind the opening run the text is the code and the closing run exactly when the code does not
end in a backtick and no run of its length stands in it. -/
theorem closeSpan_concat_ticks_iff (hn : 0 < n) :
    closeSpan n 0 (cs ++ ticks n) = some (code, []) ↔
      code = cs ∧ cs.getLast? ≠ some tick ∧ n ∉ runsFrom 0 cs := by
  constructor
  · intro h
    obtain ⟨hcs, hlast, hruns⟩ := of_closeSpan_eq_some hn h
    have hcs : cs ++ ticks n = code ++ ticks n := by simpa [ticks] using hcs
    obtain rfl := List.append_cancel_right hcs
    exact ⟨rfl, hlast, hruns⟩
  · rintro ⟨rfl, hlast, hruns⟩
    have hrest : ([] : List Char).head? ≠ some tick := by simp
    rcases List.eq_nil_or_concat code with rfl | ⟨cs, c, rfl⟩
    · simpa [ticks] using closeSpan_ticks hrest 0 n
    · have hc : c ≠ tick := by simpa using hlast
      have hcs : n ∉ runsFrom 0 cs := fun h => hruns (by
        rw [List.concat_eq_append, runsFrom_append hc]
        exact List.mem_append_left _ h)
      simpa [ticks] using closeSpan_append hc hrest hcs

theorem codeSpan?_ticks (hn : 0 < n) (h : cs.head? ≠ some tick) :
    codeSpan? (ticks n ++ cs) = closeSpan n 0 cs := by
  have hticks : ∀ c ∈ ticks n, (c == tick) = true := fun c hc => by
    rw [List.eq_of_mem_replicate hc]
    decide
  obtain ⟨hmarks, hrest⟩ := no_ticks_first h
  rw [codeSpan?, List.takeWhile_append_of_pos hticks, List.dropWhile_append_of_pos hticks, hmarks,
    hrest, List.append_nil, ticks, List.length_replicate]
  exact if_neg hn.ne'

/-- A text is one span exactly when it is code between two runs of backticks that fit it. -/
theorem isSpan_iff {s code : String} : IsSpan s code ↔
    ∃ n, 0 < n ∧ s.toList = ticks n ++ code.toList ++ ticks n ∧ Fits n code.toList := by
  constructor
  · intro h
    obtain ⟨n, hn⟩ : ∃ n, (s.toList.takeWhile (· == tick)).length = n := ⟨_, rfl⟩
    rw [IsSpan, codeSpan?, hn] at h
    obtain ⟨hpos, h⟩ : n ≠ 0 ∧ closeSpan n 0 (s.toList.dropWhile (· == tick)) =
        some (code.toList, []) := by simpa using h
    obtain ⟨hrest, hlast, hruns⟩ := of_closeSpan_eq_some (Nat.pos_of_ne_zero hpos) h
    have hrest : s.toList.dropWhile (· == tick) = code.toList ++ ticks n := by
      simpa [ticks] using hrest
    have hmarks : s.toList.takeWhile (· == tick) = ticks n :=
      List.eq_replicate_iff.2 ⟨hn, fun c hc => by simpa using List.mem_takeWhile_imp hc⟩
    have hfirst (cs : List Char) (hcs : s.toList.dropWhile (· == tick) = tick :: cs) : False := by
      have htick := Text.of_head?_dropWhile (congrArg List.head? hcs)
      exact absurd htick (by decide)
    refine ⟨n, Nat.pos_of_ne_zero hpos, ?_, fun hnil => ?_, fun hhead => ?_, hlast, hruns⟩
    · rw [List.append_assoc, ← hrest, ← hmarks, List.takeWhile_append_dropWhile]
    · obtain ⟨n, rfl⟩ := Nat.exists_eq_succ_of_ne_zero hpos
      exact hfirst (ticks n) (by rw [hrest, hnil, List.nil_append, ticks_succ])
    · obtain ⟨cs, hcs⟩ := List.head?_eq_some_iff.1 hhead
      exact hfirst (cs ++ ticks n) (by rw [hrest, hcs, List.cons_append])
  · rintro ⟨n, hn, hs, hfits⟩
    have hhead : (code.toList ++ ticks n).head? ≠ some tick := by
      rw [List.head?_append_of_ne_nil _ hfits.ne]
      exact hfits.first
    rw [IsSpan, hs, List.append_assoc, codeSpan?_ticks hn hhead, closeSpan_concat_ticks_iff hn]
    exact ⟨rfl, hfits.last, hfits.run⟩

/-- One backtick on each side is a part of the marks of a span. -/
theorem isSpan_quoted_iff {s code : String} : IsSpan ("`" ++ s ++ "`") code ↔
    ∃ k, s.toList = ticks k ++ code.toList ++ ticks k ∧ Fits (k + 1) code.toList := by
  have hquoted : ("`" ++ s ++ "`").toList = tick :: (s.toList ++ [tick]) := by simp [tick]
  have hmarks (k : Nat) : ticks (k + 1) ++ code.toList ++ ticks (k + 1) =
      tick :: (ticks k ++ code.toList ++ ticks k ++ [tick]) := by
    have hlast : ticks (k + 1) = ticks k ++ [tick] := List.replicate_succ'
    calc ticks (k + 1) ++ code.toList ++ ticks (k + 1)
        = tick :: ticks k ++ code.toList ++ (ticks k ++ [tick]) := by rw [← hlast, ticks_succ]
      _ = tick :: (ticks k ++ code.toList ++ ticks k ++ [tick]) := by
        simp only [List.cons_append, List.append_assoc]
  rw [isSpan_iff, hquoted]
  constructor
  · rintro ⟨n, hn, hs, hfits⟩
    obtain ⟨k, rfl⟩ := Nat.exists_eq_succ_of_ne_zero hn.ne'
    rw [hmarks] at hs
    exact ⟨k, List.append_cancel_right (List.cons.inj hs).2, hfits⟩
  · rintro ⟨k, hs, hfits⟩
    exact ⟨k + 1, k.succ_pos, by rw [hs, hmarks], hfits⟩

/-- A text between single backticks is read back exactly when they fit it. -/
theorem isSpan_quoted_self_iff {s : String} : IsSpan ("`" ++ s ++ "`") s ↔ Fits 1 s.toList := by
  rw [isSpan_quoted_iff]
  constructor
  · rintro ⟨k, hs, hfits⟩
    have hlength := congrArg List.length hs
    simp only [List.length_append, ticks, List.length_replicate] at hlength
    obtain rfl : k = 0 := by omega
    exact hfits
  · exact fun h => ⟨0, by simp [ticks], h⟩

theorem fits_of_not_mem (hn : 0 < n) (hne : cs ≠ []) (h : tick ∉ cs) : Fits n cs :=
  ⟨hne, fun hhead => h (List.mem_of_mem_head? hhead), fun hlast => h (List.mem_of_getLast? hlast),
    fun hrun => hn.ne' (eq_zero_of_mem_runsFrom h n hrun)⟩

theorem runsFrom_spaced (cs : List Char) :
    runsFrom 0 (' ' :: (cs ++ [' '])) = 0 :: (runsFrom 0 cs ++ [0]) := by
  have hspace : ' ' ≠ tick := by decide
  rw [runsFrom, if_neg hspace, runsFrom_append hspace]
  rfl

theorem contains_tick_iff {s : String} : Text.contains s "`" = true ↔ tick ∈ s.toList :=
  ⟨fun h => Text.mem_of_contains h (by decide), Text.contains_singleton⟩

/-- What a code span of a text holds: the text, or the text between spaces when it has backticks. -/
def spanText (s : String) : String := if Text.contains s "`" then " " ++ s ++ " " else s

/-- Between double backticks and spaces a text is read back exactly when no run of two stands in
it. -/
theorem isSpan_spaced_iff {s code : String} :
    IsSpan ("`` " ++ s ++ " ``") code ↔ code = " " ++ s ++ " " ∧ 2 ∉ runs s := by
  have hspaced : (" " ++ s ++ " ").toList = ' ' :: (s.toList ++ [' ']) := by simp
  have hmarked :
      ("`` " ++ s ++ " ``").toList = ticks 2 ++ ((" " ++ s ++ " ").toList ++ ticks 2) := by
    simp [ticks, tick]
  have hhead : ((" " ++ s ++ " ").toList ++ ticks 2).head? ≠ some tick := by
    rw [hspaced, List.cons_append, List.head?_cons]
    decide
  have hlast : (' ' :: (s.toList ++ [' '])).getLast? ≠ some tick := by
    rw [← List.cons_append, List.getLast?_concat]
    decide
  rw [IsSpan, hmarked, codeSpan?_ticks (by decide) hhead, closeSpan_concat_ticks_iff (by decide),
    String.toList_inj, hspaced, runsFrom_spaced, and_iff_right hlast]
  simp [runs]

/-- Between single backticks a text without backticks is read back exactly when it is not empty. -/
theorem isSpan_quoted_iff_of_not_mem {s code : String} (h : tick ∉ s.toList) :
    IsSpan ("`" ++ s ++ "`") code ↔ code = s ∧ s ≠ "" := by
  rw [isSpan_quoted_iff]
  constructor
  · rintro ⟨k, hs, hfits⟩
    obtain rfl : k = 0 := by
      by_contra hk
      refine h (hs ▸ List.mem_append_right _ ?_)
      rw [ticks, List.mem_replicate]
      exact ⟨hk, rfl⟩
    obtain rfl : s = code := String.toList_inj.1 (by simpa [ticks] using hs)
    exact ⟨rfl, fun he => hfits.ne (by rw [he]; rfl)⟩
  · rintro ⟨rfl, hne⟩
    exact ⟨0, by simp [ticks], fits_of_not_mem (by decide) (by simpa using hne) h⟩

/-- A text is read back from its code span exactly when it is not empty and no run of two backticks
stands in it. -/
theorem isSpan_inlineCode_iff {s code : String} :
    IsSpan (inlineCode s) code ↔ code = spanText s ∧ s ≠ "" ∧ 2 ∉ runs s := by
  rw [inlineCode, codeSpan, spanText]
  split
  next h =>
    have hne : s ≠ "" := by
      rintro rfl
      cases contains_tick_iff.1 h
    rw [isSpan_spaced_iff, and_iff_right hne]
  next h =>
    have htick : tick ∉ s.toList := mt contains_tick_iff.2 h
    have hrun : 2 ∉ runs s := fun hmem => absurd (eq_zero_of_mem_runsFrom htick 2 hmem) (by decide)
    rw [isSpan_quoted_iff_of_not_mem htick, and_iff_left hrun]

/-! ## Fences -/

/-- Lines between a fence and a line that closes it are the code exactly when none of them closes
it. -/
theorem fencedCode?_iff {opener fence : String} {code rest : List String}
    (hopener : openedFence? opener = some n) (hfence : closesFence n fence = true) :
    fencedCode? (opener :: (code ++ fence :: rest)) = some (code, rest) ↔
      ∀ line ∈ code, closesFence n line = false := by
  rw [fencedCode?, hopener, Option.map_some, Option.some.injEq, Prod.mk.injEq]
  constructor
  · rintro ⟨hcode, -⟩ line hline
    rw [← hcode] at hline
    simpa using List.mem_takeWhile_imp hline
  · intro h
    have hopen : ∀ line ∈ code, (!closesFence n line) = true := by simpa using h
    rw [List.takeWhile_append_of_pos hopen, List.dropWhile_append_of_pos hopen]
    simp [hfence]

theorem openedFence?_marks {lang : String} (h : tick ∉ lang.toList) :
    openedFence? ("```" ++ lang) = some 3 := by
  have hmarks : ("```" ++ lang).toList = tick :: tick :: tick :: lang.toList := by simp [tick]
  have hspace : (tick == ' ') = false := by decide
  have hhead := no_ticks_first fun he => h (List.mem_of_mem_head? he)
  rw [openedFence?, hmarks]
  simp [hspace, hhead, h]

/-- Text between a fence of three backticks and a line of three is read back exactly when none of
its lines closes the fence. -/
theorem fencedCode?_fenced_iff {lang text tail : String} {rest : List String}
    (hline : IsOneLine lang) (htick : tick ∉ lang.toList)
    (htail : sourceLines tail = "```" :: rest) :
    fencedCode? (sourceLines ("```" ++ lang ++ "\n" ++ (text ++ "\n" ++ tail))) =
        some (endedLines text, rest) ↔
      ∀ line ∈ endedLines text, closesFence 3 line = false := by
  have hopener : IsOneLine ("```" ++ lang) := isOneLine_append_iff.2 ⟨by decide, hline⟩
  have hend : ("```" ++ lang).toList.getLast? ≠ some '\r' := fun h =>
    (hopener _ (List.mem_of_getLast? h)).2 rfl
  rw [sourceLines_append_feed hend, hopener.sourceLines, sourceLines_ended_append, htail,
    List.singleton_append]
  exact fencedCode?_iff (openedFence?_marks htick) (by decide)

/-- Code is read back from its fence exactly when none of its lines closes it. -/
theorem fencedCode?_codeBlock_iff {code lang : String} (hline : IsOneLine lang)
    (htick : tick ∉ lang.toList) :
    fencedCode? (sourceLines (codeBlock code lang)) = some (sourceLines (Text.trimEnd code), []) ↔
      ∀ line ∈ sourceLines (Text.trimEnd code), closesFence 3 line = false := by
  have hend : (Text.trimEnd code).toList.getLast? ≠ some '\r' := fun h =>
    absurd (Text.of_getLast?_trimEndOf h) (by decide)
  have hblock : codeBlock code lang =
      "```" ++ lang ++ "\n" ++ (Text.trimEnd code ++ "\n" ++ "```") := by
    simp only [codeBlock, String.append_assoc]
    rfl
  have htail : sourceLines "```" = ["```"] := IsOneLine.sourceLines (by decide)
  rw [hblock, ← endedLines_eq_sourceLines hend]
  exact fencedCode?_fenced_iff hline htick htail

end CrateBook.Markdown
