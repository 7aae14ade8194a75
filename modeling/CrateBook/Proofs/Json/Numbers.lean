import CrateBook.Proofs.Json.RoundTrip

/-!
# Reading numbers back

The digits of a natural number have no needless zero in front, so that an integer that is written is
read back (`spells_int`), and so is a clock that stands at zero (`spells_zero`). Both are words, of
which the reader has not seen the end; `Reads.number` is about all words that spell a number.
-/

namespace CrateBook.Json

namespace Reader

open Number (natOfDigits)

variable {frames : List Frame} {v : Json} {cs : List Char}

theorem run_word (hcs : ∀ c ∈ cs, isWordChar c = true) (read : List Char) :
    run ⟨frames, .word read⟩ cs = some ⟨frames, .word (cs.reverse ++ read)⟩ := by
  induction cs generalizing read with
  | nil => rfl
  | cons c cs ih =>
    obtain ⟨hc, hcs⟩ := List.forall_mem_cons.1 hcs
    rw [run_cons, step]
    simp only [hc, ↓reduceIte, Option.bind_some]
    rw [ih hcs]
    simp

/-- A word with a digit is no literal. -/
theorem wordValue?_of_isDigit {c : Char} (hc : c.isDigit = true) (hmem : c ∈ cs) :
    wordValue? cs = number? cs := by
  have hne (ds : List Char) (hds : ds.any Char.isDigit = false) :
      String.ofList cs ≠ String.ofList ds := by
    intro h
    rw [String.ofList_injective h] at hmem
    exact List.any_eq_false.1 hds c hmem hc
  have hnull : String.ofList cs ≠ "null" :=
    hne ['n', 'u', 'l', 'l'] rfl
  have htrue : String.ofList cs ≠ "true" :=
    hne ['t', 'r', 'u', 'e'] rfl
  have hfalse : String.ofList cs ≠ "false" :=
    hne ['f', 'a', 'l', 's', 'e'] rfl
  have hnan : String.ofList cs ≠ "NaN" :=
    hne ['N', 'a', 'N'] rfl
  have hinf : String.ofList cs ≠ "Infinity" :=
    hne ['I', 'n', 'f', 'i', 'n', 'i', 't', 'y'] rfl
  have hneg : String.ofList cs ≠ "-Infinity" :=
    hne ['-', 'I', 'n', 'f', 'i', 'n', 'i', 't', 'y'] rfl
  rw [wordValue?]
  generalize String.ofList cs = s at hnull htrue hfalse hnan hinf hneg ⊢
  simp [hnull, htrue, hfalse, hnan, hinf, hneg]

/-- A word with a digit that begins with a digit or a sign is read as the number that it spells. -/
theorem Reads.number {c d : Char} {rest : List Char} (hc : c.isDigit = true ∨ c = '-')
    (hrest : ∀ c ∈ rest, isWordChar c = true) (hd : d.isDigit = true) (hmem : d ∈ c :: rest)
    (hv : number? (c :: rest) = some v) : Reads frames (c :: rest) v := by
  have hne {e : Char} (he : e.isDigit = false) (he' : e ≠ '-') : c ≠ e := by
    rintro rfl
    rcases hc with hc | hc
    · rw [hc] at he
      cases he
    · exact he' hc
  have hword : isWordChar c = true := by
    rcases hc with hc | rfl
    · simp [isWordChar, Char.isAlphanum, hc]
    · rfl
  refine ⟨c, rest, ⟨frames, .word [c]⟩, _, rfl, ?_, hne rfl (by decide), ?_, run_word hrest [c],
    rfl, .inr ⟨_, rfl, ?_⟩⟩
  · simp [isSpace, hne (e := ' ') rfl, hne (e := '\t') rfl, hne (e := '\n') rfl,
      hne (e := '\r') rfl]
  · simp [startValue, hne (e := '"') rfl, hne (e := '[') rfl, hne (e := '\x7b') rfl, hword]
  · rw [List.reverse_append, List.reverse_reverse, List.reverse_singleton, List.singleton_append,
      wordValue?_of_isDigit hd hmem, hv]

/-! ## Integers -/

theorem toList_toString_natCast (n : Nat) : (toString (n : Int)).toList = Nat.toDigits 10 n := by
  simp [toString, Int.repr]

theorem toList_toString_negSucc (n : Nat) :
    (toString (Int.negSucc n)).toList = '-' :: Nat.toDigits 10 (n + 1) := by
  simp [toString, Int.repr]

theorem isDigit_toDigits (n : Nat) : ∀ c ∈ Nat.toDigits 10 n, c.isDigit = true :=
  fun _ hc => Nat.isDigit_of_mem_toDigits (by decide) (by decide) hc

/-- Only zero begins with a zero. -/
theorem head?_toDigits {n : Nat} (hn : n ≠ 0) : (Nat.toDigits 10 n).head? ≠ some '0' := by
  induction n using Nat.strongRecOn with
  | ind n ih =>
    by_cases hlt : n < 10
    · have hdigit : ∀ m < 10, m ≠ 0 → m.digitChar ≠ '0' := by decide
      rw [Nat.toDigits_of_lt_base hlt]
      simpa using hdigit n hlt hn
    · rw [Nat.toDigits_of_base_le (by decide) (by omega), List.head?_append_of_ne_nil]
      · exact ih (n / 10) (by omega) (by omega)
      · exact Nat.toDigits_ne_nil

theorem natOfDigits_toDigits (n : Nat) : natOfDigits (Nat.toDigits 10 n) = n :=
  Nat.ofDigitChars_toDigits (by decide) (by decide)

theorem isIntegerPart_toDigits (n : Nat) : isIntegerPart (Nat.toDigits 10 n) = true := by
  have hne : Nat.toDigits 10 n ≠ [] := Nat.toDigits_ne_nil
  by_cases hn : n = 0
  · subst hn
    rfl
  · simp [isIntegerPart, hne, head?_toDigits hn]

theorem span_toDigits (n : Nat) :
    (Nat.toDigits 10 n).span Char.isDigit = (Nat.toDigits 10 n, []) := by
  rw [List.span_eq_takeWhile_dropWhile, List.takeWhile_eq_self_iff.2 (isDigit_toDigits n),
    List.dropWhile_eq_nil_iff.2 (isDigit_toDigits n)]

theorem number?_toDigits (n : Nat) : number? (Nat.toDigits 10 n) = some (.int n) := by
  rw [number?, span_toDigits]
  · dsimp only
    rw [isIntegerPart_toDigits, natOfDigits_toDigits]
    rfl
  · intro r h
    have hdigit := isDigit_toDigits n '-' (by rw [h]; exact List.mem_cons_self)
    cases hdigit

theorem number?_minus_toDigits (n : Nat) :
    number? ('-' :: Nat.toDigits 10 n) = some (.int (-n)) := by
  rw [number?]
  dsimp only
  rw [span_toDigits]
  dsimp only
  rw [isIntegerPart_toDigits, natOfDigits_toDigits]
  rfl

theorem exists_mem_toDigits (n : Nat) : ∃ c ∈ Nat.toDigits 10 n, c.isDigit = true := by
  obtain ⟨c, hc⟩ := List.exists_mem_of_ne_nil _ (Nat.toDigits_ne_nil (b := 10) (n := n))
  exact ⟨c, hc, isDigit_toDigits n c hc⟩

theorem isWordChar_toDigits (n : Nat) : ∀ c ∈ Nat.toDigits 10 n, isWordChar c = true :=
  fun c hc => by simp [isWordChar, Char.isAlphanum, isDigit_toDigits n c hc]

theorem spells_int : ∀ n : Int, Spells (toString n) (.int n)
  | .ofNat n => by
    intro frames
    change Reads frames (toString (n : Int)).toList _
    obtain ⟨d, hmem, hd⟩ := exists_mem_toDigits n
    have hdigits := isDigit_toDigits n
    have hword := isWordChar_toDigits n
    have hvalue := number?_toDigits n
    rw [toList_toString_natCast]
    cases hn : Nat.toDigits 10 n with
    | nil => exact absurd hn Nat.toDigits_ne_nil
    | cons c rest =>
      rw [hn] at hmem hdigits hword hvalue
      exact .number (.inl (hdigits c List.mem_cons_self))
        (fun c hc => hword c (List.mem_cons_of_mem _ hc)) hd hmem hvalue
  | .negSucc n => by
    intro frames
    obtain ⟨d, hmem, hd⟩ := exists_mem_toDigits (n + 1)
    rw [toList_toString_negSucc]
    exact .number (.inr rfl) (isWordChar_toDigits _) hd (List.mem_cons_of_mem _ hmem)
      (number?_minus_toDigits (n + 1))

/-- The clock that stands at zero is read back. -/
theorem spells_zero : Spells "0.0" (.decimal "0.0") := by
  intro frames
  have htext : "0.0".toList = ['0', '.', '0'] := by decide
  have hcanonical : Number.canonical "0.0" = "0.0" := by decide +kernel
  rw [htext]
  refine .number (.inl (by decide)) (by simp [isWordChar]) (d := '0') rfl List.mem_cons_self ?_
  simp [number?, List.span, List.span.loop, isIntegerPart, isFractionPart, hcanonical]

end Reader

theorem return_not_mem_toString : ∀ n : Int, '\r' ∉ (toString n).toList
  | .ofNat n => by
    intro h
    change '\r' ∈ (toString (n : Int)).toList at h
    rw [Reader.toList_toString_natCast] at h
    have hdigit := Reader.isDigit_toDigits n '\r' h
    cases hdigit
  | .negSucc n => by
    intro h
    rw [Reader.toList_toString_negSucc, List.mem_cons] at h
    have hdigit := Reader.isDigit_toDigits (n + 1) '\r' (h.resolve_left (by decide))
    cases hdigit

end CrateBook.Json
