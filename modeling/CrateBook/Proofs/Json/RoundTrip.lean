import CrateBook.Json.Reader
import CrateBook.Json.Writer
import CrateBook.Proofs.Json.Members
import CrateBook.Proofs.Text.Joining

/-!
# Reading back what was written

A value without numbers whose objects have distinct keys is read back from its written form:
`read?_pretty`. The reader is a fold over characters, so each written part is a statement on
`Reader.run` from any open containers: `run_charText` for a character of a text, `Reads` for a whole
value, `run_items` and `run_members` for what stands between brackets. A value may end in a word
whose end the reader has not seen yet; `Ended` covers both kinds of end.
-/

namespace CrateBook.Json

mutual

/-- A value without numbers in which no object has a key twice. -/
def IsTextual : Json → Prop
  | .null => True
  | .bool _ => True
  | .int _ => False
  | .decimal _ => False
  | .str _ => True
  | .arr items => AllTextual items
  | .obj members => (members.map (·.1)).Nodup ∧ AllTextualMembers members

/-- Items that are textual. -/
def AllTextual : List Json → Prop
  | [] => True
  | v :: vs => IsTextual v ∧ AllTextual vs

/-- Members whose values are textual. -/
def AllTextualMembers : List (String × Json) → Prop
  | [] => True
  | (_, v) :: ms => IsTextual v ∧ AllTextualMembers ms

end

namespace Reader

variable {frames : List Frame} {s s' : State} {v : Json} {cs ds : List Char} {isKey : Bool}
  {units : List Nat}

theorem run_append : run s (cs ++ ds) = (run s cs).bind fun s => run s ds := by
  simp [run, List.foldlM_append]

theorem run_cons (c : Char) : run s (c :: cs) = (step s c).bind fun s => run s cs := rfl

theorem run_of_stays (hs : ∀ c, isSpace c = true → step s c = some s)
    (hcs : ∀ c ∈ cs, isSpace c = true) : run s cs = some s := by
  induction cs with
  | nil => rfl
  | cons c cs ih =>
    rw [run_cons, hs c (hcs c List.mem_cons_self)]
    exact ih fun d hd => hcs d (List.mem_cons_of_mem _ hd)

theorem isSpace_newLine (depth : Nat) : ∀ c ∈ (newLine depth).toList, isSpace c = true := by
  intro c hc
  simp only [newLine, String.toList_ofList, List.mem_cons, List.mem_replicate] at hc
  rcases hc with rfl | ⟨-, rfl⟩ <;> rfl

/-! ## Texts -/

/-- The code units of a character. -/
def charUnits (c : Char) : List Nat :=
  if c.toNat < 0x10000 then [c.toNat]
  else [0xD800 + (c.toNat - 0x10000) / 0x400, 0xDC00 + (c.toNat - 0x10000) % 0x400]

theorem charRange (c : Char) : c.toNat < 0xD800 ∨ (0xDFFF < c.toNat ∧ c.toNat < 0x110000) := c.valid

theorem hexDigit?_hexDigit : ∀ n < 16, Text.hexDigit? (Text.hexDigit n) = some n := by decide

theorem run_hexDigits {u : Nat} (hu : u < 0x10000) :
    run ⟨frames, .hex isKey units 4 0⟩ (Text.hexDigits 4 u) =
      some ⟨frames, .text isKey (u :: units)⟩ := by
  have digit (n : Nat) : Text.hexDigit? (Text.hexDigit (n % 16)) = some (n % 16) :=
    hexDigit?_hexDigit _ (Nat.mod_lt _ (by decide))
  have value : 16 * (16 * (16 * (u / 16 / 16 / 16 % 16) + u / 16 / 16 % 16) + u / 16 % 16) +
      u % 16 = u := by omega
  simp [Text.hexDigits, step, digit, run, value]

theorem run_unitEscape {u : Nat} (hu : u < 0x10000) :
    run ⟨frames, .text isKey units⟩ (unitEscape u) =
      some ⟨frames, .text isKey (u :: units)⟩ := by
  rw [unitEscape, run_cons, show step ⟨frames, .text isKey units⟩ '\\' =
    some ⟨frames, .escape isKey units⟩ from rfl, Option.bind_some, run_cons,
    show step ⟨frames, .escape isKey units⟩ 'u' =
      some ⟨frames, .hex isKey units 4 0⟩ from rfl, Option.bind_some]
  exact run_hexDigits hu

/-- One character of a text as it is written. -/
theorem run_charText (c : Char) :
    run ⟨frames, .text isKey units⟩ (charText c) =
      some ⟨frames, .text isKey ((charUnits c).reverse ++ units)⟩ := by
  have hc := charRange c
  have escaped {e : Char} {u : Nat} (he : escapeUnit? e = some u) (hu : e ≠ 'u') :
      run ⟨frames, .text isKey units⟩ ['\\', e] = some ⟨frames, .text isKey (u :: units)⟩ := by
    simp [run, step, he, hu]
  have unit_of_lt {n : Nat} (hn : c.toNat = n) (hlt : n < 0x10000) : charUnits c = [n] := by
    rw [charUnits, if_pos (by omega), hn]
  rw [charText]
  split
  · rename_i h
    exact unit_of_lt (congrArg Char.toNat h) (by decide) ▸ escaped rfl (by decide)
  split
  · rename_i h
    exact unit_of_lt (congrArg Char.toNat h) (by decide) ▸ escaped rfl (by decide)
  split
  · rename_i hq hb h
    have : ¬ c.toNat < 0x20 := by simp at h; omega
    rw [unit_of_lt rfl (by simp at h; omega), run_cons]
    simp [step, hq, hb, this, run]
  split
  · exact unit_of_lt ‹_› (by decide) ▸ escaped rfl (by decide)
  split
  · exact unit_of_lt ‹_› (by decide) ▸ escaped rfl (by decide)
  split
  · exact unit_of_lt ‹_› (by decide) ▸ escaped rfl (by decide)
  split
  · exact unit_of_lt ‹_› (by decide) ▸ escaped rfl (by decide)
  split
  · exact unit_of_lt ‹_› (by decide) ▸ escaped rfl (by decide)
  split
  · rw [unit_of_lt rfl ‹_›]
    exact run_unitEscape ‹_›
  · rename_i h
    rw [charUnits, if_neg h, run_append, run_unitEscape (by omega), Option.bind_some,
      run_unitEscape (by omega)]
    rfl

theorem run_textChars (cs : List Char) :
    run ⟨frames, .text isKey units⟩ (cs.flatMap charText) =
      some ⟨frames, .text isKey ((cs.flatMap charUnits).reverse ++ units)⟩ := by
  induction cs generalizing units with
  | nil => rfl
  | cons c cs ih =>
    rw [List.flatMap_cons, run_append, run_charText, Option.bind_some, ih]
    simp

theorem charsOfUnits_charUnits_append (c : Char) (us : List Nat) :
    charsOfUnits (charUnits c ++ us) = c :: charsOfUnits us := by
  have hc := charRange c
  rw [charUnits]
  split
  · rw [List.singleton_append, charsOfUnits.eq_def]
    simp only
    rw [if_neg (by simp; omega), if_neg (by simp; omega), Char.ofNat_toNat]
  · have value : 0x10000 + (0xD800 + (c.toNat - 0x10000) / 0x400 - 0xD800) * 0x400 +
        (0xDC00 + (c.toNat - 0x10000) % 0x400 - 0xDC00) = c.toNat := by omega
    rw [List.cons_append, charsOfUnits.eq_def]
    simp only [List.singleton_append]
    rw [if_pos (by simp; omega), if_pos (by simp; omega), value, Char.ofNat_toNat]

theorem charsOfUnits_flatMap (cs : List Char) : charsOfUnits (cs.flatMap charUnits) = cs := by
  induction cs with
  | nil => rfl
  | cons c cs ih => rw [List.flatMap_cons, charsOfUnits_charUnits_append, ih]

/-- A text from after its opening quote to after its closing one. -/
theorem run_quoted (t : String) :
    run ⟨frames, .text isKey []⟩ (t.toList.flatMap charText ++ ['"']) =
      some ⟨frames, if isKey then .colon t else .done (.str t)⟩ := by
  rw [run_append, run_textChars, Option.bind_some, run_cons]
  simp only [step, ↓reduceIte, Option.bind_some, run, List.foldlM_nil, endText]
  simp [charsOfUnits_flatMap]

/-! ## Values -/

/-- The state after a value: the value is known, or all characters of its word are read. -/
def Ended (frames : List Frame) (v : Json) (s : State) : Prop :=
  s.frames = frames ∧
    (s.mode = .done v ∨ ∃ cs, s.mode = .word cs ∧ wordValue? cs.reverse = some v)

theorem Ended.step_eq (h : Ended frames v s) {c : Char} (hc : isWordChar c = false) :
    step s c = afterValue frames v c := by
  obtain ⟨frames', mode⟩ := s
  obtain ⟨rfl, h⟩ := h
  rcases h with rfl | ⟨cs, rfl, hcs⟩
  · rfl
  · simp [step, hc, hcs]

theorem isWordChar_of_isSpace {c : Char} (hc : isSpace c = true) : isWordChar c = false := by
  simp only [isSpace, Bool.or_eq_true, decide_eq_true_eq] at hc
  rcases hc with ((rfl | rfl) | rfl) | rfl <;> rfl

theorem afterValue_of_isSpace {c : Char} (hc : isSpace c = true) :
    afterValue frames v c = some ⟨frames, .done v⟩ := by simp [afterValue, hc]

/-- The blanks after a value leave the reader behind the value. -/
theorem Ended.run_blanks (h : Ended frames v s) (hcs : ∀ c ∈ cs, isSpace c = true) :
    ∃ s', run s cs = some s' ∧ Ended frames v s' := by
  cases cs with
  | nil => exact ⟨s, rfl, h⟩
  | cons c cs =>
    obtain ⟨hc, hcs⟩ := List.forall_mem_cons.1 hcs
    refine ⟨⟨frames, .done v⟩, ?_, rfl, .inl rfl⟩
    rw [run_cons, h.step_eq (isWordChar_of_isSpace hc), afterValue_of_isSpace hc, Option.bind_some]
    exact run_of_stays (fun c hc => afterValue_of_isSpace hc) hcs

/-- Inside `frames`, `cs` spells the value `v`: its first character starts a value wherever one may
stand, and the others lead to the end of `v`. -/
def Reads (frames : List Frame) (cs : List Char) (v : Json) : Prop :=
  ∃ c rest s s', cs = c :: rest ∧ isSpace c = false ∧ c ≠ ']' ∧ startValue frames c = some s ∧
    run s rest = some s' ∧ Ended frames v s'

theorem Reads.run_value (h : Reads frames cs v) :
    ∃ s, run ⟨frames, .value⟩ cs = some s ∧ Ended frames v s := by
  obtain ⟨c, rest, s, s', rfl, hc, -, hs, hrun, hend⟩ := h
  refine ⟨s', ?_, hend⟩
  rw [run_cons, step]
  simp [hc, hs, hrun]

theorem Reads.run_firstItem (h : Reads frames cs v) :
    ∃ s, run ⟨frames, .firstItem⟩ cs = some s ∧ Ended frames v s := by
  obtain ⟨c, rest, s, s', rfl, hc, hb, hs, hrun, hend⟩ := h
  refine ⟨s', ?_, hend⟩
  rw [run_cons, step]
  simp [hc, hb, hs, hrun]

/-- A literal is read as a word that begins with a letter. -/
theorem Reads.word {c : Char} {rest : List Char} (ht : cs = c :: rest) (hc : c.isAlpha = true)
    (hw : run ⟨frames, .word [c]⟩ rest = some ⟨frames, .word (rest.reverse ++ [c])⟩)
    (hv : wordValue? (c :: rest) = some v) : Reads frames cs v := by
  have hne {d : Char} (hd : d.isAlpha = false) : c ≠ d := by
    rintro rfl
    simp [hc] at hd
  have hword : isWordChar c = true := by simp [isWordChar, Char.isAlphanum, hc]
  refine ⟨c, rest, _, _, ht, ?_, hne (by decide), ?_, hw, rfl, .inr ⟨_, rfl, by simpa using hv⟩⟩
  · simp [isSpace, hne (d := ' ') rfl, hne (d := '\t') rfl, hne (d := '\n') rfl,
      hne (d := '\r') rfl]
  · simp [startValue, hne (d := '"') rfl, hne (d := '[') rfl, hne (d := '\x7b') rfl, hword]

theorem Reads.str (t : String) : Reads frames (quoted t).toList (.str t) := by
  refine ⟨'"', _, ⟨frames, .text false []⟩, _, String.toList_ofList, rfl, by decide, rfl,
    run_quoted t, rfl, .inl rfl⟩

/-! ## What stands between brackets -/

/-- The text spells the value wherever a value may stand. -/
def Spells (t : String) (v : Json) : Prop := ∀ frames, Reads frames t.toList v

/-- The member text spells the key and the value. -/
def SpellsMember (t : String) (m : String × Json) : Prop :=
  ∃ value, t = quoted m.1 ++ ": " ++ value ∧ Spells value m.2

/-- The blanks in a container: before its first part, before each further one, and before its
closing bracket. -/
structure Gaps where
  first : List Char
  between : List Char
  last : List Char
  isSpace_of_mem : ∀ c ∈ first ++ between ++ last, isSpace c = true

namespace Gaps

/-- The parts of a container with commas between them and its closing bracket. -/
def chars (g : Gaps) (parts : List String) (right : Char) : List Char :=
  g.first ++ (',' :: g.between).intercalate (parts.map String.toList) ++ g.last ++ [right]

theorem isSpace_first (g : Gaps) : ∀ c ∈ g.first, isSpace c = true :=
  fun c hc => g.isSpace_of_mem c (by simp [hc])

theorem isSpace_between (g : Gaps) : ∀ c ∈ g.between, isSpace c = true :=
  fun c hc => g.isSpace_of_mem c (by simp [hc])

theorem isSpace_last (g : Gaps) : ∀ c ∈ g.last, isSpace c = true :=
  fun c hc => g.isSpace_of_mem c (by simp [hc])

/-- The blanks behind the first part. -/
def next (g : Gaps) : Gaps where
  first := g.between
  between := g.between
  last := g.last
  isSpace_of_mem c hc := by
    simp only [List.mem_append, or_self] at hc
    exact hc.elim (g.isSpace_between c) (g.isSpace_last c)

theorem chars_singleton (g : Gaps) (t : String) (right : Char) :
    g.chars [t] right = g.first ++ (t.toList ++ (g.last ++ [right])) := by
  simp [chars]

theorem chars_cons_cons (g : Gaps) (t t' : String) (ts : List String) (right : Char) :
    g.chars (t :: t' :: ts) right =
      g.first ++ (t.toList ++ (',' :: g.next.chars (t' :: ts) right)) := by
  simp [chars, next, List.intercalate_cons_cons]

/-- Every part stands on a line of its own. -/
def lines (depth : Nat) : Gaps where
  first := (newLine (depth + 1)).toList
  between := (newLine (depth + 1)).toList
  last := (newLine depth).toList
  isSpace_of_mem c hc := by
    simp only [List.mem_append, or_self] at hc
    exact hc.elim (isSpace_newLine _ c) (isSpace_newLine _ c)

/-- The parts stand on one line, with a space behind each comma. -/
def spaces : Gaps where
  first := []
  between := [' ']
  last := []
  isSpace_of_mem c hc := by
    rw [List.mem_singleton.1 hc]
    rfl

end Gaps

theorem toList_stacked {left right : String} {l r : Char} {depth : Nat} {parts : List String}
    (hl : left.toList = [l]) (hr : right.toList = [r]) (h : parts ≠ []) :
    (stacked left right depth parts).toList = l :: (Gaps.lines depth).chars parts r := by
  simp [stacked, Gaps.chars, Gaps.lines, List.isEmpty_iff, h, hl, hr, String.toList_intercalate]

theorem toList_bracketed {left right : String} {l r : Char} (hl : left.toList = [l])
    (hr : right.toList = [r]) (parts : List String) :
    (bracketed left right parts).toList = l :: Gaps.spaces.chars parts r := by
  simp [bracketed, Gaps.chars, Gaps.spaces, hl, hr, String.toList_intercalate]

/-- From one of the modes in which an item may start, the items of an array are read one by one. -/
theorem run_items {g : Gaps} {ts : List String} {vs done : List Json} {mode : Mode}
    (h : List.Forall₂ Spells ts vs) (hne : ts ≠ []) (hmode : mode = .value ∨ mode = .firstItem) :
    run ⟨.arr done :: frames, mode⟩ (g.chars ts ']') =
      some ⟨frames, .done (.arr (done.reverse ++ vs))⟩ := by
  induction h generalizing g done mode with
  | nil => exact absurd rfl hne
  | @cons t v ts vs ht hts ih =>
    have blanks : run ⟨.arr done :: frames, mode⟩ g.first = some ⟨.arr done :: frames, mode⟩ := by
      refine run_of_stays (fun c hc => ?_) g.isSpace_first
      rcases hmode with rfl | rfl <;> simp [step, hc]
    have item : ∃ s, run ⟨.arr done :: frames, mode⟩ t.toList = some s ∧
        Ended (.arr done :: frames) v s := by
      rcases hmode with rfl | rfl
      · exact (ht _).run_value
      · exact (ht _).run_firstItem
    obtain ⟨s, hs, hend⟩ := item
    cases hts with
    | nil =>
      obtain ⟨s', hs', hend'⟩ := hend.run_blanks g.isSpace_last
      rw [g.chars_singleton, run_append, blanks, Option.bind_some, run_append, hs,
        Option.bind_some, run_append, hs', Option.bind_some, run_cons, hend'.step_eq (by decide)]
      simp [run, afterValue, isSpace]
    | @cons t' v' ts vs ht' hts =>
      rw [g.chars_cons_cons, run_append, blanks, Option.bind_some, run_append, hs,
        Option.bind_some, run_cons, hend.step_eq (by decide)]
      change run ⟨.arr (v :: done) :: frames, .value⟩ _ = _
      rw [ih (by simp) (.inl rfl)]
      simp

/-- A member from before the blanks in front of its key to the end of its value. -/
theorem run_member {m : String × Json} {t : String} {mode : Mode} (frames : List Frame)
    (done : List (String × Json)) (hcs : ∀ c ∈ cs, isSpace c = true) (ht : SpellsMember t m)
    (hmode : mode = .key ∨ mode = .firstKey) :
    ∃ s, run ⟨.obj done :: frames, mode⟩ (cs ++ t.toList) = some s ∧
      Ended (.field done m.1 :: frames) m.2 s := by
  obtain ⟨key, v⟩ := m
  obtain ⟨value, rfl, hv⟩ := ht
  obtain ⟨s, hs, hend⟩ := (hv (.field done key :: frames)).run_value
  refine ⟨s, ?_, hend⟩
  have blanks : run ⟨.obj done :: frames, mode⟩ cs = some ⟨.obj done :: frames, mode⟩ := by
    refine run_of_stays (fun c hc => ?_) hcs
    rcases hmode with rfl | rfl <;> simp [step, hc]
  have quote : step ⟨.obj done :: frames, mode⟩ '"' =
      some ⟨.obj done :: frames, .text true []⟩ := by
    rcases hmode with rfl | rfl <;> rfl
  have text : (quoted key ++ ": " ++ value).toList =
      '"' :: (key.toList.flatMap charText ++ ['"'] ++ (':' :: ' ' :: value.toList)) := by
    simp [quoted]
  rw [run_append, blanks, Option.bind_some, text, run_cons, quote, Option.bind_some, run_append,
    run_quoted, Option.bind_some]
  exact hs

/-- From one of the modes in which a key may start, the members of an object are read one by one. -/
theorem run_members {g : Gaps} {ts : List String} {ms done : List (String × Json)} {mode : Mode}
    (h : List.Forall₂ SpellsMember ts ms) (hne : ts ≠ [])
    (hmode : mode = .key ∨ mode = .firstKey) :
    run ⟨.obj done :: frames, mode⟩ (g.chars ts '\x7d') =
      some ⟨frames, .done (object (done.reverse ++ ms))⟩ := by
  induction h generalizing g done mode with
  | nil => exact absurd rfl hne
  | @cons t m ts ms ht hts ih =>
    obtain ⟨s, hs, hend⟩ := run_member frames done g.isSpace_first ht hmode
    cases hts with
    | nil =>
      obtain ⟨s', hs', hend'⟩ := hend.run_blanks g.isSpace_last
      rw [g.chars_singleton, ← List.append_assoc, run_append, hs, Option.bind_some, run_append,
        hs', Option.bind_some, run_cons, hend'.step_eq (by decide)]
      simp [run, afterValue, isSpace]
    | @cons t' m' ts ms ht' hts =>
      rw [g.chars_cons_cons, ← List.append_assoc, run_append, hs, Option.bind_some, run_cons,
        hend.step_eq (by decide)]
      change run ⟨.obj (m :: done) :: frames, .key⟩ _ = _
      rw [ih (by simp) (.inl rfl)]
      simp

/-- The items of an array behind its opening bracket. -/
theorem reads_items {g : Gaps} {ts : List String} {vs : List Json}
    (h : List.Forall₂ Spells ts vs) (hne : ts ≠ []) (hcs : cs = '[' :: g.chars ts ']') :
    Reads frames cs (.arr vs) :=
  ⟨'[', _, ⟨.arr [] :: frames, .firstItem⟩, _, hcs, rfl, by decide, rfl,
    run_items h hne (.inr rfl), rfl, .inl rfl⟩

/-- The members of an object behind its opening bracket. -/
theorem reads_members {g : Gaps} {ts : List String} {ms : List (String × Json)}
    (h : List.Forall₂ SpellsMember ts ms) (hms : (ms.map (·.1)).Nodup) (hne : ts ≠ [])
    (hcs : cs = '\x7b' :: g.chars ts '\x7d') : Reads frames cs (.obj ms) := by
  refine ⟨'\x7b', _, ⟨.obj [] :: frames, .firstKey⟩, _, hcs, rfl, by decide, rfl,
    run_members h hne (.inr rfl), rfl, .inl ?_⟩
  rw [List.reverse_nil, List.nil_append, object, lastOfEach_of_nodup hms]

theorem reads_no_items (hcs : cs = ['[', ']']) : Reads frames cs (.arr []) :=
  ⟨'[', [']'], _, _, hcs, rfl, by decide, rfl, rfl, rfl, .inl rfl⟩

theorem reads_no_members (hcs : cs = ['\x7b', '\x7d']) : Reads frames cs (.obj []) :=
  ⟨'\x7b', ['\x7d'], _, _, hcs, rfl, by decide, rfl, rfl, rfl, .inl rfl⟩

theorem reads_arr {ts : List String} {vs : List Json} {depth : Nat}
    (h : List.Forall₂ Spells ts vs) : Spells (stacked "[" "]" depth ts) (.arr vs) := by
  intro frames
  cases h with
  | nil => exact reads_no_items (by simp [stacked])
  | cons ht hts =>
    exact reads_items (.cons ht hts) (by simp) (toList_stacked (by simp) (by simp) (by simp))

theorem reads_obj {ts : List String} {ms : List (String × Json)} {depth : Nat}
    (h : List.Forall₂ SpellsMember ts ms) (hms : (ms.map (·.1)).Nodup) :
    Spells (stacked "\x7b" "\x7d" depth ts) (.obj ms) := by
  intro frames
  cases h with
  | nil => exact reads_no_members (by simp [stacked])
  | cons ht hts =>
    exact reads_members (.cons ht hts) hms (by simp) (toList_stacked (by simp) (by simp) (by simp))

mutual

/-- A textual value is spelled by its written form. -/
theorem spells_prettyAt (depth : Nat) : ∀ v : Json, IsTextual v → Spells (prettyAt depth v) v
  | .null, _ => fun _ => .word (by simp [prettyAt]; exact ⟨rfl, rfl⟩) rfl rfl rfl
  | .bool true, _ => fun _ => .word (by simp [prettyAt]; exact ⟨rfl, rfl⟩) rfl rfl rfl
  | .bool false, _ => fun _ => .word (by simp [prettyAt]; exact ⟨rfl, rfl⟩) rfl rfl rfl
  | .int _, h => h.elim
  | .decimal _, h => h.elim
  | .str t, _ => fun _ => .str t
  | .arr items, h => reads_arr (spells_prettyItems (depth + 1) items h)
  | .obj members, h => reads_obj (spells_prettyMembers (depth + 1) members h.2) h.1

theorem spells_prettyItems (depth : Nat) : ∀ vs : List Json, AllTextual vs →
    List.Forall₂ Spells (prettyItems depth vs) vs
  | [], _ => .nil
  | v :: vs, h => .cons (spells_prettyAt depth v h.1) (spells_prettyItems depth vs h.2)

theorem spells_prettyMembers (depth : Nat) : ∀ ms : List (String × Json), AllTextualMembers ms →
    List.Forall₂ SpellsMember (prettyMembers depth ms) ms
  | [], _ => .nil
  | (_, v) :: ms, h =>
    .cons ⟨_, rfl, spells_prettyAt depth v h.1⟩ (spells_prettyMembers depth ms h.2)

end

end Reader

theorem read?_of_spells {v : Json} (h : Reader.Spells (prettyAt 0 v) v) :
    read? (v.pretty ++ "\n") = some v := by
  obtain ⟨s, hs, hend⟩ := (h []).run_value
  have line : Reader.run s ['\n'] = some ⟨[], .done v⟩ := by
    rw [Reader.run_cons, hend.step_eq (by decide)]
    rfl
  rw [read?, String.toList_append, Reader.run_append]
  change (((Reader.run _ (prettyAt 0 v).toList).bind fun s => Reader.run s ['\n']).bind _) = _
  rw [hs, Option.bind_some, line]
  rfl

/-- **A textual value is read back** from its written form, with or without a blank line after
it. -/
theorem read?_pretty {v : Json} (h : v.IsTextual) : read? (v.pretty ++ "\n") = some v :=
  read?_of_spells (Reader.spells_prettyAt 0 v h)

/-! ## Line ends -/

theorem return_not_mem_hexDigits (width n : Nat) : '\r' ∉ Text.hexDigits width n := by
  induction width generalizing n with
  | zero => simp [Text.hexDigits]
  | succ width ih =>
    have digit : ∀ n < 16, '\r' ≠ Text.hexDigit n := by decide
    simp only [Text.hexDigits, List.mem_append, List.mem_singleton, not_or]
    exact ⟨ih _, digit _ (Nat.mod_lt _ (by decide))⟩

theorem return_not_mem_charText (c : Char) : '\r' ∉ charText c := by
  have unit (u : Nat) : '\r' ∉ unitEscape u := by
    simp [unitEscape, return_not_mem_hexDigits]
  rw [charText]
  split
  · decide
  split
  · decide
  split
  · rename_i h
    rintro hr
    rw [← List.mem_singleton.1 hr] at h
    exact absurd h (by decide)
  repeat' split
  all_goals first
    | decide
    | simp [unit]

theorem return_not_mem_quoted (t : String) : '\r' ∉ (quoted t).toList := by
  simp [quoted, return_not_mem_charText]

theorem return_not_mem_stacked {left right : String} {depth : Nat} {parts : List String}
    (hl : '\r' ∉ left.toList) (hr : '\r' ∉ right.toList) (h : ∀ t ∈ parts, '\r' ∉ t.toList) :
    '\r' ∉ (stacked left right depth parts).toList := by
  have line (depth : Nat) : '\r' ∉ (newLine depth).toList := by
    simp [newLine, List.mem_replicate]
  have joined : '\r' ∉ (("," ++ newLine (depth + 1)).intercalate parts).toList := by
    intro hmem
    rcases Text.mem_of_mem_intercalate hmem with hmem | ⟨t, ht, hmem⟩
    · simp [line] at hmem
    · exact h t ht hmem
  rw [stacked]
  split
  · simp [hl, hr]
  · simp only [String.toList_append, List.mem_append, not_or]
    exact ⟨⟨⟨⟨hl, line _⟩, joined⟩, line _⟩, hr⟩

mutual

/-- A textual value is written without carriage returns. -/
theorem return_not_mem_prettyAt (depth : Nat) : ∀ v : Json, IsTextual v →
    '\r' ∉ (prettyAt depth v).toList
  | .null, _ => by simp [prettyAt]
  | .bool b, _ => by cases b <;> simp [prettyAt]
  | .int _, h => h.elim
  | .decimal _, h => h.elim
  | .str t, _ => return_not_mem_quoted t
  | .arr items, h =>
    return_not_mem_stacked (by simp) (by simp) (return_not_mem_prettyItems (depth + 1) items h)
  | .obj members, h =>
    return_not_mem_stacked (by simp) (by simp)
      (return_not_mem_prettyMembers (depth + 1) members h.2)

theorem return_not_mem_prettyItems (depth : Nat) : ∀ vs : List Json, AllTextual vs →
    ∀ t ∈ prettyItems depth vs, '\r' ∉ t.toList
  | [], _ => by simp [prettyItems]
  | v :: vs, h => by
    simp only [prettyItems, List.forall_mem_cons]
    exact ⟨return_not_mem_prettyAt depth v h.1, return_not_mem_prettyItems depth vs h.2⟩

theorem return_not_mem_prettyMembers (depth : Nat) : ∀ ms : List (String × Json),
    AllTextualMembers ms → ∀ t ∈ prettyMembers depth ms, '\r' ∉ t.toList
  | [], _ => by simp [prettyMembers]
  | (k, v) :: ms, h => by
    simp only [prettyMembers, List.forall_mem_cons]
    refine ⟨?_, return_not_mem_prettyMembers depth ms h.2⟩
    simp [return_not_mem_quoted, return_not_mem_prettyAt depth v h.1]

end

theorem return_not_mem_pretty {v : Json} (h : v.IsTextual) : '\r' ∉ (v.pretty ++ "\n").toList := by
  rw [pretty, String.toList_append, List.mem_append, not_or]
  exact ⟨return_not_mem_prettyAt 0 v h, by simp⟩

end CrateBook.Json
