import Mathlib
import CrateBook.Text.Blank

/-!
# Trimming

Trimming drops what is to be dropped at an end of a text and stops at the first character that is
not: `trimOf_eq_self` where there is nothing to drop, `trimEnd_append` where all of a text is. A
number that is written out ends in a digit, so nothing is dropped behind it.
-/

namespace CrateBook.Text

variable {p : Char → Bool} {cs ds : List Char} {s t : String}

theorem dropEndWhile_eq_self (h : ∀ c, cs.getLast? = some c → p c = false) :
    dropEndWhile p cs = cs := by
  rw [dropEndWhile]
  cases hr : cs.reverse with
  | nil => simpa using hr
  | cons c rest =>
    have hlast : cs.getLast? = some c := by rw [← List.head?_reverse, hr]; rfl
    rw [List.dropWhile_cons_of_neg (by simp [h c hlast]), ← hr, List.reverse_reverse]

theorem dropEndWhile_append (h : ∀ c ∈ ds, p c = true) :
    dropEndWhile p (cs ++ ds) = dropEndWhile p cs := by
  rw [dropEndWhile, dropEndWhile, List.reverse_append, List.dropWhile_append_of_pos]
  exact fun c hc => h c (List.mem_reverse.1 hc)

theorem dropWhile_eq_self (h : ∀ c, cs.head? = some c → p c = false) : cs.dropWhile p = cs := by
  cases cs with
  | nil => rfl
  | cons c rest => rw [List.dropWhile_cons_of_neg (by simp [h c rfl])]

/-- Nothing is trimmed when neither end is to be dropped. -/
theorem trimOf_eq_self (hfirst : ∀ c, s.toList.head? = some c → p c = false)
    (hlast : ∀ c, s.toList.getLast? = some c → p c = false) : trimOf p s = s := by
  rw [trimOf, trimEndOf, trimStartOf, String.toList_ofList, dropWhile_eq_self hfirst,
    dropEndWhile_eq_self hlast, String.ofList_toList]

theorem trim_eq_self (h : ∀ c ∈ s.toList, isBlank c = false) : trim s = s :=
  trimOf_eq_self (fun c hc => h c (List.mem_of_mem_head? hc))
    fun c hc => h c (List.mem_of_getLast? hc)

/-- What is left out at the end is all to be dropped. -/
theorem dropEndWhile_append_dropped {α : Type} (p : α → Bool) (l : List α) :
    ∃ dropped, l = dropEndWhile p l ++ dropped ∧ ∀ a ∈ dropped, p a = true := by
  refine ⟨(l.reverse.takeWhile p).reverse, ?_, fun a ha => ?_⟩
  · rw [dropEndWhile, ← List.reverse_append, List.takeWhile_append_dropWhile, List.reverse_reverse]
  · exact List.mem_takeWhile_imp (List.mem_reverse.1 ha)

theorem of_head?_dropWhile {c : Char} (h : (cs.dropWhile p).head? = some c) : p c = false := by
  have hhead := List.head?_dropWhile_not p cs
  rw [h] at hhead
  simpa using hhead

/-- Behind a text that has been trimmed at its end stands nothing that is dropped. -/
theorem of_getLast?_trimEndOf {c : Char} (h : (trimEndOf p s).toList.getLast? = some c) :
    p c = false := by
  rw [trimEndOf, String.toList_ofList, dropEndWhile, List.getLast?_reverse] at h
  exact of_head?_dropWhile h

/-- Trimming leaves out what is to be dropped, at both ends. -/
theorem exists_trimOf (p : Char → Bool) (s : String) : ∃ before after : List Char,
    s.toList = before ++ (trimOf p s).toList ++ after ∧ (∀ c ∈ before, p c = true) ∧
      ∀ c ∈ after, p c = true := by
  obtain ⟨after, hafter, hdropped⟩ := dropEndWhile_append_dropped p (s.toList.dropWhile p)
  refine ⟨s.toList.takeWhile p, after, ?_, fun c => List.mem_takeWhile_imp, hdropped⟩
  rw [trimOf, trimEndOf, trimStartOf, String.toList_ofList, String.toList_ofList, List.append_assoc,
    ← hafter, List.takeWhile_append_dropWhile]

theorem count_dropWhile {c : Char} (h : p c = false) (cs : List Char) :
    (cs.dropWhile p).count c = cs.count c := by
  have hdropped : (cs.takeWhile p).count c = 0 :=
    List.count_eq_zero.2 fun hmem => by simpa [h] using List.mem_takeWhile_imp hmem
  conv_rhs => rw [← List.takeWhile_append_dropWhile (p := p) (l := cs)]
  rw [List.count_append, hdropped, Nat.zero_add]

/-- Trimming the end leaves out only what is to be dropped. -/
theorem count_trimEndOf {c : Char} (h : p c = false) (s : String) :
    (trimEndOf p s).toList.count c = s.toList.count c := by
  rw [trimEndOf, String.toList_ofList, dropEndWhile, List.count_reverse, count_dropWhile h,
    List.count_reverse]

theorem count_trimStartOf {c : Char} (h : p c = false) (s : String) :
    (trimStartOf p s).toList.count c = s.toList.count c := by
  rw [trimStartOf, String.toList_ofList, count_dropWhile h]

/-- The first character of a text that has been trimmed is none of those that are dropped. -/
theorem of_head?_trimOf {c : Char} (h : (trimOf p s).toList.head? = some c) : p c = false := by
  rw [trimOf, trimEndOf, trimStartOf, String.toList_ofList, String.toList_ofList] at h
  obtain ⟨rest, hrest, -⟩ := dropEndWhile_append_dropped p (s.toList.dropWhile p)
  have hhead : (s.toList.dropWhile p).head? = some c := by
    rw [hrest, List.head?_append_of_ne_nil _ (by rintro hnil; simp [hnil] at h), h]
  exact of_head?_dropWhile hhead

/-- A text that has been trimmed begins and ends with nothing that is dropped. -/
theorem trimOf_trimOf (p : Char → Bool) (s : String) : trimOf p (trimOf p s) = trimOf p s :=
  trimOf_eq_self (fun _ => of_head?_trimOf) fun _ => of_getLast?_trimEndOf

theorem mem_of_mem_dropEndWhile {c : Char} (h : c ∈ dropEndWhile p cs) : c ∈ cs := by
  rw [dropEndWhile, List.mem_reverse] at h
  exact List.mem_reverse.1 ((List.dropWhile_suffix p).subset h)

theorem mem_of_mem_trimOf {c : Char} (h : c ∈ (trimOf p s).toList) : c ∈ s.toList := by
  rw [trimOf, trimEndOf, trimStartOf, String.toList_ofList, String.toList_ofList] at h
  exact (List.dropWhile_suffix p).subset (mem_of_mem_dropEndWhile h)

/-- Blanks at the end of a text are trimmed. -/
theorem trimEnd_append (ht : allBlank t = true)
    (hlast : ∀ c, s.toList.getLast? = some c → isBlank c = false) : trimEnd (s ++ t) = s := by
  rw [trimEnd, trimEndOf, String.toList_append, dropEndWhile_append (List.all_eq_true.1 ht),
    dropEndWhile_eq_self hlast, String.ofList_toList]

/-- Blanks around a text that begins and ends with none are trimmed. -/
theorem trim_append_append_of_ends {l r : String} (hl : allBlank l = true) (hr : allBlank r = true)
    (hne : s ≠ "") (hfirst : ∀ c, s.toList.head? = some c → isBlank c = false)
    (hlast : ∀ c, s.toList.getLast? = some c → isBlank c = false) : trim (l ++ s ++ r) = s := by
  have hstart : trimStart (l ++ s ++ r) = s ++ r := by
    obtain ⟨c, rest, hcons⟩ := List.exists_cons_of_ne_nil (mt String.toList_eq_nil_iff.1 hne)
    rw [trimStart, trimStartOf, ← String.toList_inj, String.toList_ofList, String.toList_append,
      String.toList_append, List.append_assoc,
      List.dropWhile_append_of_pos (List.all_eq_true.1 hl), String.toList_append]
    rw [hcons] at hfirst ⊢
    exact dropWhile_eq_self hfirst
  rw [trim, trimOf]
  exact (congrArg trimEnd hstart).trans (trimEnd_append hr hlast)

/-- Blanks around a text are trimmed. -/
theorem trim_append_append {l r : String} (hl : allBlank l = true) (hr : allBlank r = true)
    (hne : s ≠ "") (hs : ∀ c ∈ s.toList, isBlank c = false) : trim (l ++ s ++ r) = s :=
  trim_append_append_of_ends hl hr hne (fun c hc => hs c (List.mem_of_mem_head? hc))
    fun c hc => hs c (List.mem_of_getLast? hc)

/-! ## Numbers -/

theorem isDigit_of_mem_toString {n : Nat} {c : Char} (h : c ∈ (toString n).toList) :
    c.isDigit = true := by
  rw [Nat.toString_eq_repr, Nat.toList_repr] at h
  exact Nat.isDigit_of_mem_toDigits (by decide) (by decide) h

theorem isBlank_of_isDigit {c : Char} (h : c.isDigit = true) : isBlank c = false := by
  have hc : 48 ≤ c.toNat ∧ c.toNat ≤ 57 := Char.isDigit_iff_toNat.1 h
  simp only [isBlank, Bool.or_eq_false_iff, Bool.and_eq_false_iff, decide_eq_false_iff_not,
    beq_eq_false_iff_ne]
  omega

/-- A text that ends in a number does not end in a blank. -/
theorem isBlank_getLast?_append_toString (s : String) (n : Nat) {c : Char}
    (h : (s ++ toString n).toList.getLast? = some c) : isBlank c = false := by
  have hne : (toString n).toList ≠ [] := by simp
  rw [String.toList_append, List.getLast?_append_of_ne_nil _ hne] at h
  exact isBlank_of_isDigit (isDigit_of_mem_toString (List.mem_of_getLast? h))

end CrateBook.Text
