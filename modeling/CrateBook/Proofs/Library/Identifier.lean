import Mathlib
import CrateBook.Library.PageName

/-!
# Identifiers

An identifier is a non-empty text of ASCII letters, digits and underscores. None of its characters
separates names in a path, a page name or an item path, and none is blank.
-/

namespace CrateBook

/-- A character of an identifier. -/
def isIdentifierChar (c : Char) : Bool := c.isAlphanum || c = '_'

/-- The text is an identifier. -/
def IsIdentifier (s : String) : Prop := s ≠ "" ∧ s.toList.all isIdentifierChar = true

instance : DecidablePred IsIdentifier := fun s => inferInstanceAs (Decidable (s ≠ "" ∧ _))

variable {s : String} {c : Char}

/-- Page names have the characters of identifiers, and hyphens. -/
theorem isPageChar_iff : isPageChar c = true ↔ isIdentifierChar c = true ∨ c = '-' := by
  simp [isPageChar, isIdentifierChar]

theorem isPageChar_of_isIdentifierChar (h : isIdentifierChar c = true) : isPageChar c = true :=
  isPageChar_iff.2 (.inl h)

theorem isBlank_of_isPageChar (h : isPageChar c = true) : Text.isBlank c = false := by
  simp only [isPageChar, Char.isAlphanum, Char.isAlpha, Char.isUpper, Char.isLower, Char.isDigit,
    Bool.or_eq_true, Bool.and_eq_true, decide_eq_true_eq, UInt32.le_iff_toNat_le,
    ge_iff_le] at h
  have hnat : c.toNat = c.val.toNat := rfl
  rcases h with (h | rfl) | rfl
  · simp only [Text.isBlank, hnat, Bool.or_eq_false_iff, Bool.and_eq_false_iff,
      decide_eq_false_iff_not, beq_eq_false_iff_ne]
    simp at h
    omega
  · decide
  · decide

theorem IsIdentifier.char (h : IsIdentifier s) (hc : c ∈ s.toList) : isIdentifierChar c = true :=
  List.all_eq_true.1 h.2 c hc

theorem IsIdentifier.ne_of_mem (h : IsIdentifier s) (hc : c ∈ s.toList) {d : Char}
    (hd : isIdentifierChar d = false) : c ≠ d := by
  rintro rfl
  rw [h.char hc] at hd
  cases hd

theorem IsIdentifier.not_mem (h : IsIdentifier s) {d : Char} (hd : isIdentifierChar d = false) :
    d ∉ s.toList := fun hmem => h.ne_of_mem hmem hd rfl

theorem IsIdentifier.exists_cons (h : IsIdentifier s) : ∃ c cs, s.toList = c :: cs := by
  cases hs : s.toList with
  | nil => exact absurd (String.toList_eq_nil_iff.1 hs) h.1
  | cons c cs => exact ⟨c, cs, rfl⟩

end CrateBook
