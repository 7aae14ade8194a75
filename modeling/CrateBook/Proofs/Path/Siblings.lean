import CrateBook.Proofs.Path.Written

/-!
# The same name in sibling directories

What a text names in a directory of a given one is either inside that directory, at the same place
in each of them, or in no way depends on it, when the text leads out of it or starts at the root
(`place_child_child_cases`). So two texts that never name the same place in one directory never do
in two of them (`place_siblings_ne`).
-/

namespace CrateBook.Path

variable {root : Path} {s t name name' : String}

/-- From inside a directory with a plain name, `..` leads back by one name. -/
theorem step_back {place inside : List String} (hname : IsPlain name) :
    Disk.step (place ++ name :: inside) ".." = (place ++ name :: inside).dropLast := by
  have hmem : name ∈ place ++ name :: inside := by simp
  have hslash : (place ++ name :: inside == ["/"]) = false := by
    rw [beq_eq_false_iff_ne]
    intro he
    rw [he, List.mem_singleton] at hmem
    rw [hmem] at hname
    exact absurd hname (by decide)
  have hall : (place ++ name :: inside).all (· == "..") = false := by
    rw [List.all_eq_false]
    exact ⟨name, hmem, by simpa using hname.2⟩
  rw [Disk.step, if_neg (by simp), hslash, if_neg Bool.false_ne_true, hall,
    if_neg Bool.false_ne_true]

/-- Going on from inside a directory, a path stays inside or forgets which directory it was. -/
theorem foldl_step_cases (place names inside : List String) :
    (∃ q, ∀ l, IsPlain l → names.foldl Disk.step (place ++ l :: inside) = q) ∨
      ∃ inside', ∀ l, IsPlain l →
        names.foldl Disk.step (place ++ l :: inside) = place ++ l :: inside' := by
  induction names generalizing inside with
  | nil => exact .inr ⟨inside, fun l _ => rfl⟩
  | cons name names ih =>
    by_cases hname : name = ".."
    · subst hname
      rcases List.eq_nil_or_concat inside with rfl | ⟨init, last, rfl⟩
      · refine .inl ⟨names.foldl Disk.step place, fun l hl => ?_⟩
        rw [List.foldl_cons, step_back hl, List.dropLast_concat]
      · have hback (l : String) (hl : IsPlain l) :
            Disk.step (place ++ l :: (init ++ [last])) ".." = place ++ l :: init := by
          rw [step_back hl, ← List.cons_append, ← List.append_assoc, List.dropLast_concat]
        refine (ih init).imp ?_ ?_
        · rintro ⟨q, hq⟩
          exact ⟨q, fun l hl => by rw [List.foldl_cons, List.concat_eq_append, hback l hl, hq l hl]⟩
        · rintro ⟨inside', hq⟩
          exact ⟨inside', fun l hl => by
            rw [List.foldl_cons, List.concat_eq_append, hback l hl, hq l hl]⟩
    · have hon (l : String) :
          Disk.step (place ++ l :: inside) name = place ++ l :: (inside ++ [name]) := by
        rw [step_plain _ hname]
        simp
      refine (ih (inside ++ [name])).imp ?_ ?_
      · rintro ⟨q, hq⟩
        exact ⟨q, fun l hl => by rw [List.foldl_cons, hon, hq l hl]⟩
      · rintro ⟨inside', hq⟩
        exact ⟨inside', fun l hl => by rw [List.foldl_cons, hon, hq l hl]⟩

/-- A text names a place inside of each directory, or one place for all directories. -/
theorem place_child_child_cases (root : Path) (s : String) :
    (∃ q, ∀ l, IsPlain l → ((root.child l).child s).place = q) ∨
      ∃ inside, ∀ l, IsPlain l → ((root.child l).child s).place = root.place ++ l :: inside := by
  by_cases habsolute : (ofString s).root = ""
  · have hplace (l : String) (hl : IsPlain l) : ((root.child l).child s).place =
        (ofString s).parts.foldl Disk.step (root.place ++ [l]) := by
      rw [child, join, if_neg (by simp [habsolute]), child_name hl.1, place, List.foldl_append,
        List.foldl_append, List.foldl_cons, List.foldl_nil, step_plain _ hl.2]
      rfl
    refine (foldl_step_cases root.place (ofString s).parts []).imp ?_ ?_
    · rintro ⟨q, hq⟩
      exact ⟨q, fun l hl => (hplace l hl).trans (hq l hl)⟩
    · rintro ⟨inside, hq⟩
      exact ⟨inside, fun l hl => (hplace l hl).trans (hq l hl)⟩
  · refine .inl ⟨(ofString s).place, fun l _ => ?_⟩
    rw [child, join, if_pos (by simpa using habsolute)]

/-- Two texts that name different places in each directory do so in any two directories. -/
theorem place_siblings_ne
    (hne : ∀ l, IsPlain l → ((root.child l).child s).place ≠ ((root.child l).child t).place)
    (hname : IsPlain name) (hname' : IsPlain name') :
    ((root.child name).child s).place ≠ ((root.child name').child t).place := by
  have hs := place_child_child_cases root s
  have ht := place_child_child_cases root t
  intro he
  rcases hs with ⟨q, hs⟩ | ⟨inside, hs⟩
  · -- The place of `s` is the same in the directory of `t`.
    exact hne name' hname' ((hs name' hname').trans ((hs name hname).symm.trans he))
  · rcases ht with ⟨q, ht⟩ | ⟨inside', ht⟩
    · exact hne name hname (he.trans ((ht name' hname').trans (ht name hname).symm))
    · have hboth : root.place ++ name :: inside = root.place ++ name' :: inside' :=
        (hs name hname).symm.trans (he.trans (ht name' hname'))
      obtain ⟨rfl, -⟩ := List.cons.inj (List.append_cancel_left hboth)
      exact hne name hname he

end CrateBook.Path
