import CrateBook.Proofs.Path.Siblings

/-!
# Paths that stay below a directory

A relative path may climb with parent references, as long as it does not climb out of the directory
that it is looked up in: `inside?` follows its names and gives those that are left. A path that
stays names something below every directory, and one that does not names the same place from each of
several directories, so that it is below at most one of them (`leadsBelow_iff`).
-/

namespace CrateBook.Path

variable {s : String} {names names' rest : List String}

/-- The names below a directory that names lead to when they go on from some of its names; none when
they climb out of it. -/
def insideFrom (names : List String) : List String → Option (List String)
  | [] => some names
  | name :: rest =>
    if name ≠ ".." then insideFrom (names ++ [name]) rest
    else if names = [] then none
    else insideFrom names.dropLast rest

/-- The names below a directory that a text leads to, none when it leads out of it on the way. -/
def inside? (s : String) : Option (List String) :=
  if (ofString s).root = "" then insideFrom [] (ofString s).parts else none

/-- The place is below the one of a path. -/
def IsBelow (out : Path) (place : List String) : Prop :=
  ∃ names, names ≠ [] ∧ place = out.place ++ names

/-- The text names something below any directory that it is looked up in. -/
def LeadsBelow (s : String) : Prop := ∃ names, names ≠ [] ∧ inside? s = some names

/-- Names that stay inside lead to the place below of the names that are left. -/
theorem foldl_step_of_insideFrom (place : List String) (hnames : ∀ n ∈ names, IsPlain n)
    (hrest : ∀ n ∈ rest, IsName n) (h : insideFrom names rest = some names') :
    rest.foldl Disk.step (place ++ names) = place ++ names' := by
  induction rest generalizing names with
  | nil =>
    obtain rfl := Option.some.inj h
    rfl
  | cons name rest ih =>
    obtain ⟨hname, hlater⟩ := List.forall_mem_cons.1 hrest
    rw [List.foldl_cons]
    rw [insideFrom] at h
    split at h
    · rename_i hdots
      rw [step_plain _ hdots, List.append_assoc]
      refine ih (fun n hn => ?_) hlater h
      rcases List.mem_append.1 hn with hn | hn
      · exact hnames n hn
      · rw [List.mem_singleton.1 hn]
        exact ⟨hname, hdots⟩
    · rename_i hdots
      obtain rfl := not_not.1 hdots
      split at h
      · cases h
      · rename_i hne
        obtain ⟨first, tail, rfl⟩ := List.exists_cons_of_ne_nil hne
        rw [step_back (hnames first List.mem_cons_self), List.dropLast_append_of_ne_nil hne]
        exact ih (fun n hn => hnames n (List.mem_of_mem_dropLast hn)) hlater h

/-- Names that climb out of a directory forget which one it was. -/
theorem foldl_step_of_insideFrom_eq_none (place : List String) (h : insideFrom names rest = none) :
    ∃ q, ∀ l, IsPlain l → rest.foldl Disk.step (place ++ l :: names) = q := by
  -- The name `l` of the directory stays in place until the names climb out, which takes it away.
  induction rest generalizing names with
  | nil => cases h
  | cons name rest ih =>
    rw [insideFrom] at h
    split at h
    · rename_i hdots
      obtain ⟨q, hq⟩ := ih h
      refine ⟨q, fun l hl => ?_⟩
      rw [List.foldl_cons, step_plain _ hdots, List.append_assoc]
      exact hq l hl
    · rename_i hdots
      obtain rfl := not_not.1 hdots
      split at h
      · rename_i hnil
        subst hnil
        refine ⟨rest.foldl Disk.step place, fun l hl => ?_⟩
        rw [List.foldl_cons, step_back hl, List.dropLast_concat]
      · rename_i hne
        obtain ⟨q, hq⟩ := ih h
        refine ⟨q, fun l hl => ?_⟩
        rw [List.foldl_cons, step_back hl, List.dropLast_append_of_ne_nil (by simp),
          List.dropLast_cons_of_ne_nil hne]
        exact hq l hl

theorem place_child (hroot : (ofString s).root = "") (out : Path) :
    (out.child s).place = (ofString s).parts.foldl Disk.step out.place := by
  rw [child, join, if_neg (by simp [hroot]), place, List.foldl_append]
  rfl

theorem place_of_inside? (h : inside? s = some names) (out : Path) :
    (out.child s).place = out.place ++ names := by
  rw [inside?] at h
  split at h
  · rename_i hroot
    rw [place_child hroot, ← List.append_nil out.place]
    have hplace := foldl_step_of_insideFrom out.place (fun n hn => by cases hn)
      (clean_ofString s).parts h
    rw [hplace, List.append_nil]
  · cases h

/-- A text that leads out of a directory names one place for all its siblings. -/
theorem place_of_inside?_eq_none (h : inside? s = none) (root : Path) :
    ∃ q, ∀ l, IsPlain l → ((root.child l).child s).place = q := by
  rw [inside?] at h
  split at h
  · rename_i hroot
    obtain ⟨q, hq⟩ := foldl_step_of_insideFrom_eq_none root.place h
    refine ⟨q, fun l hl => ?_⟩
    rw [place_child hroot, place_child_name hl]
    exact hq l hl
  · rename_i hroot
    refine ⟨(ofString s).place, fun l _ => ?_⟩
    rw [child, join, if_pos (by simpa using hroot)]

theorem leadsBelow_iff : LeadsBelow s ↔ ∀ out, IsBelow out (out.child s).place := by
  refine ⟨?_, fun h => ?_⟩
  · rintro ⟨names, hne, hinside⟩ out
    exact ⟨names, hne, place_of_inside? hinside out⟩
  · cases hinside : inside? s with
    | some names =>
      obtain ⟨names', hne, hplace⟩ := h here
      rw [place_of_inside? hinside] at hplace
      obtain rfl := List.append_cancel_left hplace
      exact ⟨names, hne, hinside⟩
    | none =>
      -- One place cannot be below two directories.
      obtain ⟨q, hq⟩ := place_of_inside?_eq_none hinside here
      obtain ⟨names, -, ha⟩ := h (here.child "a")
      obtain ⟨names', -, hb⟩ := h (here.child "b")
      rw [hq "a" (by decide), place_child_name (by decide)] at ha
      rw [hq "b" (by decide), place_child_name (by decide)] at hb
      rw [ha] at hb
      simp at hb

end CrateBook.Path
