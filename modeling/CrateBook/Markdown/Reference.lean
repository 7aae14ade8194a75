import CrateBook.Text.Blank

/-!
# Reference links

A reference link is a bracket group, its label, followed by a second group, its reference, with
nothing but blanks between the two. `stripReferences` leaves the label in its place. A group that
no group follows is kept with its brackets, and a bracket that never closes ends the search.
-/

namespace CrateBook.Markdown

/-- Reads to the bracket that closes a group of which `depth` inner groups are open: the text
before that bracket and the text after it. -/
def closeGroup (depth : Nat) : List Char → Option (List Char × List Char)
  | [] => none
  | c :: cs =>
    if c = '[' then (closeGroup (depth + 1) cs).map fun g => (c :: g.1, g.2)
    else if c = ']' then
      match depth with
      | 0 => some ([], cs)
      | d + 1 => (closeGroup d cs).map fun g => (c :: g.1, g.2)
    else (closeGroup depth cs).map fun g => (c :: g.1, g.2)

/-- What follows a group is shorter than the text in which the group was opened. -/
theorem length_of_closeGroup {depth : Nat} {cs : List Char} {g : List Char × List Char}
    (h : closeGroup depth cs = some g) : g.2.length < cs.length := by
  induction cs generalizing depth g with
  | nil => simp [closeGroup] at h
  | cons c cs ih =>
    have step {d : Nat} (h : (closeGroup d cs).map (fun g => (c :: g.1, g.2)) = some g) :
        g.2.length < (c :: cs).length := by
      obtain ⟨g', hg', rfl⟩ := Option.map_eq_some_iff.1 h
      exact Nat.lt_succ_of_lt (ih (g := g') hg')
    unfold closeGroup at h
    split at h
    · exact step h
    · split at h
      · split at h
        · cases h; simp
        · exact step h
      · exact step h

/-- The text after a group at the start of `cs`, blanks before it left out. -/
def afterReference? (cs : List Char) : Option (List Char) :=
  match cs.dropWhile Text.isBlank with
  | [] => none
  | c :: r => if c = '[' then (closeGroup 0 r).map (·.2) else none

/-- What follows a reference is shorter than the text at whose start the reference stands. -/
theorem length_of_afterReference? {cs r : List Char} (h : afterReference? cs = some r) :
    r.length < cs.length := by
  have hle := (List.dropWhile_suffix (l := cs) Text.isBlank).length_le
  rw [afterReference?] at h
  split at h
  · cases h
  · rename_i d r' hd
    split at h
    · obtain ⟨g, hg, rfl⟩ := Option.map_eq_some_iff.1 h
      have := length_of_closeGroup hg
      simp only [hd, List.length_cons] at hle
      omega
    · cases h

/-- Replaces each reference link by its label. -/
def stripRuns : List Char → List Char
  | [] => []
  | c :: cs =>
    if c = '[' then
      match _hg : closeGroup 0 cs with
      | none => c :: cs
      | some g =>
        match _hr : afterReference? g.2 with
        | none => c :: g.1 ++ ']' :: stripRuns g.2
        | some rest => g.1 ++ stripRuns rest
    else c :: stripRuns cs
termination_by cs => cs.length
decreasing_by
  · have := length_of_closeGroup _hg
    simp only [List.length_cons]
    omega
  · have := length_of_closeGroup _hg
    have := length_of_afterReference? _hr
    simp only [List.length_cons]
    omega
  · simp

/-- Replaces each reference link in a text by its label. -/
def stripReferences (s : String) : String := String.ofList (stripRuns s.toList)

end CrateBook.Markdown
