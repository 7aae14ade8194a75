import CrateBook.Listing.Fragment
import CrateBook.Proofs.Path.Written

/-!
# The pages of fragments

A fragment that names anything has a page: `markdownPath_eq_ok` gives its names, which are those of
the fragment but for the extension of the last one. Its place therefore ends in a name with the
extension `.md` (`place_child_markdownPath`), also where the fragment leads out of the directory.
For the fragments of a listing, directories and a name with the extension `.html`,
`markdownPath_html` gives the page itself.
-/

namespace CrateBook

namespace Path

theorem mem_stem {name : String} {c : Char} (h : c ∈ (stem name).toList) : c ∈ name.toList := by
  rw [stem] at h
  split at h
  · rename_i before hdrop
    split at h
    · exact h
    · rw [String.toList_ofList, List.mem_reverse] at h
      have hmem : c ∈ name.toList.reverse.drop
          (name.toList.reverse.takeWhile (· != '.')).length :=
        hdrop ▸ List.mem_cons_of_mem _ h
      exact List.mem_reverse.1 (List.mem_of_mem_drop hmem)
  · exact h

theorem stem_append_ext {base ext : String} (hbase : base ≠ "") (hext : ext ≠ "")
    (hdot : '.' ∉ ext.toList) : stem (base ++ "." ++ ext) = base := by
  have hb : base.toList ≠ [] := by simpa using hbase
  have he : ext.toList ≠ [] := by simpa using hext
  have htake : (base ++ "." ++ ext).toList.reverse.takeWhile (· != '.') = ext.toList.reverse := by
    rw [String.toList_append, String.toList_append, List.reverse_append,
      List.takeWhile_append_of_pos]
    · simp
    · intro c hc
      simp only [bne_iff_ne]
      rintro rfl
      exact hdot (List.mem_reverse.1 hc)
  have hdrop : (base ++ "." ++ ext).toList.reverse.drop ext.toList.reverse.length =
      '.' :: base.toList.reverse := by
    rw [String.toList_append, String.toList_append, List.reverse_append, List.drop_left]
    simp
  rw [stem, htake, hdrop]
  simp [hb, he]

end Path

namespace Listing

open CrateBook.Path

variable {fragment page : String}

theorem isName_stem_append {name : String} (h : IsName name) : IsName (stem name ++ ".md") := by
  refine ⟨?_, ?_, ?_⟩
  · intro he
    simpa using congrArg String.toList he
  · intro he
    have hlen := congrArg List.length (congrArg String.toList he)
    simp at hlen
  · rw [String.toList_append, List.mem_append, not_or]
    exact ⟨fun hmem => h.2.2 (mem_stem hmem), by decide⟩

/-- The path to the page of a fragment. -/
def pageOf (p : Path) : Path := { p with parts := p.parts.dropLast ++ [stem p.name ++ ".md"] }

theorem markdownPath_eq_ok : markdownPath fragment = .ok page ↔
    (ofString fragment).name ≠ "" ∧ page = (pageOf (ofString fragment)).toString := by
  rw [markdownPath, withExtension?]
  by_cases h : (ofString fragment).name = ""
  · simp [h]
  · rw [if_neg (by simpa using h)]
    simp only [Except.ok.injEq, ne_eq, h, not_false_eq_true, true_and]
    exact eq_comm

theorem clean_pageOf {p : Path} (hp : IsClean p) (hname : p.name ≠ "") : IsClean (pageOf p) where
  root := hp.root
  parts := by
    intro n hn
    rw [pageOf] at hn
    rcases List.mem_append.1 hn with hn | hn
    · exact hp.parts n (List.mem_of_mem_dropLast hn)
    · obtain rfl := List.mem_singleton.1 hn
      refine isName_stem_append (hp.parts _ ?_)
      rw [name] at hname ⊢
      cases h : p.parts.getLast? with
      | none => exact absurd (by rw [h]; rfl) hname
      | some last => exact List.mem_of_getLast? h

/-- The path that the page of a fragment spells. -/
theorem ofString_markdownPath (h : markdownPath fragment = .ok page) :
    ofString page = pageOf (ofString fragment) := by
  obtain ⟨hname, rfl⟩ := markdownPath_eq_ok.1 h
  exact ofString_toString (clean_pageOf (clean_ofString _) hname) (by simp [pageOf])

/-- A null character in the path of a page stands in the fragment. -/
theorem hasNull_markdownPath (h : markdownPath fragment = .ok page)
    (hnull : (ofString page).hasNull = true) : (ofString fragment).hasNull = true := by
  rw [ofString_markdownPath h] at hnull
  obtain ⟨n, hn, hmem⟩ := hasNull_eq_true.1 hnull
  rw [hasNull_eq_true]
  rcases List.mem_append.1 hn with hn | hn
  · exact ⟨n, List.mem_of_mem_dropLast hn, hmem⟩
  · obtain rfl := List.mem_singleton.1 hn
    have hlast : '\x00' ∈ (ofString fragment).name.toList := by
      rw [String.toList_append, List.mem_append] at hmem
      exact mem_stem (hmem.resolve_right (by decide))
    rw [name] at hlast
    cases hparts : (ofString fragment).parts.getLast? with
    | none =>
      rw [hparts] at hlast
      cases hlast
    | some last =>
      rw [hparts] at hlast
      exact ⟨last, List.mem_of_getLast? hparts, hlast⟩

theorem intercalate_append_ext (init : List String) (s : String) :
    "/".intercalate (init ++ [s ++ ".md"]) = "/".intercalate (init ++ [s]) ++ ".md" := by
  cases init with
  | nil => simp
  | cons n init =>
    rw [String.intercalate_append_of_ne_nil (by simp) (by simp),
      String.intercalate_append_of_ne_nil (by simp) (by simp)]
    simp [String.append_assoc]

/-- The page of a fragment has the extension `.md`. -/
theorem markdownPath_ends (h : markdownPath fragment = .ok page) :
    ∃ base, page = base ++ ".md" := by
  obtain ⟨_, rfl⟩ := markdownPath_eq_ok.1 h
  refine ⟨(ofString fragment).root ++ "/".intercalate ((ofString fragment).parts.dropLast ++
    [stem (ofString fragment).name]), ?_⟩
  rw [Path.toString, if_neg (by simp [pageOf]), String.append_assoc, ← intercalate_append_ext]
  rfl

/-- The place of the page of a fragment ends in a name with the extension `.md`. -/
theorem place_child_markdownPath (out : Path) (h : markdownPath fragment = .ok page) :
    ∃ place s, (out.child page).place = place ++ [s ++ ".md"] := by
  have hparts : ∃ init, (out.child page).parts =
      init ++ [stem (ofString fragment).name ++ ".md"] := by
    rw [child, ofString_markdownPath h, join]
    split
    · exact ⟨_, rfl⟩
    · exact ⟨_, (List.append_assoc _ _ _).symm⟩
  obtain ⟨init, hinit⟩ := hparts
  refine ⟨_, _, place_of_parts hinit fun he => ?_⟩
  simpa using congrArg List.getLast? (congrArg String.toList he)

/-- The page of a fragment with the extension `.html`. -/
theorem markdownPath_html {dirs : List String} {base : String} (hdirs : ∀ n ∈ dirs, IsName n)
    (hbase : base ≠ "") (hslash : '/' ∉ base.toList) :
    markdownPath ("/".intercalate (dirs ++ [base ++ ".html"])) =
      .ok ("/".intercalate (dirs ++ [base ++ ".md"])) := by
  have hlast : IsName (base ++ ".html") := by
    refine ⟨fun he => ?_, fun he => ?_, ?_⟩
    · simpa using congrArg String.toList he
    · have hlen := congrArg List.length (congrArg String.toList he)
      simp at hlen
    · rw [String.toList_append, List.mem_append, not_or]
      exact ⟨hslash, by decide⟩
  have hall : ∀ n ∈ dirs ++ [base ++ ".html"], IsName n := by
    intro n hn
    rcases List.mem_append.1 hn with hn | hn
    · exact hdirs n hn
    · exact List.mem_singleton.1 hn ▸ hlast
  have hname : (⟨"", dirs ++ [base ++ ".html"]⟩ : Path).name = base ++ ".html" :=
    name_eq_getLast rfl
  have hstem : stem (base ++ ".html") = base := by
    simpa [String.append_assoc] using stem_append_ext hbase (show "html" ≠ "" by decide) (by decide)
  refine markdownPath_eq_ok.2 ?_
  rw [ofString_intercalate hall, hname, pageOf, hname, hstem]
  refine ⟨hlast.1, ?_⟩
  simp [Path.toString]

end Listing

end CrateBook
