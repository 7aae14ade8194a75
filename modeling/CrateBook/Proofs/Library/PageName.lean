import CrateBook.Corpus.Resolver
import CrateBook.Proofs.Corpus.Saved
import CrateBook.Proofs.Library.Identifier
import CrateBook.Proofs.Text.Joining
import CrateBook.Proofs.Text.Trimming
import CrateBook.Proofs.Text.Words

/-!
# Page names are told apart

A page name is a stem with the extension behind it. The stem is a safe name for a file, whatever the
path of the item (`exists_isPageStem`). The page of an item whose path is made of identifiers is
named by these identifiers with hyphens in between (`pageName_intercalate`). Identifiers hold no
hyphen, so items with different paths have different pages (`pageName_injective`), and none of them
is a page of the library itself (`pageName_told_apart`).
-/

namespace CrateBook

namespace Text

/-- Replacing the separator of joined texts that do not hold its first character. -/
theorem replace_intercalate_colons {names : List String} (h : ∀ n ∈ names, ':' ∉ n.toList) :
    replace ("::".intercalate names) "::" "-" = "-".intercalate names := by
  rw [← String.toList_inj, replace, String.toList_ofList, String.toList_intercalate,
    String.toList_intercalate]
  change replaceRuns [':', ':'] ['-'] 0 ([':', ':'].intercalate _) = ['-'].intercalate _
  induction names with
  | nil => rfl
  | cons n names ih =>
    have hn := h n List.mem_cons_self
    have hrest := ih fun m hm => h m (List.mem_cons_of_mem _ hm)
    cases names with
    | nil => simpa using replaceRuns_of_not_mem hn [':'] ['-']
    | cons m names =>
      rw [List.map_cons, List.map_cons, List.intercalate_cons_cons, List.intercalate_cons_cons,
        List.append_assoc, replaceRuns_append hn, List.append_assoc]
      refine congrArg _ ?_
      rw [← List.map_cons, ← hrest]
      rfl

end Text

open CrateBook.Path
open Corpus (Resolver)

variable {names names' : List String}

theorem hyphenate_eq_self {cs : List Char} (h : ∀ c ∈ cs, isPageChar c = true) :
    hyphenate false cs = cs := by
  induction cs with
  | nil => rfl
  | cons c cs ih =>
    rw [hyphenate, if_pos (h c List.mem_cons_self),
      ih fun d hd => h d (List.mem_cons_of_mem _ hd)]

theorem isPageChar_of_mem_hyphenate {inRun : Bool} {cs : List Char} {c : Char}
    (h : c ∈ hyphenate inRun cs) : isPageChar c = true := by
  induction cs generalizing inRun with
  | nil => cases h
  | cons d cs ih =>
    rw [hyphenate] at h
    split at h
    · rcases List.mem_cons.1 h with rfl | h
      · assumption
      · exact ih h
    · split at h
      · exact ih h
      · rcases List.mem_cons.1 h with rfl | h
        · decide
        · exact ih h

/-! ## Stems -/

/-- What stands before the extension of a page: letters, digits, underscores and hyphens, of which
no hyphen is the first or the last. -/
structure IsPageStem (s : String) : Prop where
  ne_empty : s ≠ ""
  char : ∀ c ∈ s.toList, isIdentifierChar c = true ∨ c = '-'
  first : s.toList.head? ≠ some '-'
  last : s.toList.getLast? ≠ some '-'

namespace IsPageStem

variable {s path : String}

theorem not_mem (h : IsPageStem s) {d : Char} (hd : isPageChar d = false) : d ∉ s.toList := by
  intro hmem
  have hchar := isPageChar_iff.2 (h.char d hmem)
  rw [hd] at hchar
  cases hchar

/-- Trimming hyphens leaves a stem, if it leaves anything. -/
theorem of_trimOf (h : ∀ c ∈ s.toList, isPageChar c = true)
    (hne : Text.trimOf (· == '-') s ≠ "") : IsPageStem (Text.trimOf (· == '-') s) where
  ne_empty := hne
  char c hc := isPageChar_iff.1 (h c (Text.mem_of_mem_trimOf hc))
  first hc := by simpa using Text.of_head?_trimOf hc
  last hc := by simpa using Text.of_getLast?_trimEndOf hc

theorem trimOf_eq_self (h : IsPageStem s) : Text.trimOf (· == '-') s = s := by
  apply Text.trimOf_eq_self
  · intro c hc
    apply beq_false_of_ne
    rintro rfl
    exact h.first hc
  · intro c hc
    apply beq_false_of_ne
    rintro rfl
    exact h.last hc

/-- When hyphens for the separators of a path make a stem of it, its page has this stem. -/
theorem pageName_of_replace (h : IsPageStem s) (hparams : '<' ∉ path.toList)
    (hreplace : Text.replace path "::" "-" = s) : pageName path = s ++ ".md" := by
  have htake : path.toList.takeWhile (· != '<') = path.toList := by
    apply List.takeWhile_eq_self_iff.2
    intro c hc
    apply bne_iff_ne.2
    rintro rfl
    exact hparams hc
  have hhyphenate : hyphenate false s.toList = s.toList :=
    hyphenate_eq_self fun c hc => isPageChar_iff.2 (h.char c hc)
  rw [pageName, htake, String.ofList_toList, hreplace, hhyphenate, String.ofList_toList,
    h.trimOf_eq_self]
  simp [h.ne_empty]

/-- A stem is kept as it is. -/
theorem pageName_eq (h : IsPageStem s) : pageName s = s ++ ".md" := by
  apply h.pageName_of_replace (h.not_mem (by decide))
  rw [Text.replace, ← String.toList_inj, String.toList_ofList]
  exact Text.replaceRuns_of_not_mem (h.not_mem (d := ':') (by decide)) [':'] ['-']

/-- Identifiers with hyphens in between are a stem. -/
theorem intercalate (h : ∀ n ∈ names, IsIdentifier n) (hne : names ≠ []) :
    IsPageStem ("-".intercalate names) where
  ne_empty := by
    obtain ⟨n, rest, rfl⟩ := List.exists_cons_of_ne_nil hne
    obtain ⟨c, cs, hc⟩ := (h n List.mem_cons_self).exists_cons
    intro hempty
    have hhead := Text.head?_intercalate "-" rest (h n List.mem_cons_self).1
    rw [hempty, hc] at hhead
    cases hhead
  char := by
    intro c hc
    rcases Text.mem_of_mem_intercalate hc with hc | ⟨n, hn, hc⟩
    · exact .inr (List.mem_singleton.1 hc)
    · exact .inl ((h n hn).char hc)
  first := by
    obtain ⟨n, rest, rfl⟩ := List.exists_cons_of_ne_nil hne
    have hn := h n List.mem_cons_self
    rw [Text.head?_intercalate _ _ hn.1]
    exact fun hc => hn.not_mem (by decide) (List.mem_of_mem_head? hc)
  last := by
    obtain ⟨init, n, rfl⟩ := (List.eq_nil_or_concat' names).resolve_left hne
    have hn := h n (by simp)
    rw [Text.getLast?_intercalate hn.1]
    exact fun hc => hn.not_mem (by decide) (List.mem_of_getLast? hc)

theorem of_isIdentifier (h : IsIdentifier s) : IsPageStem s := by
  have hnames : ∀ n ∈ [s], IsIdentifier n := by simpa using h
  have hstem := IsPageStem.intercalate hnames (by simp)
  rwa [String.intercalate_singleton] at hstem

end IsPageStem

/-- The page of any path has a stem. -/
theorem exists_isPageStem (path : String) :
    ∃ stem, pageName path = stem ++ ".md" ∧ IsPageStem stem := by
  refine ⟨_, rfl, ?_⟩
  split
  · exact .of_isIdentifier (by decide)
  · rename_i hne
    refine IsPageStem.of_trimOf (fun c hc => ?_) (by simpa using hne)
    rw [String.toList_ofList] at hc
    exact isPageChar_of_mem_hyphenate hc

-- Nothing is left of a path that is all parameters.
example : pageName "<>" = "Unknown.md" := by decide

/-! ## Paths of identifiers -/

/-- The page of an item whose path is made of identifiers. -/
theorem pageName_intercalate (h : ∀ n ∈ names, IsIdentifier n) (hne : names ≠ []) :
    pageName ("::".intercalate names) = "-".intercalate names ++ ".md" := by
  apply (IsPageStem.intercalate h hne).pageName_of_replace
  · intro hmem
    rcases Text.mem_of_mem_intercalate hmem with hc | ⟨n, hn, hc⟩
    · simp at hc
    · exact (h n hn).not_mem (by decide) hc
  · exact Text.replace_intercalate_colons fun n hn => (h n hn).not_mem (by decide)

/-- Items with different paths have different pages. -/
theorem pageName_injective (h : ∀ n ∈ names, IsIdentifier n) (hne : names ≠ [])
    (h' : ∀ n ∈ names', IsIdentifier n) (hne' : names' ≠ [])
    (he : pageName ("::".intercalate names) = pageName ("::".intercalate names')) :
    names = names' := by
  rw [pageName_intercalate h hne, pageName_intercalate h' hne'] at he
  have hbase : "-".intercalate names = "-".intercalate names' := by
    simpa [← String.toList_inj] using he
  have hsplit := congrArg (Text.splitOnChar · '-') hbase
  rwa [Text.splitOnChar_intercalate rfl (fun n hn => (h n hn).not_mem (by decide)) hne,
    Text.splitOnChar_intercalate rfl (fun n hn => (h' n hn).not_mem (by decide)) hne'] at hsplit

/-- The page named by one identifier is that of this identifier alone. -/
theorem pageName_eq_append_iff (h : ∀ n ∈ names, IsIdentifier n) (hne : names ≠ [])
    {name : String} (hname : IsIdentifier name) :
    pageName ("::".intercalate names) = name ++ ".md" ↔ names = [name] := by
  have halone : pageName ("::".intercalate [name]) = name ++ ".md" := by
    rw [String.intercalate_singleton, (IsPageStem.of_isIdentifier hname).pageName_eq]
  rw [← halone]
  constructor
  · intro he
    exact pageName_injective h hne (by simpa using hname) (by simp) he
  · rintro rfl
    rfl

/-- A path of two names or more has no page of the library itself. -/
theorem pageName_ne_own (h : ∀ n ∈ names, IsIdentifier n) (hlen : 2 ≤ names.length) {page : String}
    (hpage : page ∈ [Resolver.overviewName, Resolver.listingName]) :
    pageName ("::".intercalate names) ≠ page := by
  obtain ⟨name, hname, rfl⟩ : ∃ name, IsIdentifier name ∧ page = name ++ ".md" := by
    rcases List.mem_pair.1 hpage with rfl | rfl
    · exact ⟨"index", by decide, rfl⟩
    · exact ⟨"all", by decide, rfl⟩
  have hne : names ≠ [] := by
    rintro rfl
    simp at hlen
  intro he
  obtain rfl := (pageName_eq_append_iff h hne hname).1 he
  simp at hlen

/-! ## Places of pages -/

/-- A name with the extension of a page is that of something in the directory. -/
theorem isPlain_append_md {base : String} (h : '/' ∉ base.toList) : IsPlain (base ++ ".md") := by
  have hne {s : String} (hs : s.toList.length < 3) : base ++ ".md" ≠ s := by
    rintro rfl
    simp at hs
  have hslash : '/' ∉ (base ++ ".md").toList := by
    rw [String.toList_append, List.mem_append, not_or]
    exact ⟨h, by decide⟩
  exact ⟨⟨hne (by decide), hne (by decide), hslash⟩, hne (by decide)⟩

theorem Corpus.isPageIn_append_md (out : Path) (base : String) (h : '/' ∉ base.toList) :
    Corpus.IsPageIn out (base ++ ".md") := ⟨_, base, place_child_name (isPlain_append_md h)⟩

/-- The page of an item is in the directory of the corpus, whatever the path of the item. -/
theorem pageName_ends (itemPath : String) :
    ∃ base, pageName itemPath = base ++ ".md" ∧ '/' ∉ base.toList := by
  obtain ⟨stem, hstem, h⟩ := exists_isPageStem itemPath
  exact ⟨stem, hstem, h.not_mem (by decide)⟩

theorem null_not_mem_pageName (itemPath : String) : '\x00' ∉ (pageName itemPath).toList := by
  obtain ⟨stem, hstem, h⟩ := exists_isPageStem itemPath
  rw [hstem, String.toList_append, List.mem_append, not_or]
  exact ⟨h.not_mem (by decide), by decide⟩

theorem isPlain_pageName (itemPath : String) : IsPlain (pageName itemPath) := by
  obtain ⟨base, hbase, hslash⟩ := pageName_ends itemPath
  rw [hbase]
  exact isPlain_append_md hslash

theorem Corpus.isPageIn_pageName (out : Path) (itemPath : String) :
    Corpus.IsPageIn out (pageName itemPath) := by
  obtain ⟨base, hbase, hslash⟩ := pageName_ends itemPath
  rw [hbase]
  exact isPageIn_append_md out base hslash

/-! ## Pages told apart -/

/-- **Page names are safe and told apart.** The page of any path has a stem of letters, digits,
underscores and hyphens with no hyphen at an end, and a text that is such a stem is kept. Paths of
different identifiers have different pages, and a path of two identifiers or more has neither the
page of the overview nor that of the listing. -/
theorem pageName_told_apart :
    (∀ path, ∃ stem, pageName path = stem ++ ".md" ∧ IsPageStem stem) ∧
    (∀ stem, IsPageStem stem → pageName stem = stem ++ ".md") ∧
    (∀ names names', names ≠ [] → names' ≠ [] → (∀ n ∈ names, IsIdentifier n) →
      (∀ n ∈ names', IsIdentifier n) →
      (pageName ("::".intercalate names) = pageName ("::".intercalate names') ↔ names = names')) ∧
    ∀ names, (∀ n ∈ names, IsIdentifier n) → 2 ≤ names.length →
      pageName ("::".intercalate names) ≠ Resolver.overviewName ∧
      pageName ("::".intercalate names) ≠ Resolver.listingName := by
  refine ⟨exists_isPageStem, fun _ h => h.pageName_eq, ?_, ?_⟩
  · intro names names' hne hne' h h'
    constructor
    · intro he
      exact pageName_injective h hne h' hne' he
    · rintro rfl
      rfl
  · intro names h hlen
    exact ⟨pageName_ne_own h hlen (by simp), pageName_ne_own h hlen (by simp)⟩

/-- An underscore in a name is no separator. -/
theorem pageName_told_apart_serde :
    IsPageStem "serde-de" ∧ pageName "serde-de" = "serde-de.md" ∧
    (∀ n ∈ ["serde", "de"], IsIdentifier n) ∧ (∀ n ∈ ["serde_de"], IsIdentifier n) ∧
    pageName ("::".intercalate ["serde", "de"]) ≠ pageName ("::".intercalate ["serde_de"]) ∧
    pageName ("::".intercalate ["serde", "de"]) ≠ Resolver.overviewName ∧
    pageName ("::".intercalate ["serde", "de"]) ≠ Resolver.listingName := by
  have hnames : ∀ n ∈ ["serde", "de"], IsIdentifier n := by decide
  have hname : ∀ n ∈ ["serde_de"], IsIdentifier n := by decide
  have hstem : IsPageStem "serde-de" := IsPageStem.intercalate hnames (by simp)
  obtain ⟨-, hkept, hapart, hown⟩ := pageName_told_apart
  have hne : ["serde", "de"] ≠ ["serde_de"] := by decide
  exact ⟨hstem, hkept _ hstem, hnames, hname,
    fun he => hne ((hapart _ _ (by simp) (by simp) hnames hname).1 he), hown _ hnames (by simp)⟩

end CrateBook
