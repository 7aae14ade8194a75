import CrateBook.Cargo
import CrateBook.Proofs.Path.Written
import CrateBook.Proofs.Text.Lines

/-!
# Where the documentation is

The line that names the documentation names a page in its directory. What is read is the shortest
text up to the extension of a page, so the directory is found exactly when no name on the way to it
has that extension itself, and otherwise the directory that holds the first such name is taken
(`docDirectory_iff`).
-/

namespace CrateBook.Cargo

open CrateBook.Path (IsName IsClean)

variable {before n cs rest : List Char} {c : Char} {names : List String} {line output : String}

/-! ## Names of pages -/

/-- A word ends before this text. -/
def EndsWord (rest : List Char) : Prop := ∀ c, rest.head? = some c → Text.isWordChar c = false

/-- The extension of a page ends a word somewhere in the text. -/
def NamesPage (cs : List Char) : Prop :=
  ∃ stem rest, cs = stem ++ pageExtension ++ rest ∧ EndsWord rest

theorem endsWord_nil : EndsWord [] := fun _ hc => nomatch hc

theorem endsWord_cons : EndsWord (c :: rest) ↔ Text.isWordChar c = false :=
  ⟨fun h => h c rfl, fun h _ hd => Option.some.inj hd ▸ h⟩

theorem pageName?_here (hbefore : before ≠ []) (hrest : EndsWord rest) :
    pageName? before (pageExtension ++ rest) = some (before.reverse ++ pageExtension) := by
  have hempty : before.isEmpty = false := by simpa using hbefore
  have hafter : Text.after? pageExtension ('.' :: (['h', 't', 'm', 'l'] ++ rest)) = some rest :=
    Text.after?_append pageExtension rest
  change pageName? before ('.' :: (['h', 't', 'm', 'l'] ++ rest)) = _
  rw [pageName?, hempty, hafter]
  cases rest with
  | nil => rfl
  | cons d rest =>
    dsimp only
    rw [endsWord_cons.1 hrest]
    rfl

/-- No page name ends at a place where the extension does not stand or does not end a word. -/
theorem pageName?_skip
    (h : ∀ rest, c :: cs = pageExtension ++ rest → EndsWord rest → before = []) :
    pageName? before (c :: cs) = pageName? (c :: before) cs := by
  rw [pageName?]
  cases before with
  | nil => rfl
  | cons b bs =>
    cases hafter : Text.after? pageExtension (c :: cs) with
    | none => rfl
    | some rest =>
      have hrest : ¬ EndsWord rest := fun hends =>
        List.cons_ne_nil b bs (h rest (Text.eq_append_of_after? hafter) hends)
      cases rest with
      | nil => exact absurd endsWord_nil hrest
      | cons d rest =>
        have hd : Text.isWordChar d = true := by simpa [endsWord_cons] using hrest
        dsimp only
        rw [hd]
        rfl

theorem pageName?_cons_of_ne (h : c ≠ '.') :
    pageName? before (c :: cs) = pageName? (c :: before) cs := by
  refine pageName?_skip fun rest hrest => ?_
  exact absurd (List.cons.inj hrest).1 h

/-- A page name is found exactly where one is. -/
theorem isSome_pageName?_iff : (pageName? before cs).isSome = true ↔
    ∃ stem rest, (before ≠ [] ∨ stem ≠ []) ∧ cs = stem ++ pageExtension ++ rest ∧
      EndsWord rest := by
  induction cs generalizing before with
  | nil =>
    refine iff_of_false Bool.false_ne_true ?_
    rintro ⟨stem, rest, -, h, -⟩
    simp [pageExtension] at h
  | cons c cs ih =>
    by_cases hhere : before ≠ [] ∧ ∃ rest, c :: cs = pageExtension ++ rest ∧ EndsWord rest
    · obtain ⟨hbefore, rest, hrest, hends⟩ := hhere
      rw [hrest, pageName?_here hbefore hends]
      exact iff_of_true rfl ⟨[], rest, .inl hbefore, rfl, hends⟩
    · rw [pageName?_skip fun rest hrest hends => by_contra fun hb => hhere ⟨hb, rest, hrest, hends⟩,
        ih]
      constructor
      · rintro ⟨stem, rest, -, rfl, hends⟩
        exact ⟨c :: stem, rest, .inr (List.cons_ne_nil _ _), rfl, hends⟩
      · rintro ⟨stem, rest, hne, hcs, hends⟩
        cases stem with
        | nil => exact absurd ⟨hne.resolve_right fun h => h rfl, rest, hcs, hends⟩ hhere
        | cons d stem =>
          obtain ⟨rfl, rfl⟩ := List.cons.inj hcs
          exact ⟨stem, rest, .inl (List.cons_ne_nil _ _), rfl, hends⟩

theorem namesPage_iff : NamesPage cs ↔ (pageName? ['/'] cs).isSome = true := by
  rw [isSome_pageName?_iff]
  simp [NamesPage]

instance : DecidablePred NamesPage := fun _ => decidable_of_iff _ namesPage_iff.symm

/-! ## Names on the way -/

theorem isWordChar_slash : Text.isWordChar '/' = false := by decide +kernel

theorem endsWord_append_slash (rest cs : List Char) :
    EndsWord (rest ++ '/' :: cs) ↔ EndsWord rest := by
  cases rest with
  | nil => exact iff_of_true (endsWord_cons.2 isWordChar_slash) endsWord_nil
  | cons d rest => exact endsWord_cons.trans endsWord_cons.symm

/-- What has no slash does not go beyond one. -/
theorem exists_of_append_slash {p : List Char} (hp : '/' ∉ p) (h : n ++ '/' :: cs = p ++ rest) :
    ∃ more, n = p ++ more ∧ rest = more ++ '/' :: cs := by
  induction p generalizing n with
  | nil => exact ⟨n, rfl, h.symm⟩
  | cons a p ih =>
    cases n with
    | nil => exact absurd ((List.cons.inj h).1 ▸ List.mem_cons_self) hp
    | cons c n =>
      rw [List.cons_append, List.cons_append, List.cons.injEq] at h
      obtain ⟨rfl, h⟩ := h
      obtain ⟨more, rfl, hrest⟩ := ih (fun hmem => hp (List.mem_cons_of_mem _ hmem)) h
      exact ⟨more, rfl, hrest⟩

theorem slash_not_mem_pageExtension : '/' ∉ pageExtension := by decide

/-- The extension stands at the start of a name exactly when it does before the slash. -/
theorem pageName?_cons_slash
    (h : ∀ rest, c :: n = pageExtension ++ rest → ¬ EndsWord rest) :
    pageName? before (c :: n ++ '/' :: cs) = pageName? (c :: before) (n ++ '/' :: cs) := by
  refine pageName?_skip fun rest hrest hends => ?_
  obtain ⟨more, hmore, rfl⟩ :=
    exists_of_append_slash (n := c :: n) slash_not_mem_pageExtension hrest
  exact absurd ((endsWord_append_slash more cs).1 hends) (h more hmore)

/-- A name without a page in it is passed. -/
theorem pageName?_pass (hn : ¬ NamesPage n) :
    pageName? before (n ++ '/' :: cs) = pageName? ('/' :: (n.reverse ++ before)) cs := by
  induction n generalizing before with
  | nil => exact pageName?_cons_of_ne (by decide)
  | cons c n ih =>
    rw [pageName?_cons_slash fun rest hrest hends => hn ⟨[], rest, hrest, hends⟩, ih]
    · simp
    · rintro ⟨stem, rest, rfl, hends⟩
      exact hn ⟨c :: stem, rest, rfl, hends⟩

/-- In a name that names a page the reading stops. -/
theorem exists_pageName?_stop (cs : List Char) (hn : NamesPage n) (hbefore : before ≠ []) :
    ∃ stem rest, n = stem ++ pageExtension ++ rest ∧
      pageName? before (n ++ '/' :: cs) = some (before.reverse ++ stem ++ pageExtension) := by
  induction n generalizing before with
  | nil =>
    obtain ⟨stem, rest, h, -⟩ := hn
    simp [pageExtension] at h
  | cons c n ih =>
    by_cases hhere : ∃ rest, c :: n = pageExtension ++ rest ∧ EndsWord rest
    · obtain ⟨rest, hrest, hends⟩ := hhere
      refine ⟨[], rest, hrest, ?_⟩
      rw [hrest, List.append_assoc,
        pageName?_here hbefore ((endsWord_append_slash rest cs).2 hends)]
      simp
    · have htail : NamesPage n := by
        obtain ⟨stem, rest, h, hends⟩ := hn
        cases stem with
        | nil => exact absurd ⟨rest, h, hends⟩ hhere
        | cons d stem =>
          obtain ⟨rfl, rfl⟩ := List.cons.inj h
          exact ⟨stem, rest, rfl, hends⟩
      obtain ⟨stem, rest, rfl, hname⟩ := ih htail (List.cons_ne_nil c before)
      refine ⟨c :: stem, rest, rfl, ?_⟩
      rw [pageName?_cons_slash fun rest hrest hends => hhere ⟨rest, hrest, hends⟩, hname]
      simp

/-! ## Directories -/

/-- The names of directories as they are written, each with a slash behind it. -/
def slashed (names : List String) : List Char := names.flatMap fun n => n.toList ++ ['/']

theorem toList_intercalate_concat (names : List String) (last : String) :
    ("/".intercalate (names ++ [last])).toList = slashed names ++ last.toList := by
  induction names with
  | nil => simp [slashed]
  | cons n names ih =>
    rw [List.cons_append, String.intercalate_cons_of_ne_nil (by simp)]
    simp [slashed, ih]

theorem slashed_append_cons (before after : List String) (n : String) :
    slashed (before ++ n :: after) = slashed before ++ (n.toList ++ '/' :: slashed after) := by
  simp [slashed]

/-- The written form of a path with a last name. -/
theorem toList_toString_concat (root : String) (names : List String) (last : String) :
    (Path.toString ⟨root, names ++ [last]⟩).toList =
      root.toList ++ slashed names ++ last.toList := by
  rw [Path.toString, if_neg (by simp), String.toList_append, toList_intercalate_concat,
    List.append_assoc]

/-- Names that are no pages are passed. -/
theorem pageName?_slashed (h : ∀ n ∈ names, ¬ NamesPage n.toList) :
    pageName? before (slashed names ++ cs) = pageName? ((slashed names).reverse ++ before) cs := by
  induction names generalizing before with
  | nil => rfl
  | cons n names ih =>
    obtain ⟨hn, hnames⟩ := List.forall_mem_cons.1 h
    rw [slashed, List.flatMap_cons, List.append_assoc, List.append_assoc, List.singleton_append,
      pageName?_pass hn]
    change pageName? _ (slashed names ++ cs) = pageName? ((_ ++ slashed names).reverse ++ _) cs
    rw [ih hnames]
    simp

theorem pageName?_root {root : String} (hroot : root = "" ∨ root = "/" ∨ root = "//") :
    pageName? [] (root.toList ++ cs) = pageName? root.toList.reverse cs := by
  rcases hroot with rfl | rfl | rfl
  · rfl
  · exact pageName?_cons_of_ne (by decide)
  · exact (pageName?_cons_of_ne (by decide)).trans (pageName?_cons_of_ne (by decide))

theorem pageName?_indexPage (hrest : EndsWord rest) :
    pageName? before ("index.html".toList ++ rest) =
      some (before.reverse ++ "index.html".toList) := by
  change pageName? before ('i' :: 'n' :: 'd' :: 'e' :: 'x' :: (pageExtension ++ rest)) = _
  iterate 5 rw [pageName?_cons_of_ne (by decide)]
  rw [pageName?_here (by simp) hrest]
  simp [pageExtension]

variable {p : Path} {tail : String} {s : String}

/-- The written form of the page in a directory. -/
theorem toList_indexPage (hparts : p.parts ≠ []) :
    (p.toString ++ "/index.html").toList =
      p.root.toList ++ slashed p.parts ++ "index.html".toList := by
  obtain ⟨root, parts⟩ := p
  obtain ⟨names, last, rfl⟩ : ∃ names last, parts = names ++ [last] :=
    ⟨_, _, (List.dropLast_append_getLast hparts).symm⟩
  rw [String.toList_append, toList_toString_concat]
  simp [slashed]

/-- The directory of a page that is written with its directory. -/
theorem parent_ofString (hroot : p.root = "" ∨ p.root = "/" ∨ p.root = "//")
    (hnames : ∀ n ∈ names, IsName n) (hs : IsName s) :
    (Path.ofString (Path.toString ⟨p.root, names ++ [s]⟩)).parent = ⟨p.root, names⟩ := by
  rw [Path.ofString_toString _ (by simp)]
  · simp [Path.parent]
  · refine ⟨hroot, fun n hn => ?_⟩
    rcases List.mem_append.1 hn with hn | hn
    · exact hnames n hn
    · exact List.mem_singleton.1 hn ▸ hs

theorem pageName?_directory (hp : p.IsClean) (hparts : p.parts ≠ [])
    (hpages : ∀ n ∈ p.parts, ¬ NamesPage n.toList) (hrest : EndsWord rest) :
    pageName? [] ((p.toString ++ "/index.html").toList ++ rest) =
      some (Path.toString ⟨p.root, p.parts ++ ["index.html"]⟩).toList := by
  rw [toList_indexPage hparts, List.append_assoc, List.append_assoc, pageName?_root hp.root,
    pageName?_slashed hpages, pageName?_indexPage hrest, toList_toString_concat]
  simp

/-- Where a name on the way names a page, the reading stops in it. -/
theorem exists_pageName?_directory (hp : p.IsClean) (habsolute : p.root ≠ "")
    {before after : List String} {n : String} (hparts : p.parts = before ++ n :: after)
    (hpages : ∀ m ∈ before, ¬ NamesPage m.toList) (hn : NamesPage n.toList) :
    ∃ s, IsName s ∧ pageName? [] ((p.toString ++ "/index.html").toList ++ rest) =
      some (Path.toString ⟨p.root, before ++ [s]⟩).toList := by
  have hslash : '/' ∉ n.toList := (hp.parts n (by simp [hparts])).2.2
  have hroot : (slashed before).reverse ++ p.root.toList.reverse ≠ [] := by
    simpa [String.toList_eq_nil_iff] using fun _ => habsolute
  obtain ⟨stem, more, hsplit, hname⟩ :=
    exists_pageName?_stop (slashed after ++ "index.html".toList ++ rest) hn hroot
  refine ⟨String.ofList (stem ++ pageExtension), ⟨?_, ?_, ?_⟩, ?_⟩
  · simp [← String.toList_inj, pageExtension]
  · intro hdot
    have hlength := congrArg (·.toList.length) hdot
    simp [pageExtension] at hlength
  · rw [String.toList_ofList]
    exact fun hmem => hslash (hsplit ▸ List.mem_append_left _ hmem)
  · rw [toList_indexPage (by simp [hparts]), hparts, List.append_assoc, List.append_assoc,
      pageName?_root hp.root, slashed_append_cons, List.append_assoc, pageName?_slashed hpages,
      List.append_assoc, List.cons_append, ← List.append_assoc (slashed after), hname,
      toList_toString_concat]
    simp

/-! ## Lines -/

/-- How many blanks may be left out of a name behind the word, as many as can be first. -/
def blankCounts (cs : List Char) : List Nat :=
  (List.range (cs.takeWhile Text.isBlank).length).reverse.map (· + 1)

theorem mem_blankCounts {k : Nat} :
    k ∈ blankCounts cs ↔ 0 < k ∧ k ≤ (cs.takeWhile Text.isBlank).length := by
  simp only [blankCounts, List.mem_map, List.mem_reverse, List.mem_range]
  constructor
  · rintro ⟨j, hj, rfl⟩
    omega
  · rintro ⟨hpos, hle⟩
    exact ⟨k - 1, by omega, by omega⟩

/-- Only a line that starts with the word names a page. -/
theorem generatedPage?_of_after?_eq_none
    (h : Text.after? "Generated".toList (Text.trim line).toList = none) :
    generatedPage? line = none := by
  rw [generatedPage?, h]
  rfl

theorem generatedPage?_of_after?
    (h : Text.after? "Generated".toList (Text.trim line).toList = some cs) : generatedPage? line =
      ((blankCounts cs).findSome? fun k => pageName? [] (cs.drop k)).map String.ofList := by
  rw [generatedPage?, h]
  change ((blankCounts cs).findSome? fun k => pageName? [] (cs.drop k)).bind _ = _
  cases (blankCounts cs).findSome? fun k => pageName? [] (cs.drop k) <;> rfl

/-- The page that a line names behind one blank. -/
theorem generatedPage?_of_trim {text : String} (h : Text.trim line = "Generated " ++ text)
    (hfirst : ∀ c, text.toList.head? = some c → Text.isBlank c = false) :
    generatedPage? line = (pageName? [] text.toList).map String.ofList := by
  have hafter : Text.after? "Generated".toList (Text.trim line).toList =
      some (' ' :: text.toList) := by
    rw [h, String.toList_append]
    exact Text.after?_append _ _
  have hcounts : blankCounts (' ' :: text.toList) = [1] := by
    rw [blankCounts, List.takeWhile_cons_of_pos (by decide)]
    cases htext : text.toList with
    | nil => rfl
    | cons c cs =>
      rw [List.takeWhile_cons_of_neg (by simp [hfirst c (by rw [htext]; rfl)])]
      rfl
  rw [generatedPage?_of_after? hafter, hcounts]
  cases hname : pageName? [] text.toList <;> simp [hname]

/-- What a line says of a page: the word, blanks, and a name of a page. -/
def SaysGenerated (cs : List Char) : Prop :=
  ∃ blanks stem rest, cs = "Generated".toList ++ (blanks ++ (stem ++ pageExtension ++ rest)) ∧
    blanks ≠ [] ∧ (∀ c ∈ blanks, Text.isBlank c = true) ∧ stem ≠ [] ∧ EndsWord rest

/-- A line names a page exactly when it says so in some way. -/
theorem isSome_generatedPage?_iff :
    (generatedPage? line).isSome = true ↔ SaysGenerated (Text.trim line).toList := by
  cases hafter : Text.after? "Generated".toList (Text.trim line).toList with
  | none =>
    rw [generatedPage?_of_after?_eq_none hafter]
    refine iff_of_false Bool.false_ne_true ?_
    rintro ⟨blanks, stem, rest, h, -⟩
    rw [h, Text.after?_append] at hafter
    cases hafter
  | some cs =>
    rw [generatedPage?_of_after? hafter, Option.isSome_map, List.findSome?_isSome_iff]
    have hline := Text.eq_append_of_after? hafter
    constructor
    · rintro ⟨k, hk, hname⟩
      obtain ⟨hpos, hle⟩ := mem_blankCounts.1 hk
      obtain ⟨stem, rest, hstem, hdrop, hends⟩ := isSome_pageName?_iff.1 hname
      have htake : cs.take k = (cs.takeWhile Text.isBlank).take k := by
        conv_lhs => rw [← List.takeWhile_append_dropWhile (p := Text.isBlank) (l := cs)]
        exact List.take_append_of_le_length hle
      refine ⟨cs.take k, stem, rest, ?_, ?_, ?_, hstem.resolve_left (fun h => h rfl), hends⟩
      · rw [hline, ← hdrop, List.take_append_drop]
      · intro hnil
        have hlength := congrArg List.length (htake.symm.trans hnil)
        rw [List.length_take, List.length_nil] at hlength
        omega
      · intro c hc
        rw [htake] at hc
        exact List.mem_takeWhile_imp (List.mem_of_mem_take hc)
    · rintro ⟨blanks, stem, rest, h, hne, hblank, hstem, hends⟩
      obtain rfl := List.append_cancel_left (hline.symm.trans h)
      refine ⟨blanks.length, mem_blankCounts.2 ⟨List.length_pos_iff.2 hne, ?_⟩, ?_⟩
      · rw [List.takeWhile_append_of_pos hblank, List.length_append]
        exact Nat.le_add_right _ _
      · rw [List.drop_left]
        exact isSome_pageName?_iff.2 ⟨stem, rest, .inr hstem, rfl, hends⟩

/-! ## The output -/

/-- No directory is found exactly when no line says of a page that it has been generated. -/
theorem docDirectory_eq_error_iff :
    (∃ detail, docDirectory output = .error (.cargoFailed "cargo doc" detail)) ↔
      ∀ line ∈ Text.lines output, ¬ SaysGenerated (Text.trim line).toList := by
  have hnone : (Text.lines output).findSome? generatedPage? = none ↔
      ∀ line ∈ Text.lines output, ¬ SaysGenerated (Text.trim line).toList := by
    rw [List.findSome?_eq_none_iff]
    refine forall₂_congr fun line _ => ?_
    rw [← isSome_generatedPage?_iff, Option.not_isSome_iff_eq_none]
  rw [docDirectory, ← hnone]
  cases (Text.lines output).findSome? generatedPage? with
  | none => exact iff_of_true ⟨_, rfl⟩ rfl
  | some page => exact iff_of_false (fun ⟨_, h⟩ => by cases h) fun h => by cases h

/-- The first line that says so names the page in the directory. -/
theorem docDirectory_of_lines {earlier later : List String} {page : String}
    (hlines : Text.lines output = earlier ++ line :: later)
    (hearlier : ∀ l ∈ earlier, Text.startsWith (Text.trim l) "Generated" = false)
    (hline : generatedPage? line = some page) :
    docDirectory output = .ok (Path.ofString page).parent := by
  have hnone : earlier.findSome? generatedPage? = none := by
    refine List.findSome?_eq_none_iff.2 fun l hl => ?_
    exact generatedPage?_of_after?_eq_none (Text.after?_eq_none (hearlier l hl))
  rw [docDirectory, hlines, List.findSome?_append, hnone, Option.none_or, List.findSome?_cons,
    hline]

/-! ## The line -/

/-- What may follow the page on its line. -/
def IsTail (tail : String) : Prop :=
  tail = "" ∨ ∃ count : Nat, tail = " and " ++ toString count ++ " other files"

theorem IsTail.endsWord (h : IsTail tail) : EndsWord tail.toList := by
  rcases h with rfl | ⟨count, rfl⟩
  · exact endsWord_nil
  · rw [String.toList_append, String.toList_append]
    exact endsWord_cons.2 (by decide +kernel)

theorem IsTail.endsSolid (h : IsTail tail) (s : String) :
    Text.EndsSolid (s ++ "/index.html" ++ tail) := by
  rcases h with rfl | ⟨count, rfl⟩
  · rw [String.append_empty]
    exact .append ⟨'l', by decide, by decide⟩ s
  · rw [← String.append_assoc]
    exact .append ⟨'s', by decide, by decide⟩ _

/-- The line is trimmed to what it says. -/
theorem trim_line {indent : String} (hindent : Text.allBlank indent = true) (htail : IsTail tail) :
    Text.trim (indent ++ "Generated " ++ s ++ "/index.html" ++ tail) =
      "Generated " ++ (s ++ "/index.html" ++ tail) := by
  obtain ⟨c, hlast, hc⟩ := (htail.endsSolid s).append "Generated "
  have htrim := Text.trim_append_append_of_ends (r := "") hindent rfl
    (s := "Generated " ++ (s ++ "/index.html" ++ tail)) ?_ ?_ ?_
  · simpa [String.append_assoc] using htrim
  · simp [← String.toList_inj]
  · intro d hd
    rw [String.toList_append] at hd
    obtain rfl := Option.some.inj hd
    decide
  · intro d hd
    obtain rfl := Option.some.inj (hlast.symm.trans hd)
    exact hc

theorem toString_of_root (h : p.root ≠ "") : p.toString = p.root ++ "/".intercalate p.parts := by
  rw [Path.toString, if_neg (by simp [h])]

/-- The line of an absolute directory names what is read of its page. -/
theorem generatedPage?_line {indent : String} (hp : p.IsClean) (habsolute : p.root ≠ "")
    (hindent : Text.allBlank indent = true) (htail : IsTail tail) :
    generatedPage? (indent ++ "Generated " ++ p.toString ++ "/index.html" ++ tail) =
      (pageName? [] ((p.toString ++ "/index.html").toList ++ tail.toList)).map String.ofList := by
  rw [← String.toList_append]
  refine generatedPage?_of_trim (trim_line hindent htail) fun c hc => ?_
  rw [toString_of_root habsolute, String.append_assoc, String.append_assoc,
    String.toList_append] at hc
  obtain rfl : c = '/' := by
    rcases hp.root with hroot | hroot | hroot
    · exact absurd hroot habsolute
    · rw [hroot] at hc
      exact (Option.some.inj hc).symm
    · rw [hroot] at hc
      exact (Option.some.inj hc).symm
  decide

/-- The page in the root is written with a slash too many, so that another root is read. -/
theorem ne_parent_of_root (hp : p.IsClean) (habsolute : p.root ≠ "") (hparts : p.parts = [])
    (hrest : EndsWord rest) :
    ∃ page, pageName? [] ((p.toString ++ "/index.html").toList ++ rest) = some page ∧
      (Path.ofString (String.ofList page)).parent ≠ p := by
  have htext : (p.toString ++ "/index.html").toList ++ rest =
      p.root.toList ++ ('/' :: ("index.html".toList ++ rest)) := by
    simp [toString_of_root habsolute, hparts]
  refine ⟨p.root.toList ++ '/' :: "index.html".toList, ?_, fun h => ?_⟩
  · rw [htext, pageName?_root hp.root, pageName?_cons_of_ne (by decide), pageName?_indexPage hrest]
    simp
  · have hroot := congrArg Path.root h
    rcases hp.root with hr | hr | hr
    · exact habsolute hr
    · rw [hr] at hroot
      exact absurd hroot (by decide)
    · rw [hr] at hroot
      exact absurd hroot (by decide)

/-- Of names that are not all without pages one is the first with a page. -/
theorem exists_first (h : ¬ ∀ n ∈ names, ¬ NamesPage n.toList) :
    ∃ before n after, names = before ++ n :: after ∧ (∀ m ∈ before, ¬ NamesPage m.toList) ∧
      NamesPage n.toList := by
  push Not at h
  obtain ⟨m, hm, hpage⟩ := h
  cases hfind : names.find? fun n => decide (NamesPage n.toList) with
  | none => simpa [hpage] using List.find?_eq_none.1 hfind m hm
  | some n =>
    obtain ⟨hn, before, after, hnames, hbefore⟩ := List.find?_eq_some_iff_append.1 hfind
    exact ⟨before, n, after, hnames, by simpa using hbefore, by simpa using hn⟩

/-- **The directory is found up to the first page on the way.** No directory is found exactly when
no line says of a page that it has been generated. For the line that names the page of an absolute
directory it is that directory, unless it is the root or a name on the way has the extension of a
page; the directory that holds the first such name is found instead. -/
theorem docDirectory_iff (output : String) :
    ((∃ detail, docDirectory output = .error (.cargoFailed "cargo doc" detail)) ↔
      ∀ line ∈ Text.lines output, ¬ SaysGenerated (Text.trim line).toList) ∧
    ∀ (p : Path) (earlier later : List String) (indent tail : String),
      p.IsClean → p.root ≠ "" → Text.allBlank indent = true → IsTail tail →
      Text.lines output =
        earlier ++ (indent ++ "Generated " ++ p.toString ++ "/index.html" ++ tail) :: later →
      (∀ line ∈ earlier, Text.startsWith (Text.trim line) "Generated" = false) →
      (docDirectory output = .ok p ↔ p.parts ≠ [] ∧ ∀ n ∈ p.parts, ¬ NamesPage n.toList) ∧
      ∀ before n after, p.parts = before ++ n :: after →
        (∀ m ∈ before, ¬ NamesPage m.toList) → NamesPage n.toList →
        docDirectory output = .ok ⟨p.root, before⟩ := by
  refine ⟨docDirectory_eq_error_iff, ?_⟩
  intro p earlier later indent tail hp habsolute hindent htail hlines hearlier
  have hread {page : List Char}
      (h : pageName? [] ((p.toString ++ "/index.html").toList ++ tail.toList) = some page) :
      docDirectory output = .ok (Path.ofString (String.ofList page)).parent := by
    refine docDirectory_of_lines hlines hearlier ?_
    rw [generatedPage?_line hp habsolute hindent htail, h, Option.map_some]
  have hstop (before : List String) (n : String) (after : List String)
      (hparts : p.parts = before ++ n :: after) (hbefore : ∀ m ∈ before, ¬ NamesPage m.toList)
      (hn : NamesPage n.toList) : docDirectory output = .ok ⟨p.root, before⟩ := by
    obtain ⟨s, hs, hname⟩ := exists_pageName?_directory hp habsolute hparts hbefore hn
    rw [hread hname, String.ofList_toList, parent_ofString hp.root (fun m hm => ?_) hs]
    exact hp.parts m (by simp [hparts, hm])
  refine ⟨?_, hstop⟩
  by_cases hroot : p.parts = []
  · obtain ⟨page, hname, hne⟩ := ne_parent_of_root hp habsolute hroot htail.endsWord
    refine iff_of_false (fun h => ?_) fun h => h.1 hroot
    rw [hread hname] at h
    exact hne (Except.ok.inj h)
  by_cases hpages : ∀ n ∈ p.parts, ¬ NamesPage n.toList
  · refine iff_of_true ?_ ⟨hroot, hpages⟩
    rw [hread (pageName?_directory hp hroot hpages htail.endsWord), String.ofList_toList,
      parent_ofString hp.root hp.parts (by decide)]
  · obtain ⟨before, n, after, hparts, hbefore, hn⟩ := exists_first hpages
    refine iff_of_false (fun h => ?_) fun h => hpages h.2
    have hlength := congrArg (·.parts.length)
      (Except.ok.inj ((hstop before n after hparts hbefore hn).symm.trans h))
    rw [hparts] at hlength
    simp at hlength

/-- A directory with a blank and a dot on the way. -/
def serdeDocs : Path := ⟨"/", ["my work", "v1.0", "doc", "serde"]⟩

/-- What is said when documentation has been written into it. -/
def serdeOutput : String :=
  "    Checking serde v1.0\n   Generated /my work/v1.0/doc/serde/index.html and 2 other files\n"

theorem clean_serdeDocs : serdeDocs.IsClean := ⟨.inr (.inl rfl), by decide⟩

theorem docDirectory_serde : serdeDocs.IsClean ∧ (∀ n ∈ serdeDocs.parts, ¬ NamesPage n.toList) ∧
    docDirectory serdeOutput = .ok serdeDocs := by
  have hpages : ∀ n ∈ serdeDocs.parts, ¬ NamesPage n.toList := by decide
  refine ⟨clean_serdeDocs, hpages, ?_⟩
  obtain ⟨-, hread⟩ := docDirectory_iff serdeOutput
  refine (hread serdeDocs ["    Checking serde v1.0"] [] "   " " and 2 other files" clean_serdeDocs
    (by decide) (by decide) (.inr ⟨2, by decide⟩) ?_ ?_).1.2 ⟨by decide, hpages⟩
  · decide +kernel
  · decide

/-- A directory the name of which has the extension of a page. -/
def siteDocs : Path := ⟨"/", ["work", "site.html"]⟩

/-- What is found is not the directory with that name, but the one that holds it. -/
theorem docDirectory_site : siteDocs.IsClean ∧
    Text.lines "   Generated /work/site.html/index.html\n" =
      ["   " ++ "Generated " ++ siteDocs.toString ++ "/index.html" ++ ""] ∧
    docDirectory "   Generated /work/site.html/index.html\n" = .ok ⟨"/", ["work"]⟩ := by
  have hpage : generatedPage? "   Generated /work/site.html/index.html" =
      some "/work/site.html" := by decide +kernel
  have hlines : Text.lines "   Generated /work/site.html/index.html\n" =
      [] ++ "   Generated /work/site.html/index.html" :: [] := by decide
  exact ⟨⟨.inr (.inl rfl), by decide⟩, hlines, docDirectory_of_lines hlines (by simp) hpage⟩

end CrateBook.Cargo
