import CrateBook.Listing.Page
import CrateBook.Proofs.Text.Lines

/-!
# What the page of all items says

The page is read line by line: a line that starts with a dash names an item, and a line that starts
with the mark of a heading opens a section. The page has the items of the listing that it is made
of, section by section, each under its full name (`entryLines_page`, `sections_page`), and its
examples are the first items of the first sections (`commandLines_page`).
-/

namespace CrateBook.Listing

open Text (EndsSolid IsLine)

/-! ## Reading a page -/

/-- The lines of a page that name items. -/
def entryLines (text : String) : List String := (Text.lines text).filter (Text.startsWith · "- ")

/-- The lines of a page that tell commands to show an item. -/
def commandLines (text : String) : List String :=
  (Text.lines text).filter (Text.startsWith · "cargo docmd show ")

/-- The items named before the first section, and the sections from there on: the title of each
with the items named in it. -/
def readSections : List String → List String × List (String × List String)
  | [] => ([], [])
  | line :: lines =>
    let (items, sections) := readSections lines
    if Text.startsWith line "### " then ([], (Text.drop line 4, items) :: sections)
    else if Text.startsWith line "- " then (Text.drop line 2 :: items, sections)
    else (items, sections)

/-- The sections of a page, each with the items named in it. -/
def sections (text : String) : List (String × List String) := (readSections (Text.lines text)).2

/-- The line opens a section or names an item. -/
def isNotable (line : String) : Bool := Text.startsWith line "### " || Text.startsWith line "- "

variable {library content first line s t : String} {rest ls examples : List String}
  {g : String × List String} {groups : List (String × List String)} {p : String → Bool}

theorem readSections_filter (ls : List String) :
    readSections (ls.filter isNotable) = readSections ls := by
  induction ls with
  | nil => rfl
  | cons line ls ih =>
    cases h : isNotable line with
    | true => rw [List.filter_cons_of_pos h, readSections, ih, readSections]
    | false =>
      obtain ⟨htitle, hentry⟩ := Bool.or_eq_false_iff.1 h
      rw [List.filter_cons_of_neg (by simp [h]), ih]
      conv_rhs => rw [readSections]
      simp [htitle, hentry]

theorem filter_entry_filter (ls : List String) :
    (ls.filter isNotable).filter (Text.startsWith · "- ") = ls.filter (Text.startsWith · "- ") := by
  rw [List.filter_filter]
  refine List.filter_congr fun line _ => ?_
  cases h : Text.startsWith line "- " <;> simp [isNotable, h]

theorem startsWith_entry (s : String) : Text.startsWith ("- " ++ s) "- " = true :=
  Text.startsWith_append _ _

theorem startsWith_title_entry (s : String) : Text.startsWith ("- " ++ s) "### " = false :=
  Text.startsWith_append_eq_false rfl rfl (by decide) s

theorem startsWith_title (s : String) : Text.startsWith ("### " ++ s) "### " = true :=
  Text.startsWith_append _ _

theorem startsWith_entry_title (s : String) : Text.startsWith ("### " ++ s) "- " = false :=
  Text.startsWith_append_eq_false rfl rfl (by decide) s

theorem readSections_entries (items ls : List String) :
    readSections (items.map ("- " ++ ·) ++ ls) =
      (items ++ (readSections ls).1, (readSections ls).2) := by
  induction items with
  | nil => rfl
  | cons item items ih =>
    have hdrop : Text.drop ("- " ++ item) 2 = item := Text.drop_append "- " item
    rw [List.map_cons, List.cons_append, readSections, ih]
    dsimp only
    rw [startsWith_title_entry, startsWith_entry, hdrop]
    rfl

/-- The lines of a section. -/
def sectionLines (g : String × List String) : List String :=
  "" :: ("### " ++ g.1) :: "" :: g.2.map ("- " ++ ·)

theorem not_isNotable_empty : ¬isNotable "" = true := by decide

theorem filter_sectionLines (g : String × List String) :
    (sectionLines g).filter isNotable =
      ("### " ++ g.1) :: g.2.map ("- " ++ ·) := by
  have hitems : (g.2.map ("- " ++ ·)).filter isNotable = g.2.map ("- " ++ ·) := by
    rw [List.filter_eq_self]
    intro line hline
    obtain ⟨item, -, rfl⟩ := List.mem_map.1 hline
    rw [isNotable, startsWith_entry, Bool.or_true]
  rw [sectionLines, List.filter_cons_of_neg not_isNotable_empty,
    List.filter_cons_of_pos (by rw [isNotable, startsWith_title, Bool.true_or]),
    List.filter_cons_of_neg not_isNotable_empty, hitems]

/-- The sections that lines are written from are read back. -/
theorem readSections_sectionLines (groups : List (String × List String)) :
    readSections (groups.flatMap sectionLines) = ([], groups) := by
  induction groups with
  | nil => rfl
  | cons g groups ih =>
    have hdrop : Text.drop ("### " ++ g.1) 4 = g.1 := Text.drop_append "### " g.1
    rw [← readSections_filter, List.flatMap_cons, List.filter_append, filter_sectionLines,
      List.cons_append, readSections, readSections_entries, readSections_filter, ih]
    dsimp only
    rw [startsWith_title, hdrop, List.append_nil]
    rfl

/-! ## Examples -/

theorem examplesFrom_eq (library : String) (fresh : Bool) (ls : List String) :
    examplesFrom library fresh ls = (if fresh then (readSections ls).1.head?.toList.map
        (library ++ "::" ++ ·) else []) ++
      (readSections ls).2.filterMap fun g => g.2.head?.map (library ++ "::" ++ ·) := by
  induction ls generalizing fresh with
  | nil => cases fresh <;> rfl
  | cons line ls ih =>
    rw [examplesFrom, readSections]
    dsimp only
    split
    · rw [ih]
      cases h : (readSections ls).1 <;> cases fresh <;> simp [List.filterMap_cons]
    · split
      · cases fresh <;> simp [ih]
      · rw [ih]

/-! ## The lines of the page -/

/-- The first line of the page below its title. -/
def firstLine (first : String) : String :=
  if Text.startsWith first title then Text.drop first 2 else first

/-- The lines of the page above the section on usage, with the blank ones at their end. -/
def bodyLines (library first : String) (rest : List String) : List String :=
  ("# " ++ library) :: "" :: firstLine first :: rest.map (qualifyLine library)

/-- The commands that serve as examples. -/
def exampleCommands (library : String) (examples : List String) : List String :=
  if examples = [] then ["cargo docmd show " ++ library ++ "::SomeItem"]
  else (examples.take maxExamples).map ("cargo docmd show " ++ ·)

/-- The lines of the section on usage. -/
def usageLines (library : String) (examples : List String) : List String :=
  ["", "## Usage", "",
    "To view documentation for a specific item, use the `show` command:", "", "```shell",
    "cargo docmd show <ITEM_PATH>", "```", "", "Examples:", "", "```shell"] ++
    exampleCommands library examples ++ ["```"]

theorem exampleCommands_ne_nil (library : String) (examples : List String) :
    exampleCommands library examples ≠ [] := by
  rw [exampleCommands]
  split
  · simp
  · simpa [maxExamples]

theorem mem_exampleCommands (h : line ∈ exampleCommands library examples) :
    ∃ example', line = "cargo docmd show " ++ example' ∧
      (example' = library ++ "::SomeItem" ∨ example' ∈ examples) := by
  rw [exampleCommands] at h
  split at h
  · exact ⟨_, by rw [List.mem_singleton.1 h, String.append_assoc], .inl rfl⟩
  · obtain ⟨example', hmem, rfl⟩ := List.mem_map.1 h
    exact ⟨example', rfl, .inr (List.mem_of_mem_take hmem)⟩

theorem usage_eq (library : String) (examples : List String) : usage library examples =
    ["", "## Usage", "",
      "To view documentation for a specific item, use the `show` command:", "",
      Markdown.codeBlock "cargo docmd show <ITEM_PATH>" "shell", "", "Examples:", "",
      Markdown.codeBlock ("\n".intercalate (exampleCommands library examples)) "shell"] := by
  rw [usage, exampleCommands]
  cases examples <;> rfl

/-- The lines of a block of code. -/
theorem lines_codeBlock (code : List String) (hne : code ≠ [])
    (hcode : ∀ m ∈ code, IsLine m ∧ EndsSolid m) :
    Text.lines (Markdown.codeBlock ("\n".intercalate code) "shell" ++ "\n") =
      "```shell" :: code ++ ["```"] := by
  have htrim : Text.trimEnd ("\n".intercalate code) = "\n".intercalate code := by
    obtain ⟨init, last, rfl⟩ := (List.eq_nil_or_concat' code).resolve_left hne
    have hlast := (hcode last (by simp)).2
    have hblank : Text.allBlank "" = true := rfl
    simpa using Text.trimEnd_intercalate hlast hblank
  have hblock : Markdown.codeBlock ("\n".intercalate code) "shell" ++ "\n" =
      "```shell" ++ "\n" ++ ("\n".intercalate code ++ "\n" ++ ("```" ++ "\n")) := by
    rw [Markdown.codeBlock, htrim]
    simp [String.append_assoc]
  rw [hblock, Text.lines_append_feed, Text.lines_append_feed,
    Text.lines_intercalate_of_isLine hne fun m hm => (hcode m hm).1,
    (show IsLine "```shell" by decide).lines, (show IsLine "```" by decide).lines]
  rfl

theorem lines_usage {examples : List String}
    (h : ∀ m ∈ exampleCommands library examples, IsLine m ∧ EndsSolid m) :
    (usage library examples).flatMap (fun m => Text.lines (m ++ "\n")) =
      usageLines library examples := by
  have hshow : Text.lines (Markdown.codeBlock "cargo docmd show <ITEM_PATH>" "shell" ++ "\n") =
      ["```shell", "cargo docmd show <ITEM_PATH>", "```"] :=
    lines_codeBlock ["cargo docmd show <ITEM_PATH>"] (by simp) fun m hm => by
      rw [List.mem_singleton.1 hm]
      exact ⟨by decide, '>', rfl, rfl⟩
  have htitle := (show IsLine "## Usage" by decide).lines
  have hintro := (show IsLine
    "To view documentation for a specific item, use the `show` command:" by decide).lines
  have hexamples := (show IsLine "Examples:" by decide).lines
  have hempty := (show IsLine "" by decide).lines
  rw [usage_eq]
  simp only [List.flatMap_cons, List.flatMap_nil, hempty, htitle, hintro, hexamples, hshow,
    lines_codeBlock _ (exampleCommands_ne_nil library examples) h, usageLines]
  simp

theorem mem_examplesFrom {fresh : Bool} (h : s ∈ examplesFrom library fresh ls) :
    ∃ item, "- " ++ item ∈ ls ∧ s = library ++ "::" ++ item := by
  induction ls generalizing fresh with
  | nil => cases h
  | cons line ls ih =>
    have hrest {fresh : Bool} (h : s ∈ examplesFrom library fresh ls) :
        ∃ item, "- " ++ item ∈ line :: ls ∧ s = library ++ "::" ++ item := by
      obtain ⟨item, hitem, hs⟩ := ih h
      exact ⟨item, List.mem_cons_of_mem _ hitem, hs⟩
    rw [examplesFrom] at h
    split at h
    · exact hrest h
    · split at h
      · rename_i hentry
        split at h
        · rcases List.mem_cons.1 h with rfl | h
          · have hline : "- " ++ Text.drop line 2 = line := Text.append_drop_of_startsWith hentry
            refine ⟨Text.drop line 2, ?_, rfl⟩
            rw [hline]
            exact List.mem_cons_self
          · exact hrest h
        · exact hrest h
      · exact hrest h

/-- The lines of a page, when no item in its listing ends in a blank. -/
theorem lines_page (hlibrary : IsLine library) (hcontent : Text.lines content = first :: rest)
    (hitems : ∀ item, "- " ++ item ∈ rest → EndsSolid item) :
    Text.lines (page library content) =
      Text.dropEndWhile Text.allBlank (bodyLines library first rest) ++
      usageLines library (examplesFrom library false rest) := by
  have hlines : ∀ line ∈ first :: rest, IsLine line := fun line hline =>
    Text.isLine_of_mem_lines (s := content) (hcontent ▸ hline)
  obtain ⟨hfirst, hrest⟩ := List.forall_mem_cons.1 hlines
  have hqualified : ∀ line ∈ rest, IsLine (qualifyLine library line) := by
    intro line hline
    rw [qualifyLine]
    split
    · exact (((show IsLine "- " by decide).append hlibrary).append (by decide)).append
        ((hrest line hline).drop 2)
    · exact hrest line hline
  have hbody : ∀ line ∈ bodyLines library first rest, IsLine line := by
    simp only [bodyLines, List.forall_mem_cons, List.forall_mem_map]
    refine ⟨(show IsLine "# " by decide).append hlibrary, by decide, ?_, hqualified⟩
    rw [firstLine]
    split
    · exact hfirst.drop 2
    · exact hfirst
  have hexamples : ∀ m ∈ exampleCommands library (examplesFrom library false rest),
      IsLine m ∧ EndsSolid m := by
    intro m hm
    obtain ⟨e, rfl, he⟩ := mem_exampleCommands hm
    suffices h : IsLine e ∧ EndsSolid e from
      ⟨(show IsLine "cargo docmd show " by decide).append h.1, h.2.append _⟩
    rcases he with rfl | he
    · exact ⟨hlibrary.append (by decide), EndsSolid.append ⟨'m', rfl, rfl⟩ _⟩
    · obtain ⟨item, hitem, rfl⟩ := mem_examplesFrom he
      have hline : IsLine item := by
        have hdrop := (hrest _ hitem).drop 2
        rwa [show Text.drop ("- " ++ item) 2 = item from Text.drop_append "- " item] at hdrop
      exact ⟨(hlibrary.append (by decide)).append hline, (hitems item hitem).append _⟩
  have hkept : ∀ line ∈ Text.dropEndWhile Text.allBlank (bodyLines library first rest),
      Text.lines (line ++ "\n") = [line] := by
    intro line hline
    obtain ⟨dropped, hsplit, -⟩ :=
      Text.dropEndWhile_append_dropped Text.allBlank (bodyLines library first rest)
    refine (hbody line ?_).lines
    rw [hsplit]
    exact List.mem_append_left _ hline
  -- Below the body stands the section on usage, whose blocks of code are several lines each.
  have hpage : page library content =
      "\n".intercalate (Text.dropEndWhile Text.allBlank (bodyLines library first rest) ++
        usage library (examplesFrom library false rest)) ++ "\n" := by
    rw [page, hcontent]
    rfl
  rw [hpage, Text.lines_intercalate (by simp [usage]), List.flatMap_append,
    List.flatMap_congr hkept, lines_usage hexamples]
  simp

/-! ## What the page names -/

theorem startsWith_command_entry (s : String) :
    Text.startsWith ("- " ++ s) "cargo docmd show " = false :=
  Text.startsWith_append_eq_false rfl rfl (by decide) s

theorem isNotable_command (s : String) : isNotable ("cargo docmd show " ++ s) = false := by
  rw [isNotable, Text.startsWith_append_eq_false rfl rfl (by decide),
    Text.startsWith_append_eq_false rfl rfl (by decide)]
  rfl

/-- A heading of the first level opens no section and is neither an item nor a command. -/
theorem marks_heading (s : String) : isNotable ("# " ++ s) = false ∧
    Text.startsWith ("# " ++ s) "cargo docmd show " = false := by
  refine ⟨?_, Text.startsWith_append_eq_false rfl rfl (by decide) s⟩
  rw [isNotable, Text.startsWith_append_eq_false (q := "- ") rfl rfl (by decide), Text.startsWith,
    String.toList_append]
  rfl

/-- Nor is it when it is the title of the listing and loses its mark. -/
theorem marks_firstLine (s : String) : isNotable (firstLine ("# " ++ s)) = false ∧
    Text.startsWith (firstLine ("# " ++ s)) "cargo docmd show " = false := by
  rw [firstLine]
  split
  · rename_i htitle
    have hdrop : Text.drop ("# " ++ s) 2 = s := Text.drop_append "# " s
    obtain ⟨t, rfl⟩ : ∃ t, s = "List of all items" ++ t := by
      have happend := Text.append_drop_of_startsWith htitle
      have hmark : title = "# " ++ "List of all items" := by decide
      refine ⟨Text.drop ("# " ++ s) title.toList.length, String.append_right_inj "# " |>.1 ?_⟩
      rw [← String.append_assoc, ← hmark, happend]
    rw [hdrop, isNotable, Text.startsWith_append_eq_false rfl rfl (by decide),
      Text.startsWith_append_eq_false rfl rfl (by decide),
      Text.startsWith_append_eq_false rfl rfl (by decide)]
    exact ⟨rfl, rfl⟩
  · exact marks_heading s

theorem qualifyLine_entry (library item : String) :
    qualifyLine library ("- " ++ item) = "- " ++ (library ++ "::" ++ item) := by
  have hdrop : Text.drop ("- " ++ item) 2 = item := Text.drop_append "- " item
  rw [qualifyLine, if_pos (startsWith_entry item), hdrop, String.append_assoc, String.append_assoc,
    String.append_assoc]

theorem qualifyLine_of_not_entry (h : Text.startsWith line "- " = false) :
    qualifyLine library line = line := by
  rw [qualifyLine, if_neg (by simp [h])]

/-- A line names an item or not, and then it stays as it is. -/
theorem entry_or_not (line : String) :
    (∃ item, line = "- " ++ item) ∨ Text.startsWith line "- " = false := by
  cases h : Text.startsWith line "- " with
  | true => exact .inl ⟨_, (Text.append_drop_of_startsWith h).symm⟩
  | false => exact .inr rfl

theorem filter_notable_usageLines (library : String) (examples : List String) :
    (usageLines library examples).filter isNotable = [] := by
  have hcommands : (exampleCommands library examples).filter isNotable = [] := by
    rw [List.filter_eq_nil_iff]
    intro m hm
    obtain ⟨e, rfl, -⟩ := mem_exampleCommands hm
    simp [isNotable_command]
  rw [usageLines, List.filter_append, List.filter_append, hcommands]
  rfl

theorem filter_command_usageLines (library : String) (examples : List String) :
    (usageLines library examples).filter (Text.startsWith · "cargo docmd show ") =
      "cargo docmd show <ITEM_PATH>" :: exampleCommands library examples := by
  have hcommands : (exampleCommands library examples).filter
      (Text.startsWith · "cargo docmd show ") = exampleCommands library examples := by
    rw [List.filter_eq_self]
    intro m hm
    obtain ⟨e, rfl, -⟩ := mem_exampleCommands hm
    exact Text.startsWith_append _ _
  rw [usageLines, List.filter_append, List.filter_append, hcommands]
  exact List.append_nil _

section

variable (hlibrary : IsLine library) (hcontent : Text.lines content = ("# " ++ t) :: rest)
  (hitems : ∀ item, "- " ++ item ∈ rest → EndsSolid item)

include hlibrary hcontent hitems

/-- Lines of a kind to which no blank line and no heading of the first level belongs stand in what
is made of the listing or in the section on usage. -/
theorem filter_lines_page (hblank : ∀ s, Text.allBlank s = true → p s = false)
    (hheading : ∀ s, p ("# " ++ s) = false) (hfirst : p (firstLine ("# " ++ t)) = false) :
    (Text.lines (page library content)).filter p =
      (rest.map (qualifyLine library)).filter p ++
        (usageLines library (examplesFrom library false rest)).filter p := by
  -- Blank lines are dropped at the end of the body, and they are not of the kind.
  obtain ⟨dropped, hsplit, hdropped⟩ :=
    Text.dropEndWhile_append_dropped Text.allBlank (bodyLines library ("# " ++ t) rest)
  have hnone : dropped.filter p = [] := by
    rw [List.filter_eq_nil_iff]
    intro s hs
    simp [hblank s (hdropped s hs)]
  have hbody : (Text.dropEndWhile Text.allBlank (bodyLines library ("# " ++ t) rest)).filter p =
      (bodyLines library ("# " ++ t) rest).filter p := by
    conv_rhs => rw [hsplit, List.filter_append, hnone, List.append_nil]
  rw [lines_page hlibrary hcontent hitems, List.filter_append, hbody, bodyLines,
    List.filter_cons_of_neg (by simp [hheading]), List.filter_cons_of_neg (by simp [hblank "" rfl]),
    List.filter_cons_of_neg (by simp [hfirst])]

theorem filter_notable_lines_page : (Text.lines (page library content)).filter isNotable =
    (rest.map (qualifyLine library)).filter isNotable := by
  rw [filter_lines_page hlibrary hcontent hitems (fun s hs => ?_) (fun s => (marks_heading s).1)
    (marks_firstLine t).1, filter_notable_usageLines, List.append_nil]
  rw [isNotable, Text.startsWith_eq_false_of_allBlank hs rfl (by decide),
    Text.startsWith_eq_false_of_allBlank hs rfl (by decide)]
  rfl

/-- The page names the items of the listing, each under its full name. -/
theorem entryLines_page : entryLines (page library content) =
    (rest.filter (Text.startsWith · "- ")).map (qualifyLine library) := by
  rw [entryLines, ← filter_entry_filter, filter_notable_lines_page hlibrary hcontent hitems,
    filter_entry_filter, List.filter_map]
  refine congrArg (List.map _) (List.filter_congr fun line _ => ?_)
  rw [Function.comp_apply]
  rcases entry_or_not line with ⟨item, rfl⟩ | hline
  · rw [qualifyLine_entry, startsWith_entry, startsWith_entry]
  · rw [qualifyLine_of_not_entry hline]

/-- The page has the sections of the listing, each item under its full name. -/
theorem sections_page : sections (page library content) =
    (readSections rest).2.map fun g => (g.1, g.2.map (library ++ "::" ++ ·)) := by
  have hqualify (ls : List String) : readSections (ls.map (qualifyLine library)) =
      ((readSections ls).1.map (library ++ "::" ++ ·),
        (readSections ls).2.map fun g => (g.1, g.2.map (library ++ "::" ++ ·))) := by
    induction ls with
    | nil => rfl
    | cons line ls ih =>
      rcases entry_or_not line with ⟨item, rfl⟩ | hline
      · rw [List.map_cons, qualifyLine_entry]
        have hentry := readSections_entries [item] ls
        have hqualified := readSections_entries [library ++ "::" ++ item]
          (ls.map (qualifyLine library))
        simp only [List.map_singleton, List.singleton_append] at hentry hqualified
        rw [hentry, hqualified, ih]
        rfl
      · rw [List.map_cons, qualifyLine_of_not_entry hline, readSections, ih, readSections]
        dsimp only
        split
        · rfl
        · simp [hline]
  rw [sections, ← readSections_filter, filter_notable_lines_page hlibrary hcontent hitems,
    readSections_filter, hqualify]

/-- The commands of the page are one that tells what to put in, and one for the first item of each
of the first sections. -/
theorem commandLines_page
    (hrest : ∀ line ∈ rest, Text.startsWith line "cargo docmd show " = false) :
    commandLines (page library content) = "cargo docmd show <ITEM_PATH>" ::
      exampleCommands library (examplesFrom library false rest) := by
  rw [commandLines, filter_lines_page hlibrary hcontent hitems (fun s hs =>
      Text.startsWith_eq_false_of_allBlank hs rfl (by decide)) (fun s => (marks_heading s).2)
    (marks_firstLine t).2, filter_command_usageLines, List.filter_eq_nil_iff.2, List.nil_append]
  simp only [List.forall_mem_map]
  intro line hline
  rcases entry_or_not line with ⟨item, rfl⟩ | hentry
  · simp [qualifyLine_entry, startsWith_command_entry]
  · simp [qualifyLine_of_not_entry hentry, hrest line hline]

end

/-! ## Listings made of sections -/

theorem mem_sectionLines (h : line ∈ sectionLines g) :
    line = "" ∨ line = "### " ++ g.1 ∨ ∃ item ∈ g.2, line = "- " ++ item := by
  simp only [sectionLines, List.mem_cons, List.mem_map] at h
  rcases h with h | h | h | ⟨item, hitem, rfl⟩
  · exact .inl h
  · exact .inr (.inl h)
  · exact .inl h
  · exact .inr (.inr ⟨item, hitem, rfl⟩)

/-- An item in the lines of a section is one of the section. -/
theorem mem_of_entry_mem_sectionLines {item : String} (h : "- " ++ item ∈ sectionLines g) :
    item ∈ g.2 := by
  have hentry := startsWith_entry item
  rcases mem_sectionLines h with he | he | ⟨item', hitem, he⟩
  · rw [he] at hentry
    cases hentry
  · rw [he, startsWith_entry_title] at hentry
    cases hentry
  · rwa [String.append_right_inj "- " |>.1 he]

section

variable (hlibrary : IsLine library)
  (hcontent : Text.lines content = ("# " ++ t) :: groups.flatMap sectionLines)
  (hsolid : ∀ g ∈ groups, ∀ item ∈ g.2, EndsSolid item)

include hlibrary hcontent hsolid

omit hlibrary hcontent in
theorem endsSolid_of_mem_sectionLines :
    ∀ item, "- " ++ item ∈ groups.flatMap sectionLines → EndsSolid item := by
  intro item hitem
  obtain ⟨g, hg, hline⟩ := List.mem_flatMap.1 hitem
  exact hsolid g hg item (mem_of_entry_mem_sectionLines hline)

theorem sections_page_of_sections : sections (page library content) =
    groups.map fun g => (g.1, g.2.map (library ++ "::" ++ ·)) := by
  rw [sections_page hlibrary hcontent (endsSolid_of_mem_sectionLines hsolid),
    readSections_sectionLines]

theorem entryLines_page_of_sections : entryLines (page library content) =
    (groups.flatMap (·.2)).map fun item => "- " ++ (library ++ "::" ++ item) := by
  have hsection (g : String × List String) :
      (sectionLines g).filter (Text.startsWith · "- ") = g.2.map ("- " ++ ·) := by
    have hitems : (g.2.map ("- " ++ ·)).filter (Text.startsWith · "- ") = g.2.map ("- " ++ ·) := by
      rw [List.filter_eq_self, List.forall_mem_map]
      exact fun item _ => startsWith_entry item
    rw [← filter_entry_filter, filter_sectionLines,
      List.filter_cons_of_neg (by simp [startsWith_entry_title]), hitems]
  rw [entryLines_page hlibrary hcontent (endsSolid_of_mem_sectionLines hsolid),
    List.filter_flatMap, List.flatMap_congr fun g _ => hsection g, ← List.map_flatMap,
    List.map_map]
  exact List.map_congr_left fun item _ => qualifyLine_entry library item

theorem commandLines_page_of_sections : commandLines (page library content) =
    "cargo docmd show <ITEM_PATH>" :: exampleCommands library
      ((groups.filterMap (·.2.head?)).map (library ++ "::" ++ ·)) := by
  rw [commandLines_page hlibrary hcontent (endsSolid_of_mem_sectionLines hsolid)
      fun line hline => ?_, examplesFrom_eq, readSections_sectionLines, List.map_filterMap]
  · rfl
  · obtain ⟨g, -, hline⟩ := List.mem_flatMap.1 hline
    rcases mem_sectionLines hline with rfl | rfl | ⟨item, -, rfl⟩
    · rfl
    · exact Text.startsWith_append_eq_false rfl rfl (by decide) _
    · exact startsWith_command_entry item

end

end CrateBook.Listing
