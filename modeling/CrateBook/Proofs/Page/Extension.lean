import CrateBook.Proofs.Page.Conservation

/-!
# Entries that are added to the tables

Entries that a configuration adds to the skip tables take nothing back: what was left out stays left
out (`covers_extended`). With tables that leave out more, every block has a part of the ordinary
characters that it had, in their order (`sublist_nodeMarkdown` and the lemmas mutual with it). Items
that follow a left-out one are numbered anew and descriptions may go to an earlier term, but the
numbers are no ordinary characters and the order of the descriptions is the same. So a configuration
only takes words from a page: `sublist_pageMarkdown_extendedBy`.
-/

namespace CrateBook.Page

open Html (Node Element AttrValue)
open Text (ordinary)

variable {skip more : SkipRules} {config : Json} {key : String} {s t : String}
  {entries new : List String} {lines lines' : List String}

/-! ## Tables -/

/-- Whatever `skip` leaves out, `more` leaves out too. -/
def SkipRules.Covers (more skip : SkipRules) : Prop :=
  ∀ name attrs, skip.skips name attrs = true → more.skips name attrs = true

theorem subset_addEntries (entries new : List String) :
    entries ⊆ SkipRules.addEntries entries new := by
  induction new generalizing entries with
  | nil => exact List.Subset.refl _
  | cons e new ih =>
    rw [SkipRules.addEntries, List.foldl_cons]
    refine List.Subset.trans ?_ (ih _)
    split
    · exact List.Subset.refl _
    · exact List.subset_append_left _ _

theorem any_of_subset {p : String → Bool} (h : entries ⊆ new) (hp : entries.any p = true) :
    new.any p = true := by
  obtain ⟨e, he, hpe⟩ := List.any_eq_true.1 hp
  exact List.any_eq_true.2 ⟨e, h he, hpe⟩

/-- Tables that are extended leave out all that they left out before. -/
theorem covers_extended (skip : SkipRules) (tags ids classParts : List String) :
    (skip.extended tags ids classParts).Covers skip := by
  intro name attrs h
  rw [SkipRules.skips, Bool.or_eq_true, Bool.or_eq_true] at h ⊢
  refine h.imp (Or.imp (fun htag => ?_) fun hid => ?_) fun hclass => ?_
  · rw [SkipRules.skipsTag, List.contains_iff_mem] at htag ⊢
    exact subset_addEntries _ _ htag
  · cases hattr : Html.attr? "id" attrs with
    | none => simp [hattr, SkipRules.skipsId] at hid
    | some v =>
      cases v with
      | tokens l => simp [hattr, SkipRules.skipsId] at hid
      | text id =>
        rw [hattr, SkipRules.skipsId, List.contains_iff_mem] at hid
        rw [SkipRules.skipsId, List.contains_iff_mem]
        exact subset_addEntries _ _ hid
  · cases hattr : Html.attr? "class" attrs with
    | none => simp [hattr, SkipRules.skipsClass] at hclass
    | some v =>
      cases v with
      | text s | tokens l =>
        rw [hattr, SkipRules.skipsClass, Bool.and_eq_true] at hclass
        rw [SkipRules.skipsClass, Bool.and_eq_true]
        exact ⟨hclass.1, any_of_subset (subset_addEntries _ _) hclass.2⟩

/-! ## Configurations -/

/-- The configuration lists these texts under a key; it lists none when it has no such member. -/
inductive ListsTexts (config : Json) (key : String) : List String → Prop
  | absent : config.memberOrNull key = .ok .null → ListsTexts config key []
  | listed {l : List String} : config.memberOrNull key = .ok (.arr (l.map .str)) →
    ListsTexts config key l

theorem partsIfAny_arr (items : List Json) : (Json.arr items).partsIfAny = .ok items := by
  cases items <;> rfl

theorem ListsTexts.readEntries {l : List String} (h : ListsTexts config key l) :
    SkipRules.readEntries key config = .ok (l.map some) := by
  cases h with
  | absent h =>
    rw [SkipRules.readEntries, h]
    rfl
  | listed h =>
    simp only [SkipRules.readEntries, h, bind, Except.bind, partsIfAny_arr, List.mapM_map,
      Function.comp_def, List.mapM_pure]
    rfl

/-- The configuration section lists texts for each of the tables. -/
structure ListsEntries (config : Json) (tags ids classParts : List String) : Prop where
  tags : ListsTexts config "tags" tags
  ids : ListsTexts config "ids" ids
  classParts : ListsTexts config "class_substrings" classParts

theorem ListsEntries.extendedBy {tags ids classParts : List String}
    (h : ListsEntries config tags ids classParts) (skip : SkipRules) :
    skip.extendedBy config = .ok (skip.extended tags ids classParts) := by
  have htexts (l : List String) : (l.map some).filterMap id = l := by
    rw [List.filterMap_map, Function.id_comp, List.filterMap_some]
  have hstray : skip.strayAmong (classParts.map some) = none := by
    rw [SkipRules.strayAmong, if_neg (by simp)]
  rw [SkipRules.extendedBy, h.tags.readEntries, h.ids.readEntries, h.classParts.readEntries]
  simp only [bind, Except.bind, pure, Except.pure, htexts, hstray]
  cases hskip : skip.stray <;> simp [SkipRules.extended, hskip]

/-! ## Blocks -/

theorem flatMap_ordinary_unlessEmpty (s : String) (lines : List String) :
    (if s == "" then lines else s :: lines).flatMap ordinary =
      ordinary s ++ lines.flatMap ordinary := by
  split
  · rename_i hempty
    rw [eq_of_beq hempty]
    rfl
  · rfl

theorem ordinary_wrapped {name before after : String} {spacing : Spacing}
    (h : ruleFor name = .wrap before after spacing) (inner : String) :
    ordinary (before ++ (if spacing == .squeezed then Text.squeeze inner else inner) ++ after) =
      ordinary inner := by
  obtain ⟨hbefore, hafter⟩ := ordinary_of_wrap h
  rw [Text.ordinary_append, Text.ordinary_append, hbefore, hafter, List.nil_append,
    List.append_nil]
  split
  · exact Text.ordinary_squeeze inner
  · rfl

theorem ordinary_span (parent inner : String) :
    ordinary (if parent == "pre" then inner else "`" ++ inner ++ "`") = ordinary inner := by
  split
  · rfl
  · rw [Text.ordinary_append, Text.ordinary_append, show ordinary "`" = [] by decide,
      List.nil_append, List.append_nil]

theorem ordinary_item (ordered : Bool) (count : Nat) (content : String) :
    ordinary (marker ordered count ++ " " ++ Text.squeeze content) = ordinary content := by
  rw [Text.ordinary_append, Text.ordinary_append, ordinary_marker, Text.ordinary_squeeze,
    show ordinary " " = [] by decide]
  rfl

theorem flatMap_rows_filter (rows : List (List String)) :
    (rows.filter (!·.isEmpty)).flatMap (·.flatMap ordinary) =
      rows.flatMap (·.flatMap ordinary) := by
  induction rows with
  | nil => rfl
  | cons r rows ih =>
    cases r with
    | nil => exact ih
    | cons c cs => exact congrArg (_ ++ ·) ih

mutual

/-- With tables that leave out more, a node has a part of the ordinary characters that it had. -/
theorem sublist_nodeMarkdown (h : more.Covers skip) (parent : String) (verbatim inline : Bool) :
    ∀ n : Node, (ordinary (nodeMarkdown more parent verbatim inline n)).Sublist
      (ordinary (nodeMarkdown skip parent verbatim inline n))
  | .text _ _ => .refl _
  | .comment _ => .refl _
  | .cdata _ => .refl _
  | .element name attrs inner => by
    rw [nodeMarkdown, nodeMarkdown]
    by_cases hmore : more.skips name attrs = true
    · rw [if_pos hmore]
      exact List.nil_sublist _
    have hskip : ¬ skip.skips name attrs = true := mt (h name attrs) hmore
    rw [if_neg hmore, if_neg hskip]
    cases hrule : ruleFor name with
    | wrap before after spacing =>
      dsimp only
      rw [ordinary_wrapped hrule, ordinary_wrapped hrule]
      exact sublist_childrenMarkdown h name _ _ inner
    | fixed text => exact .refl _
    | code =>
      dsimp only
      rw [ordinary_span, ordinary_span]
      exact sublist_childrenMarkdown h name true false inner
    | list ordered =>
      dsimp only
      rw [ordinary_paragraph, ordinary_paragraph]
      exact sublist_listLines h name ordered 1 1 inner
    | definitions =>
      dsimp only
      rw [ordinary_definitions, ordinary_definitions]
      exact sublist_definitions h inner
    | quote =>
      dsimp only
      rw [ordinary_quotation, ordinary_quotation]
      exact sublist_childrenMarkdown h name false false inner
    | table =>
      dsimp only
      rw [ordinary_tableOf, ordinary_tableOf]
      exact sublist_tableRows h inner

theorem sublist_childrenMarkdown (h : more.Covers skip) (parent : String)
    (verbatim inline : Bool) :
    ∀ ns : List Node, (ordinary (childrenMarkdown more parent verbatim inline ns)).Sublist
      (ordinary (childrenMarkdown skip parent verbatim inline ns))
  | [] => .refl _
  | n :: ns => by
    rw [childrenMarkdown, childrenMarkdown, Text.ordinary_append, Text.ordinary_append]
    exact (sublist_nodeMarkdown h parent verbatim inline n).append
      (sublist_childrenMarkdown h parent verbatim inline ns)

/-- The numbers of the items do not count, so they may differ. -/
theorem sublist_listLines (h : more.Covers skip) (parent : String) (ordered : Bool)
    (count count' : Nat) :
    ∀ ns : List Node, ((listLines more parent ordered count ns).flatMap ordinary).Sublist
      ((listLines skip parent ordered count' ns).flatMap ordinary)
  | [] => .refl _
  | .text _ s :: ns => by
    rw [listLines, listLines, flatMap_ordinary_unlessEmpty, flatMap_ordinary_unlessEmpty]
    exact (sublist_listLines h parent ordered count count' ns).append_left _
  | .comment _ :: ns => sublist_listLines h parent ordered count count' ns
  | .cdata _ :: ns => sublist_listLines h parent ordered count count' ns
  | .element name attrs inner :: ns => by
    rw [listLines, listLines]
    by_cases hname : (name == "li") = true
    · rw [if_pos hname, if_pos hname]
      have hcontent := sublist_childrenMarkdown h name false true inner
      by_cases hmore : more.skips name attrs = true
      · rw [if_pos hmore]
        split
        · exact sublist_listLines h parent ordered count count' ns
        · exact (sublist_listLines h parent ordered count (count' + 1) ns).trans
            (List.sublist_append_right _ _)
      · have hskip : ¬ skip.skips name attrs = true := mt (h name attrs) hmore
        rw [if_neg hmore, if_neg hskip, List.flatMap_cons, List.flatMap_cons, ordinary_item,
          ordinary_item]
        exact hcontent.append (sublist_listLines h parent ordered (count + 1) (count' + 1) ns)
    · have hcontent :=
        sublist_nodeMarkdown h parent false false (.element name attrs inner)
      rw [if_neg hname, if_neg hname]
      dsimp only
      rw [flatMap_ordinary_unlessEmpty, flatMap_ordinary_unlessEmpty, Text.ordinary_squeeze,
        Text.ordinary_squeeze]
      exact hcontent.append (sublist_listLines h parent ordered count count' ns)

theorem sublist_definitions (h : more.Covers skip) :
    ∀ ns : List Node, (((definitions more ns).map Definition.text).flatMap ordinary).Sublist
      (((definitions skip ns).map Definition.text).flatMap ordinary)
  | [] => .refl _
  | .text _ _ :: ns => sublist_definitions h ns
  | .comment _ :: ns => sublist_definitions h ns
  | .cdata _ :: ns => sublist_definitions h ns
  | .element name attrs inner :: ns => by
    have hcontent := sublist_childrenMarkdown h name false true inner
    have hrest := sublist_definitions h ns
    have htext (s : String) (ds : List Definition) :
        (((if name == "dt" then .term s else .description s) :: ds : List Definition).map
          Definition.text).flatMap ordinary =
          ordinary s ++ (ds.map Definition.text).flatMap ordinary := by
      split <;> rfl
    rw [definitions, definitions]
    by_cases hmore : ((name == "dt" || name == "dd") && !more.skips name attrs) = true
    · have hskip : ((name == "dt" || name == "dd") && !skip.skips name attrs) = true := by
        rw [Bool.and_eq_true, Bool.not_eq_true'] at hmore ⊢
        exact ⟨hmore.1, Bool.eq_false_iff.2 (mt (h name attrs) (by simp [hmore.2]))⟩
      rw [if_pos hmore, if_pos hskip, htext, htext, Text.ordinary_squeeze, Text.ordinary_squeeze]
      exact hcontent.append hrest
    · rw [if_neg hmore]
      split
      · rw [htext]
        exact hrest.trans (List.sublist_append_right _ _)
      · exact hrest

/-- Rows are found with any tables. -/
theorem sublist_tableRows (h : more.Covers skip) :
    ∀ ns : List Node, ((tableRows more ns).flatMap (·.flatMap ordinary)).Sublist
      ((tableRows skip ns).flatMap (·.flatMap ordinary))
  | [] => .refl _
  | .text _ _ :: ns => sublist_tableRows h ns
  | .comment _ :: ns => sublist_tableRows h ns
  | .cdata _ :: ns => sublist_tableRows h ns
  | .element name _ inner :: ns => by
    have hinner := sublist_tableRows h inner
    have hrest := sublist_tableRows h ns
    rw [tableRows, tableRows, List.flatMap_append, List.flatMap_append, List.flatMap_append,
      List.flatMap_append, flatMap_rows_filter, flatMap_rows_filter]
    refine List.Sublist.append (List.Sublist.append ?_ hinner) hrest
    split
    · simpa using sublist_rowCells h inner
    · exact .refl _

theorem sublist_rowCells (h : more.Covers skip) :
    ∀ ns : List Node, ((rowCells more ns).flatMap ordinary).Sublist
      ((rowCells skip ns).flatMap ordinary)
  | [] => .refl _
  | .text _ _ :: ns => sublist_rowCells h ns
  | .comment _ :: ns => sublist_rowCells h ns
  | .cdata _ :: ns => sublist_rowCells h ns
  | .element name _ inner :: ns => by
    have hcontent := sublist_childrenMarkdown h name false true inner
    have hrest := sublist_rowCells h ns
    rw [rowCells, rowCells]
    split
    · dsimp only
      rw [List.flatMap_cons, List.flatMap_cons, ordinary_escaped, ordinary_escaped,
        Text.ordinary_squeeze, Text.ordinary_squeeze]
      exact hcontent.append hrest
    · exact hrest

end

/-! ## Pages -/

/-- **A configuration only takes words from a page.** Tables that are extended by a configuration
section of lists of texts leave out all that they left out before, and a page written with them has
a part of the ordinary characters that it has without the section, in their order. -/
theorem sublist_pageMarkdown_extendedBy {tags ids classParts : List String}
    (hconfig : ListsEntries config tags ids classParts) (skip : SkipRules) :
    ∃ more, skip.extendedBy config = .ok more ∧
      (∀ name attrs, skip.skips name attrs = true → more.skips name attrs = true) ∧
      ∀ doc e, mainElement? doc = some e → ∃ full less, markdown? skip doc = some full ∧
        markdown? more doc = some less ∧ (ordinary less).Sublist (ordinary full) := by
  have hcovers := covers_extended skip tags ids classParts
  refine ⟨_, hconfig.extendedBy skip, hcovers, fun doc e hmain => ?_⟩
  refine ⟨childrenMarkdown skip e.name false false e.children,
    childrenMarkdown (skip.extended tags ids classParts) e.name false false e.children, ?_, ?_,
    sublist_childrenMarkdown hcovers e.name false false e.children⟩
  · rw [markdown?, hmain]
    rfl
  · rw [markdown?, hmain]
    rfl

/-- A configuration section that names terms and a class. -/
def moreEntries : Json :=
  .obj [("tags", .arr [.str "dt"]), ("class_substrings", .arr [.str "warn"])]

/-- An element that holds one piece of code. -/
def codeElement (name : String) (attrs : List (String × AttrValue)) (code : String) : Node :=
  .element name attrs [.element "code" [] [.text none code]]

/-- A numbered list with a warning in it, and a term with its description. -/
def pageWithWarning : List Node := [.element "main" [] [
  .element "ol" [] [codeElement "li" [] "a", codeElement "li" [("class", .text "warn")] "b",
    codeElement "li" [] "c"],
  .element "dl" [] [codeElement "dt" [] "t", codeElement "dd" [] "d"]]]

/-- Without the warning and the term, the list is numbered anew and the description stands alone. -/
theorem sublist_pageMarkdown_extendedBy_warning : ListsEntries moreEntries ["dt"] [] ["warn"] ∧
    ∃ more, SkipRules.default.extendedBy moreEntries = .ok more ∧
      ∃ full less, markdown? .default pageWithWarning = some full ∧
        markdown? more pageWithWarning = some less ∧ (ordinary less).Sublist (ordinary full) ∧
        full = "1. `a`\n2. `b`\n3. `c`\n\n- **`t`**: `d`\n\n" ∧
        less = "1. `a`\n2. `c`\n\n- `d`\n\n" := by
  have hentries : ListsEntries moreEntries ["dt"] [] ["warn"] :=
    ⟨.listed rfl, .absent rfl, .listed rfl⟩
  obtain ⟨more, hmore, -, hpage⟩ := sublist_pageMarkdown_extendedBy hentries .default
  obtain ⟨full, less, hfull, hless, hsub⟩ := hpage pageWithWarning _ rfl
  obtain rfl := Except.ok.inj ((hentries.extendedBy .default).symm.trans hmore)
  refine ⟨hentries, _, hmore, full, less, hfull, hless, hsub, ?_, ?_⟩
  · exact Option.some.inj (hfull.symm.trans (by rfl))
  · exact Option.some.inj (hless.symm.trans (by rfl))

end CrateBook.Page
