import CrateBook.Proofs.Listing.Index
import CrateBook.Proofs.Listing.Links
import CrateBook.Proofs.Listing.Page
import CrateBook.Proofs.Page.LineStarts
import CrateBook.Proofs.Page.Plain

/-!
# The page of all items and the index

A listing is read in two ways: the index follows the links in its lists of items, and the page of
all items is made of its lines. Where a listing holds a title, headings and lists of items, each
item a link that shows a bare name, both name the same items (`page_names_index`). The index knows a
name by its running text only, while the page has all the text of an item, so the two part where an
item has other text as well (`page_index_differ`).
-/

namespace CrateBook.Listing

open Html (Node Element AttrValue)
open Page (IsBare IsPlain SkipRules fill textsIn)
open Text (IsLine append_feeds isLine_squeeze)

/-! ## Listings -/

/-- The node writes nothing between blocks: it is blank text with a line feed, or no text. -/
def IsGap : Node → Prop
  | .text _ s => Text.allBlank s = true ∧ '\n' ∈ s.toList
  | .element _ _ _ => False
  | _ => True

/-- The nodes hold one anchor, which leads somewhere and shows a bare name, and nothing else is
written of them. -/
structure HoldsLink (skip : SkipRules) (ns : List Node) (link : Element) : Prop where
  plain : ∀ e ∈ Html.elementsOf ns, IsPlain skip e
  anchor : anchors ns = [link]
  leads : ∃ v, Html.attr? "href" link.attrs = some v ∧ v.toText ≠ ""
  alone : ∃ before after, textsIn ns = before ++ textsIn link.children ++ after ∧
    (∀ s ∈ before, Text.allBlank s = true) ∧ ∀ s ∈ after, Text.allBlank s = true
  -- The page has all texts, the index knows those of the running text.
  running : textsIn link.children = Html.textsOf none link.children
  bare : ∀ s ∈ textsIn link.children, IsBare s
  named : link.text ≠ ""

/-- The node may stand in a list of items: it is an item with one link, blank text, or no text. -/
def IsEntry (skip : SkipRules) : Node → Prop
  | .text _ s => Text.allBlank s = true
  | .element name attrs inner =>
    name = "li" ∧ skip.skips name attrs = false ∧ ∃ link, HoldsLink skip inner link
  | _ => True

/-- The node may stand in a listing below its title: it is a heading, a list of items, or a gap. -/
def IsPart (skip : SkipRules) : Node → Prop
  | .element name attrs inner => skip.skips name attrs = false ∧
    (name = "h3" ∧ NoItemList inner ∨
      name = "ul" ∧ isItemList ⟨name, attrs, inner⟩ = true ∧ ∀ n ∈ inner, IsEntry skip n)
  | n => IsGap n

/-- The links in a list of items. -/
def listedAt : Node → List Element
  | .element name _ inner => if name == "ul" then anchors inner else []
  | _ => []

/-- The main element of the document holds a title, whatever it says, and below it the parts of a
listing, at least one link among them. No list of items stands anywhere else. -/
structure IsListing (skip : SkipRules) (doc body : List Node) : Prop where
  placed : ∃ path before attrs title, Page.LeadsToMain path ∧ Apart path ∧ (∀ n ∈ before, IsGap n) ∧
    skip.skips "h1" attrs = false ∧ NoItemList title ∧
    doc = fill path (before ++ .element "h1" attrs title :: body)
  parts : ∀ n ∈ body, IsPart skip n
  listed : body.flatMap listedAt ≠ []

variable {skip : SkipRules} {doc body ns : List Node} {n : Node} {link e : Element}
  {around : List Element} {library : String}

/-! ## Links -/

/-- The name of a link is all the text that stands in it. -/
theorem HoldsLink.text_eq (h : HoldsLink skip ns link) :
    link.text = String.join (textsIn link.children) := by
  have hmem : link ∈ anchors ns := h.anchor ▸ List.mem_singleton_self link
  have hname : Html.asciiLower link.name = "a" := eq_of_beq (List.mem_filter.1 hmem).2
  have hapart : Html.apartElements.contains link.name = false := by
    have hall : ∀ s ∈ Html.apartElements, Html.asciiLower s ≠ "a" := by decide
    rw [Bool.eq_false_iff]
    exact fun hcontains => hall _ (List.contains_iff_mem.1 hcontains) hname
  rw [Element.text, hapart, if_neg Bool.false_ne_true, h.running]

theorem HoldsLink.isBlank_eq_false (h : HoldsLink skip ns link) {c : Char}
    (hc : c ∈ link.text.toList) : Text.isBlank c = false := by
  rw [h.text_eq, String.toList_join, List.mem_flatMap] at hc
  obtain ⟨s, hs, hc⟩ := hc
  exact (h.bare s hs).blank c hc

theorem HoldsLink.endsSolid (h : HoldsLink skip ns link) : Text.EndsSolid link.text := by
  have hne : link.text.toList ≠ [] := fun hnil => h.named (String.toList_eq_nil_iff.1 hnil)
  exact ⟨_, List.getLast?_eq_some_getLast hne, h.isBlank_eq_false (List.getLast_mem hne)⟩

theorem HoldsLink.squeeze (h : HoldsLink skip ns link) (parent : String) :
    Text.squeeze (Page.childrenMarkdown skip parent false true ns) = link.text := by
  obtain ⟨before, after, htexts, hbefore, hafter⟩ := h.alone
  have hne : String.join (textsIn link.children) ≠ "" := h.text_eq ▸ h.named
  rw [h.text_eq, Page.squeeze_childrenMarkdown_of_plain _ _ _ parent h.plain htexts hbefore h.bare
    hne hafter]

theorem anchors_cons (n : Node) (ns : List Node) :
    anchors (n :: ns) = n.elements.filter isAnchor ++ anchors ns := List.filter_append ..

theorem not_isAnchor_item (attrs : List (String × AttrValue)) (inner : List Node) :
    ¬isAnchor ⟨"li", attrs, inner⟩ = true :=
  show ¬(Html.asciiLower "li" == "a") = true by decide

theorem exists_of_mem_anchors (hns : ∀ n ∈ ns, IsEntry skip n) (he : e ∈ anchors ns) :
    ∃ inner, HoldsLink skip inner e := by
  induction ns with
  | nil => cases he
  | cons n ns ih =>
    obtain ⟨hn, hns⟩ := List.forall_mem_cons.1 hns
    rw [anchors_cons, List.mem_append] at he
    rcases he with he | he
    · cases n with
      | text | comment | cdata => cases he
      | element name attrs inner =>
        obtain ⟨rfl, -, link, hlink⟩ := hn
        rw [Html.Node.elements, List.filter_cons_of_neg (not_isAnchor_item attrs inner)] at he
        have hone : e ∈ [link] := hlink.anchor ▸ he
        exact ⟨inner, List.mem_singleton.1 hone ▸ hlink⟩
    · exact ih hns he

theorem IsPart.exists_of_mem (hn : IsPart skip n) (he : e ∈ listedAt n) :
    ∃ inner, HoldsLink skip inner e := by
  cases n with
  | text | comment | cdata => cases he
  | element name attrs inner =>
    obtain ⟨-, ⟨rfl, -⟩ | ⟨rfl, -, hinner⟩⟩ := hn
    · cases he
    · exact exists_of_mem_anchors hinner he

/-! ## What the index names -/

theorem selectedIn_entries {list : Element} (hlist : isItemList list = true)
    (hns : ∀ n ∈ ns, IsEntry skip n) : selectedIn (list :: around) ns = anchors ns := by
  induction ns with
  | nil => rfl
  | cons n ns ih =>
    obtain ⟨hn, hns⟩ := List.forall_mem_cons.1 hns
    rw [anchors_cons, ← ih hns]
    cases n with
    | text | comment | cdata => rfl
    | element name attrs inner =>
      obtain ⟨rfl, -⟩ := hn
      have hmet : itemLink.isMet ⟨"li", attrs, inner⟩ (list :: around) = false :=
        isMet_itemLink_eq_false (show Html.asciiLower "li" ≠ "a" by decide)
      have hitem : isItem ⟨"li", attrs, inner⟩ = true := by
        rw [isItem_eq]
        exact show (Html.asciiLower "li" == "li") = true by decide
      rw [selectedIn_element hmet, selectedIn_item hitem hlist, Html.Node.elements,
        List.filter_cons_of_neg (not_isAnchor_item attrs inner)]
      rfl

theorem selectedIn_parts (haround : ∀ e ∈ around, isItemList e = false)
    (hbody : ∀ n ∈ body, IsPart skip n) : selectedIn around body = body.flatMap listedAt := by
  induction body with
  | nil => rfl
  | cons n body ih =>
    obtain ⟨hn, hbody⟩ := List.forall_mem_cons.1 hbody
    rw [List.flatMap_cons, ← ih hbody]
    cases n with
    | text | comment | cdata => rfl
    | element name attrs inner =>
      obtain ⟨-, ⟨rfl, hinner⟩ | ⟨rfl, hlist, hinner⟩⟩ := hn
      · have hmet : itemLink.isMet ⟨"h3", attrs, inner⟩ around = false :=
          isMet_itemLink_eq_false (show Html.asciiLower "h3" ≠ "a" by decide)
        have hheading : isItemList ⟨"h3", attrs, inner⟩ = false :=
          isItemList_eq_false (show Html.asciiLower "h3" ≠ "ul" by decide)
        rw [selectedIn_element hmet,
          selectedIn_eq_nil (List.forall_mem_cons.2 ⟨hheading, haround⟩) hinner]
        rfl
      · have hmet : itemLink.isMet ⟨"ul", attrs, inner⟩ around = false :=
          isMet_itemLink_eq_false (show Html.asciiLower "ul" ≠ "a" by decide)
        rw [selectedIn_element hmet, selectedIn_entries hlist hinner]
        rfl

theorem selectedIn_gaps {before : List Node} (h : ∀ n ∈ before, IsGap n) :
    selectedIn around before = [] := by
  induction before with
  | nil => rfl
  | cons n before ih =>
    obtain ⟨hn, hbefore⟩ := List.forall_mem_cons.1 h
    cases n with
    | element => cases hn
    | text | comment | cdata => exact ih hbefore

/-- The selector finds the links in the lists of items. -/
theorem IsListing.selectAll (h : IsListing skip doc body) :
    Html.selectAll itemLink doc = body.flatMap listedAt := by
  obtain ⟨path, before, attrs, title, -, hpath, hbefore, -, htitle, rfl⟩ := h.placed
  have hnone : ∀ e ∈ ([] : List Element), isItemList e = false := by simp
  obtain ⟨around, haround, hfill⟩ := selectedIn_fill hpath hnone
    (before ++ .element "h1" attrs title :: body)
  have hmet : itemLink.isMet ⟨"h1", attrs, title⟩ around = false :=
    isMet_itemLink_eq_false (show Html.asciiLower "h1" ≠ "a" by decide)
  have hheading : isItemList ⟨"h1", attrs, title⟩ = false :=
    isItemList_eq_false (show Html.asciiLower "h1" ≠ "ul" by decide)
  rw [selectAll_itemLink, hfill, selectedIn_append, selectedIn_gaps hbefore,
    selectedIn_element hmet, selectedIn_eq_nil (List.forall_mem_cons.2 ⟨hheading, haround⟩) htitle,
    selectedIn_parts haround h.parts]
  rfl

/-- The full names of the links, in the order of the document. -/
def fullNames (library : String) (body : List Node) : List String :=
  (body.flatMap listedAt).map fun e => library ++ "::" ++ e.text

theorem exists_of_mem_listed (hbody : ∀ n ∈ body, IsPart skip n) (he : e ∈ body.flatMap listedAt) :
    ∃ inner, HoldsLink skip inner e := by
  obtain ⟨n, hn, he⟩ := List.mem_flatMap.1 he
  exact (hbody n hn).exists_of_mem he

/-- The links of a listing lead somewhere and have the names that they show. -/
theorem IsListing.links (h : IsListing skip doc body) : (∀ l ∈ links doc, l.fragment ≠ none) ∧
    (links doc).map (·.name) = (body.flatMap listedAt).map Element.text := by
  rw [Listing.links, h.selectAll, List.map_map, List.forall_mem_map]
  refine ⟨fun e he => ?_, List.map_congr_left fun e he => ?_⟩
  · obtain ⟨inner, hlink⟩ := exists_of_mem_listed h.parts he
    obtain ⟨v, hv, hleads⟩ := hlink.leads
    simp [hv, hleads]
  · obtain ⟨inner, hlink⟩ := exists_of_mem_listed h.parts he
    exact Text.trim_eq_self fun c hc => hlink.isBlank_eq_false hc

/-- The index of a listing has the full names of its links. -/
theorem IsListing.index (h : IsListing skip doc body) (library : String) :
    ∃ index, Listing.index library doc = .ok index ∧
      ∀ key, key ∈ index.map (·.1) ↔ key ∈ fullNames library body := by
  obtain ⟨hleads, hnames⟩ := h.links
  have hne : Listing.links doc ≠ [] := by
    intro hnil
    rw [hnil, List.map_nil, eq_comm, List.map_eq_nil_iff] at hnames
    exact h.listed hnames
  have hfull : fullNames library body = (Listing.links doc).map (library ++ "::" ++ ·.name) := by
    have hmap := congrArg (List.map (library ++ "::" ++ ·)) hnames
    rw [List.map_map, List.map_map] at hmap
    exact hmap.symm
  refine ⟨indexOf library (Listing.links doc), index_eq_ok.2 ⟨hleads, hne, rfl⟩, fun key => ?_⟩
  rw [mem_keys_indexOf hleads, hfull, List.mem_map]
  simp only [eq_comm]

/-! ## What the page names -/

theorem entryLines_append {s : String} (h : Page.atLineStart s = true) (t : String) :
    entryLines (s ++ t) = entryLines s ++ entryLines t := by
  cases hs : s.toList.getLast? with
  | none =>
    rw [List.getLast?_eq_none_iff, String.toList_eq_nil_iff] at hs
    rw [hs, String.empty_append]
    rfl
  | some c =>
    rw [Page.atLineStart, hs, Option.all_some, beq_iff_eq] at h
    rw [entryLines, Text.lines_append_of_getLast (hs.trans (congrArg some h)), List.filter_append]
    rfl

/-- A paragraph of items names the items. -/
theorem entryLines_paragraph {items : List String} (h : ∀ item ∈ items, IsLine item) :
    entryLines (Page.paragraph (items.map ("- " ++ ·))) = items.map ("- " ++ ·) := by
  by_cases hitems : items = []
  · rw [hitems]
    rfl
  have hlines : ∀ line ∈ items.map ("- " ++ ·), IsLine line := by
    rw [List.forall_mem_map]
    exact fun item hitem => IsLine.append (by decide) (h item hitem)
  have hentries : ∀ line ∈ items.map ("- " ++ ·), Text.startsWith line "- " = true := by
    rw [List.forall_mem_map]
    exact fun item _ => startsWith_entry item
  rw [entryLines, Page.paragraph, if_neg (by simpa using hitems),
    Text.lines_intercalate_append_feeds (by simpa using hitems) hlines, List.filter_append,
    List.filter_eq_self.2 hentries]
  exact List.append_nil _

theorem listLines_entries (parent : String) (count : Nat) (hns : ∀ n ∈ ns, IsEntry skip n) :
    Page.listLines skip parent false count ns =
      ((anchors ns).map Element.text).map ("- " ++ ·) := by
  induction ns generalizing count with
  | nil =>
    rw [Page.listLines]
    rfl
  | cons n ns ih =>
    obtain ⟨hn, hrest⟩ := List.forall_mem_cons.1 hns
    rw [anchors_cons]
    cases n with
    | comment | cdata =>
      rw [Page.listLines, ih count hrest]
      rfl
    | text home s =>
      -- Text between the items would be a line of its own, if anything were left of it.
      rw [Page.listLines, Text.squeeze_of_allBlank (Page.allBlank_textMarkdown true hn)]
      exact ih count hrest
    | element name attrs inner =>
      obtain ⟨rfl, hkept, link, hlink⟩ := hn
      have hmarker : Page.marker false count ++ " " = "- " := by
        rw [Page.marker, if_neg Bool.false_ne_true]
        rfl
      rw [Html.Node.elements, List.filter_cons_of_neg (not_isAnchor_item attrs inner),
        ← anchors, hlink.anchor, Page.listLines, if_pos (beq_self_eq_true _),
        if_neg (by simp [hkept])]
      dsimp only
      rw [hmarker, hlink.squeeze, ih (count + 1) hrest]
      rfl

theorem IsGap.nodeMarkdown (hn : IsGap n) (parent : String) :
    Page.nodeMarkdown skip parent false false n = "" := by
  cases n with
  | element => cases hn
  | text home s => rw [Page.nodeMarkdown, Page.textMarkdown_of_feed hn.1 hn.2]
  | comment | cdata => rw [Page.nodeMarkdown]

theorem childrenMarkdown_gaps (hns : ∀ n ∈ ns, IsGap n) (parent : String) :
    Page.childrenMarkdown skip parent false false ns = "" := by
  induction ns with
  | nil => rw [Page.childrenMarkdown]
  | cons n ns ih =>
    obtain ⟨hn, hns⟩ := List.forall_mem_cons.1 hns
    rw [Page.childrenMarkdown, hn.nodeMarkdown, ih hns, String.append_empty]

/-- A heading is one line after its mark, and a blank line behind it. -/
theorem nodeMarkdown_heading {name : String} (mark : String) (attrs : List (String × AttrValue))
    (inner : List Node) (hrule : Page.ruleFor name = .wrap mark "\n\n" .squeezed)
    (hkept : skip.skips name attrs = false) (parent : String) :
    Page.nodeMarkdown skip parent false false (.element name attrs inner) =
      mark ++ Text.squeeze (Page.childrenMarkdown skip name false true inner) ++ "\n\n" := by
  rw [Page.nodeMarkdown, if_neg (by simp [hkept]), hrule]
  rfl

/-- A part of a listing ends its last line and names the items that it lists. -/
theorem entryLines_part (hn : IsPart skip n) (parent : String) :
    Page.atLineStart (Page.nodeMarkdown skip parent false false n) = true ∧
      entryLines (Page.nodeMarkdown skip parent false false n) =
        (listedAt n).map fun e => "- " ++ e.text := by
  cases n with
  | text | comment | cdata =>
    rw [IsGap.nodeMarkdown]
    · exact ⟨rfl, rfl⟩
    · exact hn
  | element name attrs inner =>
    obtain ⟨hkept, ⟨rfl, -⟩ | ⟨rfl, -, hinner⟩⟩ := hn
    · have hline : IsLine
          ("### " ++ Text.squeeze (Page.childrenMarkdown skip "h3" false true inner)) :=
        IsLine.append (by decide) (isLine_squeeze _)
      rw [nodeMarkdown_heading "### " attrs inner (by decide) hkept]
      refine ⟨Page.atLineStart_append (by decide), ?_⟩
      rw [entryLines, append_feeds, Text.lines_append_feed, hline.lines, List.singleton_append,
        List.filter_cons_of_neg (by simp [startsWith_entry_title])]
      rfl
    · have hitems : ∀ item ∈ (anchors inner).map Element.text, IsLine item := by
        rw [List.forall_mem_map]
        intro e he c hc
        obtain ⟨_, hlink⟩ := exists_of_mem_anchors hinner he
        exact Text.isLineEnd_of_isBlank (hlink.isBlank_eq_false hc)
      have hrule : Page.ruleFor "ul" = .list false := by decide
      rw [Page.nodeMarkdown, if_neg (by simp [hkept]), hrule]
      dsimp only
      rw [listLines_entries _ 1 hinner, entryLines_paragraph hitems, List.map_map]
      exact ⟨Page.atLineStart_paragraph _, rfl⟩

/-- The parts of a listing name the items that they list. -/
theorem entryLines_parts (hbody : ∀ n ∈ body, IsPart skip n) (parent : String) :
    entryLines (Page.childrenMarkdown skip parent false false body) =
      (body.flatMap listedAt).map fun e => "- " ++ e.text := by
  induction body with
  | nil => rw [Page.childrenMarkdown]; rfl
  | cons n body ih =>
    obtain ⟨hn, hbody⟩ := List.forall_mem_cons.1 hbody
    obtain ⟨hline, hentries⟩ := entryLines_part hn parent
    rw [Page.childrenMarkdown, entryLines_append hline, hentries, ih hbody, List.flatMap_cons,
      List.map_append]

/-- A listing is written as its title, a blank line and its parts. -/
theorem IsListing.markdown (h : IsListing skip doc body) : ∃ parent t content,
    Page.markdown? skip doc = some content ∧ Text.lines content = ("# " ++ t) :: "" ::
      Text.lines (Page.childrenMarkdown skip parent false false body) := by
  obtain ⟨path, before, attrs, title, hmain, -, hbefore, hkept, -, rfl⟩ := h.placed
  obtain ⟨name, mainAttrs, hmain⟩ := hmain.mainElement?
  have hheading := nodeMarkdown_heading "# " attrs title (by decide) hkept name
  refine ⟨name, Text.squeeze (Page.childrenMarkdown skip "h1" false true title), _,
    by rw [Page.markdown?, hmain, Option.map_some], ?_⟩
  dsimp only
  have hline : IsLine ("# " ++ Text.squeeze (Page.childrenMarkdown skip "h1" false true title)) :=
    IsLine.append (by decide) (isLine_squeeze _)
  rw [Page.childrenMarkdown_append, childrenMarkdown_gaps hbefore, String.empty_append,
    Page.childrenMarkdown, hheading, append_feeds, Text.lines_append_feed, Text.lines_append_feed,
    hline.lines]
  rfl

/-- The page of all items made of a listing names the links of the lists, in the order of the
document, and the index of the listing has these names and no others. -/
theorem page_names_index (h : IsListing skip doc body) (hlibrary : IsLine library) :
    ∃ content index, Page.markdown? skip doc = some content ∧
      Listing.index library doc = .ok index ∧
      entryLines (page library content) = (fullNames library body).map ("- " ++ ·) ∧
      ∀ key, key ∈ index.map (·.1) ↔ key ∈ fullNames library body := by
  obtain ⟨parent, t, content, hcontent, hlines⟩ := h.markdown
  obtain ⟨index, hindex, hkeys⟩ := h.index library
  refine ⟨content, index, hcontent, hindex, ?_, hkeys⟩
  have hentries := entryLines_parts h.parts parent
  -- The page is read back line by line, so a name must not end in blanks that are trimmed.
  have hsolid : ∀ item,
      "- " ++ item ∈ "" :: Text.lines (Page.childrenMarkdown skip parent false false body) →
        Text.EndsSolid item := by
    intro item hitem
    have hmem : "- " ++ item ∈ entryLines (Page.childrenMarkdown skip parent false false body) :=
      List.mem_filter.2 ⟨(List.mem_cons.1 hitem).resolve_left (by simp), startsWith_entry item⟩
    rw [hentries, List.mem_map] at hmem
    obtain ⟨e, he, hline⟩ := hmem
    obtain ⟨_, hlink⟩ := exists_of_mem_listed h.parts he
    exact String.append_right_inj "- " |>.1 hline ▸ hlink.endsSolid
  rw [entryLines_page hlibrary hlines hsolid, List.filter_cons_of_neg (by decide), ← entryLines,
    hentries, fullNames, List.map_map, List.map_map]
  exact List.map_congr_left fun e _ => qualifyLine_entry library e.text

/-! ## Links that are all of an item -/

/-- A link to a page. -/
def linkTo (page : String) (inner : List Node) : Node := .element "a" [("href", .text page)] inner

/-- A link to a page that shows a bare name is all that its item needs. -/
theorem holdsLink_linkTo {page : String} (hpage : page ≠ "")
    (hkept : skip.skips "a" [("href", .text page)] = false)
    (hinner : ∀ e ∈ Html.elementsOf ns, IsPlain skip e ∧ isAnchor e = false)
    (hrunning : textsIn ns = Html.textsOf none ns) (hbare : ∀ s ∈ textsIn ns, IsBare s)
    (hnamed : String.join (textsIn ns) ≠ "") :
    HoldsLink skip [linkTo page ns] ⟨"a", [("href", .text page)], ns⟩ where
  plain := by
    rw [linkTo, Page.elementsOf_cons_element, Html.elementsOf, List.append_nil,
      List.forall_mem_cons]
    exact ⟨⟨show Page.ruleFor "a" = .plain by decide, hkept⟩, fun e he => (hinner e he).1⟩
  anchor := by
    have hnone : (Html.elementsOf ns).filter isAnchor = [] :=
      List.filter_eq_nil_iff.2 fun e he => by simp [(hinner e he).2]
    have hself : isAnchor ⟨"a", [("href", .text page)], ns⟩ = true :=
      show (Html.asciiLower "a" == "a") = true by decide
    rw [anchors, linkTo, Page.elementsOf_cons_element, Html.elementsOf, List.append_nil,
      List.filter_cons_of_pos hself, hnone]
  leads := ⟨.text page, by rfl, hpage⟩
  alone := ⟨[], [], by simp [linkTo, textsIn, Page.textsAt], by simp, by simp⟩
  running := hrunning
  bare := hbare
  named := by
    have hapart : ¬Html.apartElements.contains "a" = true := by decide
    rw [Element.text, if_neg hapart, ← hrunning]
    exact hnamed

/-- A title and two sections, the name in the second one partly in an element of its own. -/
def shapesBody : List Node := [
  .element "h3" [] [.text none "Structs"],
  .element "ul" [("class", .tokens ["all-items"])] [
    .text none "\n", .element "li" [] [linkTo "struct.Circle.html" [.text none "Circle"]]],
  .text none "\n",
  .element "h3" [] [.text none "Functions"],
  .element "ul" [("class", .tokens ["all-items"])] [.element "li" []
    [linkTo "units/fn.scale.html" [.text none "units::", .element "span" [] [.text none "scale"]]]]]

/-- The document with these sections. -/
def shapes : List Node := fill [Page.mainFrame]
  ([.text none "\n"] ++ .element "h1" [] [.text none "List of all items"] :: shapesBody)

theorem isListing_shapes : IsListing .default shapes shapesBody where
  placed := by
    refine ⟨[Page.mainFrame], [.text none "\n"], [], [.text none "List of all items"],
      Page.leadsToMain_mainFrame, ⟨?_⟩, ?_, by decide, ⟨?_⟩, rfl⟩
    · intro f hf
      rw [List.mem_singleton.1 hf]
      refine ⟨fun e he => ?_⟩
      rw [List.mem_singleton.1 he]
      exact isItemList_eq_false (by decide)
    · intro n hn
      rw [List.mem_singleton.1 hn]
      exact ⟨by decide, by decide⟩
    · intro e he
      cases he
  parts := by
    have hcircle : HoldsLink .default [linkTo "struct.Circle.html" [.text none "Circle"]] _ :=
      holdsLink_linkTo (by decide) (by decide) (by decide) (by decide) (by decide) (by decide)
    have hscale : HoldsLink .default [linkTo "units/fn.scale.html"
        [.text none "units::", .element "span" [] [.text none "scale"]]] _ :=
      holdsLink_linkTo (by decide) (by decide) (by decide) (by decide) (by decide) (by decide)
    have hkept : SkipRules.default.skips "ul" [("class", .tokens ["all-items"])] = false := by
      decide
    have hheading (title : String) : IsPart .default (.element "h3" [] [.text none title]) :=
      ⟨by decide, .inl ⟨rfl, ⟨by intro e he; cases he⟩⟩⟩
    have hitem {inner : List Node} {link : Element} (h : HoldsLink .default inner link) :
        IsEntry .default (.element "li" [] inner) := ⟨rfl, by decide, link, h⟩
    have hgap : IsGap (.text none "\n") := ⟨by decide, by decide⟩
    simp only [shapesBody, List.forall_mem_cons]
    refine ⟨hheading _, ⟨hkept, .inr ⟨rfl, rfl, ?_⟩⟩, hgap, hheading _,
      ⟨hkept, .inr ⟨rfl, rfl, ?_⟩⟩, by simp⟩
    · simp only [List.forall_mem_cons]
      exact ⟨hgap.1, hitem hcircle, by simp⟩
    · simp only [List.forall_mem_cons]
      exact ⟨hitem hscale, by simp⟩
  listed := by
    have hlinks : (shapesBody.flatMap listedAt).map Element.text = ["Circle", "units::scale"] := by
      rfl
    intro hnil
    rw [hnil] at hlinks
    cases hlinks

/-- The page and the index of these sections name both items. -/
theorem page_names_index_shapes : IsListing .default shapes shapesBody ∧ IsLine "geo" ∧
    ∃ content index, Page.markdown? .default shapes = some content ∧
      Listing.index "geo" shapes = .ok index ∧
      entryLines (page "geo" content) = ["- geo::Circle", "- geo::units::scale"] ∧
      ∀ key, key ∈ index.map (·.1) ↔ key ∈ ["geo::Circle", "geo::units::scale"] := by
  have hline : IsLine "geo" := by decide
  have hnames : fullNames "geo" shapesBody = ["geo::Circle", "geo::units::scale"] := by rfl
  obtain ⟨content, index, hcontent, hindex, hentries, hkeys⟩ :=
    page_names_index isListing_shapes hline
  rw [hnames] at hentries hkeys
  exact ⟨isListing_shapes, hline, content, index, hcontent, hindex, hentries, hkeys⟩

/-! ## Other listings -/

/-- A listing of one item. -/
def oneEntry (inner : List Node) : List Node := [.element "main" [] [
  .element "h1" [] [.text none "List of all items"],
  .element "ul" [("class", .tokens ["all-items"])] [.element "li" [] inner]]]

/-- What an item of a listing says. -/
def itemText (inner : List Node) : String :=
  Text.squeeze (Page.childrenMarkdown .default "li" false true inner)

theorem markdown?_oneEntry (inner : List Node) : Page.markdown? .default (oneEntry inner) =
    some ("# List of all items\n\n" ++ ("- " ++ itemText inner ++ "\n\n")) := by
  have hmain : Page.mainElement? (oneEntry inner) = some ⟨"main", [], [
      .element "h1" [] [.text none "List of all items"],
      .element "ul" [("class", .tokens ["all-items"])] [.element "li" [] inner]]⟩ := by
    have hname : (Html.asciiLower "main" == "main") = true := by decide
    rw [Page.mainElement?, oneEntry, Page.elementsOf_cons_element]
    exact List.find?_cons_of_pos hname
  have htitle : Text.squeeze (Page.childrenMarkdown .default "h1" false true
      [.text none "List of all items"]) = "List of all items" := by
    rw [Page.childrenMarkdown, Page.childrenMarkdown, Page.nodeMarkdown, String.append_empty,
      Page.textMarkdown_eq_self true (by decide) (by decide) (by decide) (by decide)]
    rfl
  have hlist : Page.nodeMarkdown .default "main" false false
      (.element "ul" [("class", .tokens ["all-items"])] [.element "li" [] inner]) =
      "- " ++ itemText inner ++ "\n\n" := by
    have hrule : Page.ruleFor "ul" = .list false := by decide
    rw [Page.nodeMarkdown, if_neg (by decide), hrule]
    dsimp only
    rw [Page.listLines, if_pos (beq_self_eq_true _), if_neg (by decide), Page.listLines]
    rfl
  rw [Page.markdown?, hmain, Option.map_some]
  dsimp only
  rw [Page.childrenMarkdown, Page.childrenMarkdown, Page.childrenMarkdown, String.append_empty,
    nodeMarkdown_heading "# " _ _ (by decide) (by decide), htitle, hlist]
  rfl

/-- The page made of a listing of one item names what the item says. -/
theorem entryLines_oneEntry {inner : List Node} {name : String} (hlibrary : IsLine library)
    (hname : itemText inner = name) (hsolid : Text.EndsSolid name) :
    ∃ content, Page.markdown? .default (oneEntry inner) = some content ∧
      entryLines (page library content) = ["- " ++ (library ++ "::" ++ name)] := by
  refine ⟨_, markdown?_oneEntry inner, ?_⟩
  have hline : IsLine ("- " ++ itemText inner) := IsLine.append (by decide) (isLine_squeeze _)
  have hlines : Text.lines ("# List of all items\n\n" ++ ("- " ++ itemText inner ++ "\n\n")) =
      ("# " ++ "List of all items") :: ["", "- " ++ itemText inner, ""] := by
    rw [append_feeds, Text.lines_append_of_getLast rfl, Text.lines_append_feed, hline.lines]
    rfl
  rw [hname] at hlines ⊢
  have hitems : ∀ item, "- " ++ item ∈ ["", "- " ++ name, ""] → Text.EndsSolid item := by
    intro item hitem
    have hne : "- " ++ item ≠ "" := by simp
    simp only [List.mem_cons, hne, String.append_right_inj, List.not_mem_nil, or_false,
      false_or] at hitem
    exact hitem ▸ hsolid
  have hempty : Text.startsWith "" "- " = false := rfl
  rw [entryLines_page hlibrary hlines hitems]
  simp [hempty, startsWith_entry, qualifyLine_entry]

/-- A listing of a name that has text apart from its running text. -/
def annotatedEntry : List Node := oneEntry
  [linkTo "x.html" [.text none "S", .element "rt" [] [.text (some "rt") "x"]]]

/-- A listing of a link with text beside it. -/
def crowdedEntry : List Node := oneEntry [.text none "x", linkTo "x.html" [.text none "S"]]

/-- A listing of a link that leads nowhere. -/
def targetlessEntry : List Node := oneEntry [linkTo "" [.text none "S"]]

/-- A listing of a link, and nothing else. -/
def simpleEntry : List Node := oneEntry [linkTo "x.html" [.text none "S"]]

/-- The page and the index name different items where a name is not all running text or has text
beside it, and where the name of the library has several lines. There is no index where a link leads
nowhere. -/
theorem page_index_differ :
    (∃ content, Page.markdown? .default annotatedEntry = some content ∧
        entryLines (page "lib" content) = ["- lib::Sx"] ∧
        Listing.index "lib" annotatedEntry = .ok [("lib::S", "x.html")]) ∧
      (∃ content, Page.markdown? .default crowdedEntry = some content ∧
        entryLines (page "lib" content) = ["- lib::xS"] ∧
        Listing.index "lib" crowdedEntry = .ok [("lib::S", "x.html")]) ∧
      (∃ content, Page.markdown? .default simpleEntry = some content ∧
        "- a\nb::S" ∉ entryLines (page "a\nb" content) ∧
        Listing.index "a\nb" simpleEntry = .ok [("a\nb::S", "x.html")]) ∧
      Listing.index "lib" targetlessEntry = .error
        (.elementNotFound "ul.all-items li a[href]" "S" "item link has no href attribute") := by
  have hlib : IsLine "lib" := by decide
  have hannotated : itemText [linkTo "x.html" [.text none "S",
      .element "rt" [] [.text (some "rt") "x"]]] = "Sx" :=
    Page.squeeze_childrenMarkdown_of_plain [] ["S", "x"] [] "li"
      (by decide) rfl (by simp) (by decide) (by decide) (by simp)
  have hcrowded : itemText [.text none "x", linkTo "x.html" [.text none "S"]] = "xS" :=
    Page.squeeze_childrenMarkdown_of_plain [] ["x", "S"] [] "li"
      (by decide) rfl (by simp) (by decide) (by decide) (by simp)
  refine ⟨?_, ?_, ?_, by rfl⟩
  · obtain ⟨content, hcontent, hentries⟩ := entryLines_oneEntry hlib hannotated ⟨'x', rfl, rfl⟩
    exact ⟨content, hcontent, hentries.trans rfl, by rfl⟩
  · obtain ⟨content, hcontent, hentries⟩ := entryLines_oneEntry hlib hcrowded ⟨'S', rfl, rfl⟩
    exact ⟨content, hcontent, hentries.trans rfl, by rfl⟩
  · refine ⟨_, markdown?_oneEntry _, fun hmem => ?_, by rfl⟩
    have hline := Text.isLine_of_mem_lines (List.mem_filter.1 hmem).1
    exact absurd hline (by decide)

end CrateBook.Listing
