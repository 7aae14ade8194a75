import CrateBook.Listing.Index
import CrateBook.Proofs.Page.Frame

/-!
# Where a listing has its links

The selector for the links of a listing asks for anchors, for an item around them and for a list of
items around that. Where no list of items is in sight it selects nothing (`selectedIn_eq_nil`), and
inside an item of such a list every anchor (`selectedIn_item`). A path of frames without a list of
items is looked through (`selectedIn_fill`).
-/

namespace CrateBook

namespace Html

variable {around : List Element} {ns : List Node} {e : Element} {c : Compound}
  {more : List (Combinator × Compound)}

/-! ## Elements and what is around them -/

theorem placedIn_append (around : List Element) (ns ns' : List Node) :
    placedIn around (ns ++ ns') = placedIn around ns ++ placedIn around ns' := by
  induction ns with
  | nil => rfl
  | cons n ns ih => rw [List.cons_append, placedIn, placedIn, ih, List.append_assoc]

mutual

theorem map_placed : ∀ (around : List Element) (n : Node),
    (n.placed around).map (·.1) = n.elements
  | _, .text _ _ => rfl
  | _, .comment _ => rfl
  | _, .cdata _ => rfl
  | around, .element name attrs inner => by
    rw [Node.placed, Node.elements, List.map_cons, map_placedIn _ inner]

/-- Every element is placed once. -/
theorem map_placedIn : ∀ (around : List Element) (ns : List Node),
    (placedIn around ns).map (·.1) = elementsOf ns
  | _, [] => rfl
  | around, n :: ns => by
    rw [placedIn, elementsOf, List.map_append, map_placed around n, map_placedIn around ns]

end

mutual

theorem mem_placed : ∀ (around : List Element) (n : Node), ∀ p ∈ n.placed around,
    ∃ inner, p.2 = inner ++ around ∧ inner ⊆ n.elements
  | _, .text _ _, p, h => by cases h
  | _, .comment _, p, h => by cases h
  | _, .cdata _, p, h => by cases h
  | around, .element name attrs children, p, h => by
    rw [Node.placed, List.mem_cons] at h
    rcases h with rfl | h
    · exact ⟨[], rfl, List.nil_subset _⟩
    · obtain ⟨inner, hp, hinner⟩ := mem_placedIn _ children p h
      refine ⟨inner ++ [⟨name, attrs, children⟩], by simp [hp], ?_⟩
      rw [Node.elements, List.append_subset]
      exact ⟨List.subset_cons_of_subset _ hinner, List.cons_subset.2 ⟨by simp, List.nil_subset _⟩⟩

/-- Around an element are those around the nodes and, inside them, elements of the nodes. -/
theorem mem_placedIn : ∀ (around : List Element) (ns : List Node), ∀ p ∈ placedIn around ns,
    ∃ inner, p.2 = inner ++ around ∧ inner ⊆ elementsOf ns
  | _, [], p, h => by cases h
  | around, n :: ns, p, h => by
    rw [placedIn, List.mem_append] at h
    rw [elementsOf]
    rcases h with h | h
    · obtain ⟨inner, hp, hinner⟩ := mem_placed around n p h
      exact ⟨inner, hp, List.subset_append_of_subset_left _ hinner⟩
    · obtain ⟨inner, hp, hinner⟩ := mem_placedIn around ns p h
      exact ⟨inner, hp, List.subset_append_of_subset_right _ hinner⟩

end

/-- An ancestor that is asked for may stand anywhere around. -/
theorem isMetAround_ancestor : isMetAround ((.ancestor, c) :: more) around = true ↔
    ∃ inner e outer, around = inner ++ e :: outer ∧ c.isMet e = true ∧
      isMetAround more outer = true := by
  rw [isMetAround]
  induction around with
  | nil => simp [tails]
  | cons e around ih =>
    rw [tails, List.any_cons, Bool.or_eq_true, ih, Bool.and_eq_true]
    refine ⟨?_, ?_⟩
    · rintro (⟨he, hmore⟩ | ⟨inner, e', outer, rfl, he, hmore⟩)
      · exact ⟨[], e, around, rfl, he, hmore⟩
      · exact ⟨e :: inner, e', outer, rfl, he, hmore⟩
    · rintro ⟨inner, e', outer, hsplit, he, hmore⟩
      cases inner with
      | nil =>
        obtain ⟨rfl, rfl⟩ := List.cons.inj hsplit
        exact .inl ⟨he, hmore⟩
      | cons _ inner =>
        obtain ⟨rfl, rfl⟩ := List.cons.inj hsplit
        exact .inr ⟨inner, e', outer, rfl, he, hmore⟩

end Html

namespace Listing

open Html (Node Element)
open Page (Frame fill)

variable {around : List Element} {ns : List Node} {e : Element} {path : List Frame}

/-! ## Lists of items -/

/-- The element is a list of items. -/
def isItemList (e : Element) : Bool :=
  Html.Compound.isMet { name := "ul", classes := ["all-items"] } e

/-- The element is an item. -/
def isItem (e : Element) : Bool := Html.Compound.isMet { name := "li" } e

/-- The element is an anchor. -/
def isAnchor (e : Element) : Bool := Html.asciiLower e.name == "a"

/-- What asks for a name in lower case asks for it in any case. -/
theorem isMet_name {name : String} (h : name ≠ "*" ∧ Html.asciiLower name = name) (e : Element) :
    Html.Compound.isMet { name := name } e = (Html.asciiLower e.name == name) := by
  simp [Html.Compound.isMet, h.1, h.2, Bool.beq_comm]

theorem isItem_eq (e : Element) : isItem e = (Html.asciiLower e.name == "li") :=
  isMet_name (by decide) e

theorem isItemList_eq_false (h : Html.asciiLower e.name ≠ "ul") : isItemList e = false := by
  have hul : Html.asciiLower "ul" = "ul" := by decide
  simp [isItemList, Html.Compound.isMet, hul, Ne.symm h]

/-- There is no list of items among the nodes. -/
structure NoItemList (ns : List Node) : Prop where
  isItemList_eq_false : ∀ e ∈ Html.elementsOf ns, isItemList e = false

/-- The links to items at nodes that stand in the elements `around`. -/
def selectedIn (around : List Element) (ns : List Node) : List Element :=
  ((Html.placedIn around ns).filter fun p => itemLink.isMet p.1 p.2).map (·.1)

theorem selectAll_itemLink (doc : List Node) :
    Html.selectAll itemLink doc = selectedIn [] doc := rfl

theorem selectedIn_append (around : List Element) (ns ns' : List Node) :
    selectedIn around (ns ++ ns') = selectedIn around ns ++ selectedIn around ns' := by
  rw [selectedIn, Html.placedIn_append, List.filter_append, List.map_append]
  rfl

theorem isMet_itemLink (e : Element) (around : List Element) : itemLink.isMet e around =
    (isAnchor e && Html.isMetAround [(.ancestor, { name := "li" }),
      (.ancestor, { name := "ul", classes := ["all-items"] })] around) := by
  have hname : Html.Compound.isMet { name := "a" } e = isAnchor e := isMet_name (by decide) e
  rw [itemLink, Html.Selector.isMet, List.any_cons, List.any_nil, Bool.or_false, hname]

theorem isMet_itemLink_eq_false (h : Html.asciiLower e.name ≠ "a") :
    itemLink.isMet e around = false := by
  rw [isMet_itemLink, isAnchor, beq_eq_false_iff_ne.2 h, Bool.false_and]

theorem isMet_itemLink_iff : itemLink.isMet e around = true ↔ isAnchor e = true ∧
    ∃ inner item between list outer, around = inner ++ item :: (between ++ list :: outer) ∧
      isItem item = true ∧ isItemList list = true := by
  rw [isMet_itemLink, Bool.and_eq_true, Html.isMetAround_ancestor]
  refine and_congr_right fun _ => ⟨?_, ?_⟩
  · rintro ⟨inner, item, rest, rfl, hitem, hrest⟩
    obtain ⟨between, list, outer, rfl, hlist, -⟩ := Html.isMetAround_ancestor.1 hrest
    exact ⟨inner, item, between, list, outer, rfl, hitem, hlist⟩
  · rintro ⟨inner, item, between, list, outer, rfl, hitem, hlist⟩
    exact ⟨inner, item, _, rfl, hitem,
      Html.isMetAround_ancestor.2 ⟨between, list, outer, rfl, hlist, rfl⟩⟩

/-- Where no list of items is around nodes or among them, there is no link to an item. -/
theorem selectedIn_eq_nil (haround : ∀ e ∈ around, isItemList e = false) (hns : NoItemList ns) :
    selectedIn around ns = [] := by
  rw [selectedIn, List.map_eq_nil_iff, List.filter_eq_nil_iff]
  intro p hp hmet
  obtain ⟨above, hsplit, habove⟩ := Html.mem_placedIn around ns p hp
  obtain ⟨-, inner, item, between, list, outer, hlist, -, hitems⟩ := isMet_itemLink_iff.1 hmet
  have hmem : list ∈ above ++ around := by
    rw [← hsplit, hlist]
    simp
  -- The list is one of the elements around the nodes, or it is among the nodes.
  rcases List.mem_append.1 hmem with h | h
  · rw [hns.isItemList_eq_false list (habove h)] at hitems
    cases hitems
  · rw [haround list h] at hitems
    cases hitems

/-- The anchors among the nodes, at any depth. -/
def anchors (ns : List Node) : List Element := (Html.elementsOf ns).filter isAnchor

/-- Inside an item of a list of items, every anchor is a link to an item. -/
theorem selectedIn_item {item list : Element} (hitem : isItem item = true)
    (hlist : isItemList list = true) (ns : List Node) :
    selectedIn (item :: list :: around) ns = anchors ns := by
  have hmet : ∀ p ∈ Html.placedIn (item :: list :: around) ns,
      itemLink.isMet p.1 p.2 = isAnchor p.1 := by
    intro p hp
    obtain ⟨above, hsplit, -⟩ := Html.mem_placedIn _ ns p hp
    rw [Bool.eq_iff_iff, isMet_itemLink_iff, and_iff_left]
    exact ⟨above, item, [], list, around, hsplit, hitem, hlist⟩
  rw [selectedIn, List.filter_congr hmet, anchors, ← Html.map_placedIn (item :: list :: around) ns,
    List.filter_map]
  rfl

theorem selectedIn_element {name : String} {attrs : List (String × Html.AttrValue)}
    {children : List Node} (hmet : itemLink.isMet ⟨name, attrs, children⟩ around = false)
    (ns : List Node) : selectedIn around (.element name attrs children :: ns) =
      selectedIn (⟨name, attrs, children⟩ :: around) children ++ selectedIn around ns := by
  rw [selectedIn, Html.placedIn, Html.Node.placed, List.cons_append,
    List.filter_cons_of_neg (by simp [hmet]), List.filter_append, List.map_append]
  rfl

/-- No list of items is around what is filled into the frames, nor beside it. -/
structure Apart (path : List Frame) : Prop where
  noItemList : ∀ f ∈ path, NoItemList (f.fill [])

/-- What is filled into frames has the links that it has where it stands. -/
theorem selectedIn_fill (hpath : Apart path) (haround : ∀ e ∈ around, isItemList e = false)
    (ns : List Node) : ∃ around', (∀ e ∈ around', isItemList e = false) ∧
      selectedIn around (fill path ns) = selectedIn around' ns := by
  induction path generalizing around with
  | nil => exact ⟨around, haround, rfl⟩
  | cons f path ih =>
    obtain ⟨hf, hpath⟩ := List.forall_mem_cons.1 hpath.noItemList
    have hall := hf.isItemList_eq_false
    rw [Page.elementsOf_fill, List.forall_mem_append, List.forall_mem_cons, Html.elementsOf,
      List.nil_append] at hall
    obtain ⟨hbefore, hframe, hafter⟩ := hall
    have hcons : ∀ e ∈ ⟨f.name, f.attrs, fill path ns⟩ :: around, isItemList e = false :=
      List.forall_mem_cons.2 ⟨hframe, haround⟩
    obtain ⟨around', haround', hfill⟩ := ih ⟨hpath⟩ hcons
    refine ⟨around', haround', ?_⟩
    have hmet : itemLink.isMet ⟨f.name, f.attrs, fill path ns⟩ around = false := by
      rw [Bool.eq_false_iff]
      intro hmet
      obtain ⟨-, inner, item, between, list, outer, rfl, -, hlist⟩ := isMet_itemLink_iff.1 hmet
      rw [haround list (by simp)] at hlist
      cases hlist
    rw [Page.fill_cons, Frame.fill, selectedIn_append, selectedIn_eq_nil haround ⟨hbefore⟩,
      selectedIn_element hmet, selectedIn_eq_nil haround ⟨hafter⟩, hfill, List.nil_append,
      List.append_nil]

end Listing

end CrateBook
