import CrateBook.Proofs.Json.Comparing
import CrateBook.Proofs.Library.Identifier
import CrateBook.Proofs.Listing.Count
import CrateBook.Proofs.Listing.Page
import CrateBook.Proofs.Rustdoc.Results
import CrateBook.Proofs.Text.Words
import CrateBook.Rustdoc.Overview

/-!
# The overview and the listing of a crate

The public items of a crate are grouped by the labels of their kinds, once under their own names for
the overview and once under their paths for the listing. Every item is in one group
(`perm_groupNames`), and the sizes of the groups depend only on the labels (`sizes_groupNames`), so
that the overview counts what the listing names.
-/

namespace CrateBook.Rustdoc

open Listing (Counts)
open Text (EndsSolid IsLine)

variable {α : Type} {groups : List (String × List Json)} {named : List (String × Json)}
  {label name : String}

/-! ## Groups -/

theorem addToGroup_cons (key : String) (names : List Json) (groups : List (String × List Json))
    (label : String) (name : Json) : addToGroup ((key, names) :: groups) label name =
      if key = label then (label, names ++ [name]) :: groups
      else (key, names) :: addToGroup groups label name := by
  rw [addToGroup, Json.setMember]
  split
  · rename_i h
    subst h
    simp
  · rename_i h
    rw [List.lookup_cons, beq_eq_false_iff_ne.2 (Ne.symm h), addToGroup]

/-- The labels of the groups, each with the names under it. -/
def members (groups : List (String × List α)) : List (String × α) :=
  groups.flatMap fun g => g.2.map (g.1, ·)

/-- The sizes of the groups. -/
def sizes (groups : List (String × List α)) : Counts :=
  groups.map fun g => (g.1, (g.2.length : Int))

theorem perm_members_addToGroup (groups : List (String × List Json)) (label : String)
    (name : Json) :
    (members (addToGroup groups label name)).Perm (members groups ++ [(label, name)]) := by
  induction groups with
  | nil => exact .refl _
  | cons g groups ih =>
    obtain ⟨key, names⟩ := g
    rw [addToGroup_cons]
    split
    · rename_i h
      subst h
      simp only [members, List.flatMap_cons, List.map_append, List.map_singleton, List.append_assoc]
      exact List.Perm.append_left _ List.perm_append_comm
    · simp only [members, List.flatMap_cons, List.append_assoc] at ih ⊢
      exact ih.append_left _

theorem sizes_addToGroup (groups : List (String × List Json)) (label : String) (name : Json) :
    sizes (addToGroup groups label name) = (sizes groups).add label := by
  induction groups with
  | nil => rfl
  | cons g groups ih =>
    obtain ⟨key, names⟩ := g
    have hsizes : sizes ((key, names) :: groups) = (key, (names.length : Int)) :: sizes groups :=
      rfl
    rw [addToGroup_cons, hsizes, Counts.add, Json.setMember]
    split
    · rename_i h
      subst h
      simp [sizes]
    · rename_i h
      rw [List.lookup_cons, beq_eq_false_iff_ne.2 (Ne.symm h)]
      exact congrArg (List.cons _) ih

theorem ne_nil_of_mem_addToGroup (h : ∀ g ∈ groups, g.2 ≠ []) {name : Json} :
    ∀ g ∈ addToGroup groups label name, g.2 ≠ [] := by
  intro g hg
  rcases Json.mem_setMember hg with rfl | hg
  · simp
  · exact h g hg

/-- The groups before they are put in order. -/
def unsortedGroups (named : List (String × Json)) : List (String × List Json) :=
  named.foldl (fun groups n => addToGroup groups n.1 n.2) []

theorem unsortedGroups_append (named : List (String × Json)) (n : String × Json) :
    unsortedGroups (named ++ [n]) = addToGroup (unsortedGroups named) n.1 n.2 := by
  rw [unsortedGroups, List.foldl_append]
  rfl

theorem groupNames_eq (named : List (String × Json)) : groupNames named =
    ((unsortedGroups named).mergeSort fun a b => Text.le a.1 b.1).map
      fun g => (g.1, (g.2.mergeSort Json.le).map Json.display) := rfl

theorem members_map (groups : List (String × List α)) (f : α → β) :
    members (groups.map fun g => (g.1, g.2.map f)) =
      (members groups).map fun n => (n.1, f n.2) := by
  rw [members, members, List.flatMap_map, List.map_flatMap]
  exact congrArg (groups.flatMap ·) (funext fun g => by simp)

/-- Every name is in one group. -/
theorem perm_groupsOf (named : List (String × Json)) :
    (members (groupsOf named)).Perm named := by
  have hunsorted : (members (unsortedGroups named)).Perm named := by
    induction named using List.reverseRecOn with
    | nil => exact .refl _
    | append_singleton named n ih =>
      rw [unsortedGroups_append]
      exact (perm_members_addToGroup _ _ _).trans (ih.append_right _)
  exact ((List.mergeSort_perm _ _).flatMap_right _).trans hunsorted

/-- Every name is in one group, as it is displayed. -/
theorem perm_groupNames (named : List (String × Json)) :
    (members (groupNames named)).Perm (named.map fun n => (n.1, n.2.display)) := by
  have hsorted : (members ((groupsOf named).map fun g => (g.1, g.2.mergeSort Json.le))).Perm
      (members (groupsOf named)) := by
    rw [members, List.flatMap_map, members]
    exact List.Perm.flatMap_left _ fun g _ => (List.mergeSort_perm _ _).map _
  have hgroups : groupNames named = ((groupsOf named).map fun g => (g.1, g.2.mergeSort Json.le)).map
      fun g => (g.1, g.2.map Json.display) := by
    rw [groupNames, List.map_map]
    rfl
  rw [hgroups, members_map]
  exact (hsorted.trans (perm_groupsOf named)).map _

/-- Names that are texts can be brought into order. -/
theorem checkGroups_of_isStr (h : ∀ n ∈ named, n.2.IsStr) : checkGroups named = .ok () := by
  refine forM_eq_ok_iff.2 fun g hg => Json.comparable_of_isStr fun v hv => ?_
  have hmem : (g.1, v) ∈ members (groupsOf named) :=
    List.mem_flatMap.2 ⟨g, hg, List.mem_map_of_mem hv⟩
  exact h _ ((perm_groupsOf named).mem_iff.1 hmem)

/-- The sizes of the groups depend only on the labels. -/
theorem sizes_groupNames (named : List (String × Json)) : sizes (groupNames named) =
    (Listing.countOf (named.map (·.1))).mergeSort fun a b => Text.le a.1 b.1 := by
  have hunsorted : sizes (unsortedGroups named) = Listing.countOf (named.map (·.1)) := by
    induction named using List.reverseRecOn with
    | nil => rfl
    | append_singleton named n ih =>
      rw [unsortedGroups_append, sizes_addToGroup, ih, List.map_append, List.map_singleton,
        Listing.countOf_append]
  have hsorted : ((unsortedGroups named).mergeSort fun a b => Text.le a.1 b.1).map
      (fun g => (g.1, (g.2.length : Int))) =
      (sizes (unsortedGroups named)).mergeSort fun a b => Text.le a.1 b.1 :=
    List.map_mergeSort fun _ _ _ _ => rfl
  rw [← hunsorted, ← hsorted, groupNames_eq, sizes, List.map_map]
  refine List.map_congr_left fun g _ => ?_
  simp

/-- No group is empty. -/
theorem ne_nil_of_mem_groupNames (named : List (String × Json)) :
    ∀ g ∈ groupNames named, g.2 ≠ [] := by
  have hunsorted : ∀ g ∈ unsortedGroups named, g.2 ≠ [] := by
    induction named using List.reverseRecOn with
    | nil => simp [unsortedGroups]
    | append_singleton named n ih =>
      rw [unsortedGroups_append]
      exact ne_nil_of_mem_addToGroup ih
  rw [groupNames_eq, List.forall_mem_map]
  intro g hg hnil
  refine hunsorted g ((List.mergeSort_perm _ _).mem_iff.1 hg) (List.length_eq_zero_iff.1 ?_)
  rw [← (List.mergeSort_perm g.2 Json.le).length_eq]
  exact List.length_eq_zero_iff.2 (List.map_eq_nil_iff.1 hnil)

theorem mem_of_mem_groupNames {g : String × List String} (hg : g ∈ groupNames named)
    (hname : name ∈ g.2) : ∃ v, (g.1, v) ∈ named ∧ v.display = name := by
  have hmem : (g.1, name) ∈ members (groupNames named) :=
    List.mem_flatMap.2 ⟨g, hg, List.mem_map_of_mem hname⟩
  obtain ⟨n, hn, heq⟩ := List.mem_map.1 ((perm_groupNames named).mem_iff.1 hmem)
  obtain ⟨hlabel, hdisplay⟩ := Prod.mk.inj heq
  exact ⟨n.2, hlabel ▸ hn, hdisplay⟩

/-! ## Labels -/

/-- The title form and the lower-case form of a character end no line. -/
def formsEndNoLine (n : Nat) : Bool :=
  (Text.titleForm (Char.ofNat n) ++ Text.lowerForm (Char.ofNat n)).all (!Text.isLineEnd ·)

theorem formsEndNoLine_ascii : (List.range' 32 96).all formsEndNoLine = true := by decide +kernel

/-- Title case is made of the forms of the characters. -/
theorem mem_titleRuns {before cs : List Char} {d : Char} (h : d ∈ Text.titleRuns before cs) :
    ∃ c ∈ cs, d ∈ Text.titleForm c ∨ ∃ before after, d ∈ Text.lowerFormIn before c after := by
  induction cs generalizing before with
  | nil => cases h
  | cons c cs ih =>
    rw [Text.titleRuns, List.mem_append] at h
    rcases h with h | h
    · refine ⟨c, List.mem_cons_self, ?_⟩
      split at h
      · exact .inr ⟨_, _, h⟩
      · exact .inl h
    · obtain ⟨c', hc', h⟩ := ih h
      exact ⟨c', List.mem_cons_of_mem _ hc', h⟩

/-- A text of printed ASCII characters is one line in title case. -/
theorem isLine_titleCase {s : String} (h : ∀ c ∈ s.toList, 32 ≤ c.toNat ∧ c.toNat < 128) :
    IsLine (Text.titleCase s) := by
  intro d hd
  rw [Text.titleCase, String.toList_ofList] at hd
  obtain ⟨c, hc, hform⟩ := mem_titleRuns hd
  have hascii := h c hc
  have hall := List.all_eq_true.1 formsEndNoLine_ascii c.toNat (by
    rw [List.mem_range'_1]
    omega)
  rw [formsEndNoLine, Char.ofNat_toNat] at hall
  have hmem : d ∈ Text.titleForm c ++ Text.lowerForm c := by
    rcases hform with hd | ⟨before, after, hd⟩
    · exact List.mem_append_left _ hd
    · -- Only the sigma has a lower-case form that depends on what is around it.
      have hsigma : c ≠ 'Σ' := by
        rintro rfl
        exact absurd hascii.2 (by decide)
      rw [Text.lowerFormIn, if_neg hsigma] at hd
      exact List.mem_append_right _ hd
  simpa using List.all_eq_true.1 hall d hmem

theorem toNat_of_isIdentifierChar {c : Char} (h : isIdentifierChar c = true) :
    32 ≤ c.toNat ∧ c.toNat < 128 := by
  simp only [isIdentifierChar, Char.isAlphanum, Char.isAlpha, Char.isUpper, Char.isLower,
    Char.isDigit, Bool.or_eq_true, Bool.and_eq_true, decide_eq_true_eq, UInt32.le_iff_toNat_le,
    ge_iff_le] at h
  have hnat : c.toNat = c.val.toNat := rfl
  rcases h with h | rfl
  · simp at h
    omega
  · decide

theorem mem_of_lookup {k : String} {v : α} {l : List (String × α)} (h : l.lookup k = some v) :
    (k, v) ∈ l := by
  obtain ⟨before, after, rfl, -⟩ := List.lookup_eq_some_iff.1 h
  simp

/-- The label of a kind that is an identifier is one line. -/
theorem isLine_kindLabel {kind : String} (h : IsIdentifier kind) : IsLine (kindLabel kind) := by
  rw [kindLabel]
  cases hlookup : kindLabels.lookup kind with
  | some label =>
    have hlabels : ∀ l ∈ kindLabels, IsLine l.2 := by decide
    exact hlabels _ (mem_of_lookup hlookup)
  | none =>
    refine isLine_titleCase fun c hc => ?_
    rw [Text.replace, String.toList_ofList] at hc
    rcases Text.mem_replaceRuns hc with hc | hc
    · rw [List.mem_singleton.1 hc]
      decide
    · exact toNat_of_isIdentifierChar (h.char hc)

theorem isLine_sectionTitle (h : IsLine label) : IsLine (sectionTitle label) := by
  rw [sectionTitle.eq_def]
  split
  · decide
  · decide
  · exact h.append (by decide)

/-! ## Counts -/

/-- The section of the overview that counts the names of each group. -/
def countSection (groups : List (String × List String)) : List String :=
  if groups = [] then ["## Item Counts", "", "No public items found.", ""]
  else ["## Item Counts", "",
      "**Total**: " ++ toString (groups.map (·.2.length)).sum ++ " public items", ""] ++
    groups.map (fun g => "- **" ++ g.1 ++ "**: " ++ toString g.2.length) ++ [""]

theorem total_sizes (groups : List (String × List String)) :
    (sizes groups).total = ((groups.map (·.2.length)).sum : Nat) := by
  rw [Listing.total_eq, sizes, List.map_map]
  induction groups with
  | nil => rfl
  | cons g groups ih => simp [ih]

theorem pairwise_groupNames (named : List (String × Json)) :
    (groupNames named).Pairwise fun a b => Text.le a.1 b.1 = true := by
  rw [groupNames_eq, List.pairwise_map]
  exact Json.pairwise_sorted _

/-- The counts in an overview are the sizes of the groups. -/
theorem countLines_groupNames (named : List (String × Json)) :
    Listing.countLines (sizes (groupNames named)) = countSection (groupNames named) := by
  have hsorted : (sizes (groupNames named)).mergeSort (fun a b => Text.le a.1 b.1) =
      sizes (groupNames named) :=
    List.mergeSort_of_pairwise (List.pairwise_map.2 (pairwise_groupNames named))
  rw [Listing.countLines, total_sizes, hsorted, countSection]
  cases h : groupNames named with
  | nil => rfl
  | cons g groups =>
    have hg : g.2.length ≠ 0 := fun hnil =>
      ne_nil_of_mem_groupNames named g (h ▸ List.mem_cons_self) (List.length_eq_zero_iff.1 hnil)
    -- The section says that nothing was found when the total is zero, and no group is empty.
    have hpos : ((g :: groups).map (·.2.length)).sum ≠ 0 := by
      rw [List.map_cons, List.sum_cons]
      omega
    dsimp only
    rw [if_neg (by exact_mod_cast hpos), if_neg (by simp), sizes, List.map_map]
    rfl

/-! ## The overview -/

/-- The names of a group in the overview. -/
def nameLines (g : String × List String) : List String :=
  ("### " ++ g.1) :: "" :: g.2.map ("- " ++ ·) ++ [""]

/-- What the overview says about the crate before it counts the items. -/
def frontLines (crate : Crate) : List String :=
  let docs := Docs.clean (Docs.textOf (crate.rootItem?.elim .null (·.docs)))
  ["# " ++ crate.name, ""] ++ (if docs == "" then [] else [docs, ""]) ++
    if crate.version.truthy then ["**Version:** " ++ crate.version.display, ""] else []

/-- What stands at the end of the overview. -/
def closingLines (crate : Crate) : List String :=
  ["## Next Actions", "", "- " ++ ("Browse all items: `cargo docmd list " ++ crate.name ++ "`")]

theorem pageOf_concat {init : List String} {last : String} (h : EndsSolid last) :
    pageOf (init ++ [last]) = "\n".intercalate (init ++ [last]) ++ "\n" := by
  have htrim : Text.trimEnd ("\n".intercalate (init ++ [last]) ++ "") = _ :=
    Text.trimEnd_intercalate h rfl
  rw [String.append_empty] at htrim
  rw [pageOf, htrim]

/-- Items whose names are texts have an overview. -/
theorem exists_overviewPage {crate : Crate} {items : List Item}
    (hitems : crate.publicItems = .ok items) (hnames : ∀ i ∈ items, i.name.IsStr)
    (hdocs : Docs.check (crate.rootItem?.elim .null (·.docs)) = .ok ()) :
    ∃ overview, overviewPage crate = .ok overview := by
  have hgroups : checkGroups (items.map fun i => (kindLabel i.kind, i.name)) = .ok () :=
    checkGroups_of_isStr (List.forall_mem_map.2 hnames)
  rw [overviewPage, hitems, ok_bind]
  dsimp only
  rw [hgroups, ok_bind, hdocs]
  exact ⟨_, rfl⟩

/-- The overview counts the public items by kind and names them. -/
theorem overviewPage_eq {crate : Crate} {items : List Item} {overview : String}
    (hitems : crate.publicItems = .ok items) (h : overviewPage crate = .ok overview) :
    overview = "\n".intercalate (frontLines crate ++
      countSection (groupNames (items.map fun i => (kindLabel i.kind, i.name))) ++
      (groupNames (items.map fun i => (kindLabel i.kind, i.name))).flatMap nameLines ++
      closingLines crate) ++ "\n" := by
  rw [overviewPage, hitems, ok_bind] at h
  obtain ⟨-, -, h⟩ := exists_of_bind_eq_ok h
  obtain ⟨-, -, h⟩ := exists_of_bind_eq_ok h
  have htext := Except.ok.inj h
  have hcounts := countLines_groupNames (items.map fun i => (kindLabel i.kind, i.name))
  generalize groupNames (items.map fun i => (kindLabel i.kind, i.name)) = groups
    at htext hcounts ⊢
  have hsolid : EndsSolid ("- " ++ ("Browse all items: `cargo docmd list " ++ crate.name ++ "`")) :=
    (EndsSolid.append ⟨'`', rfl, rfl⟩ _).append _
  have hpage : pageOf (frontLines crate ++ Listing.countLines (sizes groups) ++
      groups.flatMap nameLines ++ closingLines crate) = overview := htext
  have hsplit (l : List String) : l ++ closingLines crate = l ++ ["## Next Actions", ""] ++
      ["- " ++ ("Browse all items: `cargo docmd list " ++ crate.name ++ "`")] := by
    simp [closingLines]
  rw [← hpage, hcounts, hsplit, pageOf_concat hsolid]

/-! ## The listing -/

/-- The sections of the listing: the groups under the titles for their labels. -/
def sectionsOf (groups : List (String × List String)) : List (String × List String) :=
  groups.map fun g => (sectionTitle g.1, g.2)

/-- A blank line behind each part is one before each part and one at the end. -/
theorem blank_flatMap (groups : List α) (f : α → List String) :
    [""] ++ groups.flatMap (fun g => f g ++ [""]) =
      groups.flatMap (fun g => "" :: f g) ++ [""] := by
  induction groups with
  | nil => rfl
  | cons g groups ih =>
    rw [List.flatMap_cons, List.append_assoc, ← List.append_assoc [""], ih]
    simp

/-- The listing ends with the name of an item, or with its title. -/
theorem exists_last_sectionLines (groups : List (String × List String))
    (h : ∀ g ∈ groups, g.2 ≠ [] ∧ ∀ n ∈ g.2, EndsSolid n) :
    ∃ init last, ("# " ++ "List of all items") :: groups.flatMap Listing.sectionLines =
      init ++ [last] ∧ EndsSolid last := by
  rcases List.eq_nil_or_concat' groups with rfl | ⟨before, g, rfl⟩
  · exact ⟨[], _, rfl, EndsSolid.append ⟨'s', rfl, rfl⟩ _⟩
  · obtain ⟨hne, hnames⟩ := h g (by simp)
    obtain ⟨names, n, hn⟩ := (List.eq_nil_or_concat' g.2).resolve_left hne
    refine ⟨("# " ++ "List of all items") :: before.flatMap Listing.sectionLines ++
      ["", "### " ++ g.1, ""] ++ names.map ("- " ++ ·), "- " ++ n, ?_, (hnames n ?_).append _⟩
    · simp [Listing.sectionLines, hn]
    · simp [hn]

theorem pageOf_blank {init : List String} {last : String} (h : EndsSolid last) :
    pageOf (init ++ [last] ++ [""]) = "\n".intercalate (init ++ [last]) ++ "\n" := by
  rw [pageOf, String.intercalate_append_of_ne_nil (by simp) (by simp),
    String.intercalate_singleton, String.append_empty, Text.trimEnd_intercalate h (by decide)]

/-- Items whose names are texts have a listing. -/
theorem exists_listing {crate : Crate} {items : List Item}
    (hitems : crate.publicItems = .ok items) (hnames : ∀ i ∈ items, i.name.IsStr) :
    ∃ text, listing crate = .ok text := by
  have hgroups : checkGroups (items.map fun i => (kindLabel i.kind, innerPath crate i)) =
      .ok () := by
    refine checkGroups_of_isStr (List.forall_mem_map.2 fun i hi => ?_)
    rw [innerPath]
    split
    · exact hnames i hi
    · exact ⟨_, rfl⟩
  rw [listing, hitems, ok_bind]
  dsimp only
  rw [hgroups]
  exact ⟨_, rfl⟩

/-- The lines of the listing of a crate. -/
theorem lines_listing {crate : Crate} {items : List Item} {text : String}
    (hitems : crate.publicItems = .ok items)
    (hkinds : ∀ i ∈ items, IsLine (sectionTitle (kindLabel i.kind)))
    (hpaths : ∀ i ∈ items,
      IsLine (innerPath crate i).display ∧ EndsSolid (innerPath crate i).display)
    (h : listing crate = .ok text) :
    Text.lines text = ("# " ++ "List of all items") ::
      (sectionsOf (groupNames (items.map fun i => (kindLabel i.kind, innerPath crate i)))).flatMap
        Listing.sectionLines := by
  rw [listing, hitems, ok_bind] at h
  obtain ⟨-, -, h⟩ := exists_of_bind_eq_ok h
  have htext := Except.ok.inj h
  have hnamed : ∀ g ∈ groupNames (items.map fun i => (kindLabel i.kind, innerPath crate i)),
      IsLine (sectionTitle g.1) ∧ g.2 ≠ [] ∧ ∀ n ∈ g.2, IsLine n ∧ EndsSolid n := by
    intro g hg
    have hne := ne_nil_of_mem_groupNames _ g hg
    have hmem : ∀ n ∈ g.2, ∃ i ∈ items,
        kindLabel i.kind = g.1 ∧ (innerPath crate i).display = n := by
      intro n hn
      obtain ⟨v, hv, hdisplay⟩ := mem_of_mem_groupNames hg hn
      obtain ⟨i, hi, heq⟩ := List.mem_map.1 hv
      obtain ⟨hlabel, rfl⟩ := Prod.mk.inj heq
      exact ⟨i, hi, hlabel, hdisplay⟩
    obtain ⟨n, hn⟩ := List.exists_mem_of_ne_nil _ hne
    obtain ⟨i, hi, hlabel, -⟩ := hmem n hn
    refine ⟨hlabel ▸ hkinds i hi, hne, fun n hn => ?_⟩
    obtain ⟨i, hi, -, rfl⟩ := hmem n hn
    exact hpaths i hi
  generalize groupNames (items.map fun i => (kindLabel i.kind, innerPath crate i)) = groups
    at htext hnamed ⊢
  obtain ⟨init, last, hlast, hsolid⟩ := exists_last_sectionLines (sectionsOf groups) <| by
    simp only [sectionsOf, List.forall_mem_map]
    exact fun g hg => ⟨(hnamed g hg).2.1, fun n hn => ((hnamed g hg).2.2 n hn).2⟩
  have hpage : pageOf (("# " ++ "List of all items") :: ([""] ++ groups.flatMap fun g =>
      (("### " ++ sectionTitle g.1) :: "" :: g.2.map ("- " ++ ·)) ++ [""])) = text := htext
  have hsections : groups.flatMap (fun g => "" :: ("### " ++ sectionTitle g.1) :: "" ::
      g.2.map ("- " ++ ·)) = (sectionsOf groups).flatMap Listing.sectionLines := by
    rw [sectionsOf, List.flatMap_map]
    rfl
  have hlines : ∀ m ∈ ("# " ++ "List of all items") ::
      (sectionsOf groups).flatMap Listing.sectionLines, IsLine m := by
    simp only [List.forall_mem_cons, sectionsOf, List.flatMap_map, List.forall_mem_flatMap,
      Listing.sectionLines, List.forall_mem_map]
    refine ⟨by decide, fun g hg => ?_⟩
    obtain ⟨htitle, -, hnames⟩ := hnamed g hg
    exact ⟨by decide, (show IsLine "### " by decide).append htitle, by decide, fun n hn =>
      (show IsLine "- " by decide).append (hnames n hn).1⟩
  -- The page is trimmed, which takes the last blank line and nothing else.
  rw [← hpage, blank_flatMap, hsections, ← List.cons_append, hlast, pageOf_blank hsolid, ← hlast,
    Text.lines_intercalate_of_isLine (by simp) hlines]

end CrateBook.Rustdoc
