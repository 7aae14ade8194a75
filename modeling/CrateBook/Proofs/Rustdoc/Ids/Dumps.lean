import CrateBook.Proofs.Rustdoc.Ids.Pages

/-!
# Dumps are read however ids are spelled

The crate that a respelled dump records is the crate of the dump with texts for ids. It has the same
public items in the same order, and so the same overview and listing.
-/

namespace CrateBook.Rustdoc

variable {c c' : Crate} {v : Json}

/-! ## Items -/

namespace Item

theorem readInner_respell (v : Json) : readInner (respell (.tableOf .payload) v) =
    (fun m => (m.1, respell .payload m.2)) <$> readInner v := by
  rw [readInner, readInner, orObject_respell (by simp)]
  cases v.orObject with
  | obj ms =>
    obtain _ | ⟨⟨kind, w⟩, ms⟩ := ms
    · rfl
    · cases w with
      | obj ms => rfl
      | arr vs =>
        rw [respell_obj, respellMembers, Place.under,
          respell_eq_self (by simp) (fun _ => rfl) (by simp)]
        have htype : respell .type (.arr vs) = .arr vs :=
          respell_eq_self (by simp) (fun _ => rfl) (by simp)
        change _ = (fun m => (m.1, respell .payload m.2)) <$> pure (kind, .obj [("value", .arr vs)])
        have hvalue : Place.payload.under "value" = .type := rfl
        rw [map_pure, respell_obj, respellMembers, hvalue, htype]
        rfl
      | _ => rfl
  | arr vs => rw [respell_arr]; rfl
  | int n => rfl
  | _ => rfl

theorem ofJson_respell (v : Json) : ofJson (respell .item v) = textIds <$> ofJson v := by
  have hinner : Place.item.under "inner" = .tableOf .payload := rfl
  have hid : Place.item.under "id" = .id := rfl
  have hother (key : String) (hkey : key ∉ ["id", "links", "inner"]) :
      Place.item.under key = .other := by
    simp only [List.mem_cons, List.not_mem_nil, or_false, not_or] at hkey
    simp [Place.under, Place.members, List.lookup_cons, beq_eq_false_iff_ne.2 hkey.1,
      beq_eq_false_iff_ne.2 hkey.2.1, beq_eq_false_iff_ne.2 hkey.2.2]
  have hplain (key : String) (hkey : key ∉ ["id", "links", "inner"]) :
      (respell .item v).member? key = v.member? key := by
    rw [member?_respell (by simp), hother key hkey, funext respell_other, Option.map_id_fun']
    exact id_map _
  have hplain' (key : String) (hkey : key ∉ ["id", "links", "inner"]) :
      (respell .item v).memberOrNull key = v.memberOrNull key := by
    rw [Json.memberOrNull, Json.memberOrNull, hplain key hkey]
  rw [ofJson, ofJson, hplain "visibility" (by simp), hplain "crate_id" (by simp),
    hplain' "name" (by simp), hplain' "docs" (by simp), memberOrNull_respell (by simp), hinner,
    memberOrNull_respell (by simp), hid]
  simp only [bind_map_left, readInner_respell, key?_respell, map_bind]
  rfl

end Item

/-! ## Crates -/

/-- The crate with texts for the ids in what its items are made of. -/
def Crate.textIds (c : Crate) : Crate :=
  { c with items := c.items.map fun e => (e.1, e.2.textIds) }

theorem Crate.spelledAs_textIds (c : Crate) : c.SpelledAs c.textIds where
  item key := Json.lookup_map_snd (fun _ => Item.textIds) c.items key
  path _ := rfl
  isEmpty_paths := rfl
  root := rfl
  version := rfl

namespace Crate

theorem readItems_respell (v : Json) : readItems (respell (.tableOf .item) v) =
    (List.map fun e => (e.1, e.2.textIds)) <$> readItems v := by
  rw [readItems, readItems, orObject_respell (by simp), members_respell (by simp)]
  have hitem (m : String × Json) : (do
      let item ← Item.ofJson (respell .item m.2)
      return (if item.id == "" then m.1 else item.id, item) : Except Fault (String × Item)) =
      (fun e => (e.1, e.2.textIds)) <$> do
        let item ← Item.ofJson m.2
        return (if item.id == "" then m.1 else item.id, item) := by
    simp only [Item.ofJson_respell, bind_map_left, map_bind, map_pure]
    rfl
  simp only [bind_map_left, List.mapM_map, map_bind]
  refine bind_congr fun ms => ?_
  rw [Function.comp_def]
  simp only [Place.under, hitem]
  rw [mapM_map_result, bind_map_left]
  simp only [Json.lastOfEach_map, map_pure]

theorem ofJson_respell (v : Json) : ofJson (respell .dump v) = textIds <$> ofJson v := by
  have hindex : Place.dump.under "index" = .tableOf .item := rfl
  have hroot : Place.dump.under "root" = .id := rfl
  have hplain (key : String) (hkey : key ∉ ["root", "index"]) :
      (respell .dump v).memberOrNull key = v.memberOrNull key := by
    simp only [List.mem_cons, List.not_mem_nil, or_false, not_or] at hkey
    have hother : Place.dump.under key = .other := by
      simp [Place.under, Place.members, List.lookup_cons, beq_eq_false_iff_ne.2 hkey.1,
        beq_eq_false_iff_ne.2 hkey.2]
    rw [memberOrNull_respell (by simp), hother, funext respell_other]
    exact id_map _
  rw [ofJson, ofJson, hplain "paths" (by simp), hplain "crate_version" (by simp),
    hplain "format_version" (by simp), memberOrNull_respell (by simp), hindex,
    memberOrNull_respell (by simp), hroot]
  simp only [bind_map_left, readItems_respell, Item.key?_respell, map_bind, map_pure]
  rfl

/-! ## Public items -/

theorem memberIds_textIds (c : Crate) : c.textIds.memberIds = c.memberIds := by
  have hids (i : Item) := i.partsIfAny_textIds "items" rfl
  rw [memberIds, memberIds]
  simp only [textIds, List.filter_map, List.mapM_map, Function.comp_def, Item.kind_textIds, hids]
  rw [mapM_map_result, bind_map_left]
  simp only [← List.map_flatten, List.filterMap_map, Function.comp_def, Item.key?_respell]

theorem publicItems_textIds (c : Crate) :
    c.textIds.publicItems = List.map Item.textIds <$> c.publicItems := by
  have hitems : c.textIds.items.map (·.2) = (c.items.map (·.2)).map Item.textIds := by
    simp [textIds, Function.comp_def]
  rw [publicItems, publicItems, memberIds_textIds, map_bind]
  refine bind_congr fun members => ?_
  rw [hitems, List.filter_map]
  -- Both sides list the same items, and look at their paths under the same ids.
  change (((c.items.map (·.2)).filter fun i => c.isListed i && !members.contains i.id).map
    Item.textIds).forM (c.textIds.checkPath 0) >>= _ = _
  rw [List.forM_eq_forM, List.forM_map]
  simp only [map_bind, map_pure]
  refine bind_congr fun _ => ?_
  refine congrArg pure (List.map_mergeSort fun a _ b _ => ?_).symm
  rw [c.spelledAs_textIds.qualifiedName, c.spelledAs_textIds.qualifiedName]

theorem overviewPage_textIds (c : Crate) : overviewPage c.textIds = overviewPage c := by
  have hdocs : c.textIds.rootItem?.elim .null (·.docs) = c.rootItem?.elim .null (·.docs) := by
    rw [c.spelledAs_textIds.rootItem?]
    cases c.rootItem? <;> rfl
  rw [overviewPage, overviewPage, publicItems_textIds, bind_map_left, hdocs,
    c.spelledAs_textIds.name]
  simp only [List.map_map]
  rfl

theorem listing_textIds (c : Crate) : listing c.textIds = listing c := by
  have hinner (i : Item) : innerPath c.textIds i.textIds = innerPath c i := by
    rw [innerPath, innerPath, c.spelledAs_textIds.qualifiedName]
    rfl
  rw [listing, listing, publicItems_textIds, bind_map_left]
  simp only [List.map_map, Function.comp_def, hinner]
  rfl

end Crate

end CrateBook.Rustdoc
