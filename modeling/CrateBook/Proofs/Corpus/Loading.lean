import CrateBook.Proofs.Corpus.Saved
import CrateBook.Proofs.Rustdoc.Results

/-!
# What becomes of a sidecar on disk

A sidecar is written with its map in order of paths, so the order in which pages came into the map
cannot be told from its text (`text_eq_of_perm`), and it is read back in that order. Whatever the
file of a sidecar holds, loading it gives a sidecar or the problem of a bad one: the faults that
loading takes for that problem are of a few kinds (`isOfSidecar`), and reading a sidecar has no
others (`ReadsGuarded`). Both ways are put together in `sidecar_survives`.
-/

namespace CrateBook.Corpus.Sidecar

open Rustdoc (exists_of_bind_eq_ok)

/-! ## Writing -/

/-- The order in which pages came into the map is not written. -/
theorem text_eq_of_perm {s : Sidecar} {pages : List (String × Json)} (hpages : pages.Perm s.itemMap)
    (hkeys : (s.itemMap.map (·.1)).Nodup) : text { s with itemMap := pages } = s.text := by
  have hsorted : (pages.mergeSort fun a b => Text.le a.1 b.1) =
      s.itemMap.mergeSort fun a b => Text.le a.1 b.1 :=
    (Json.sorted_eq hkeys ((List.mergeSort_perm _ _).trans hpages) (Json.pairwise_sorted _)).symm
  rw [text, text, toJson, toJson, hsorted]

/-- Each path is before the next one in the map of a sidecar that was saved. -/
theorem pairwise_lt_sorted {s : Sidecar} (hkeys : (s.itemMap.map (·.1)).Nodup) :
    s.sorted.itemMap.Pairwise fun a b => a.1 < b.1 := by
  have hdistinct : s.sorted.itemMap.Pairwise fun a b => a.1 ≠ b.1 :=
    List.pairwise_map.1 (Json.nodup_keys_sorted hkeys)
  refine ((Json.pairwise_sorted s.itemMap).and hdistinct).imp fun {a b} h => ?_
  rw [Text.le_eq, decide_eq_true_eq] at h
  exact lt_of_le_of_ne h.1 h.2

theorem load_of_write {s : Sidecar} {d d' : Disk} {p : Path} (hs : s.IsTextual)
    (h : d.write p s.text = (d', .ok ())) : load d' p = .ok s.sorted :=
  load_of_find hs (Disk.find_of_write h)

/-! ## Reading -/

/-- A fault that loading takes for a bad sidecar: a file that cannot be read, a text that is not
JSON or makes no sense, a member that is missing, or a value of a wrong kind. -/
def isOfSidecar : Fault → Bool
  | .noSuchFile _ | .isDirectory _ | .notDirectory _ | .nameTooLong _ => true
  | .notUtf8 _ | .notJson | .badValue _ => true
  | .missingKey _ => true
  | .typeMismatch _ => true
  | .notAnObject _ | .emptyObject | .notYaml => false

/-- The reader has only faults that loading takes for a bad sidecar. -/
def ReadsGuarded {α : Type} (r : Except Fault α) : Prop := ∀ f, r = .error f → isOfSidecar f = true

namespace ReadsGuarded

variable {α β : Type} {a : α} {f : Fault} {r : Except Fault α} {g : α → Except Fault β}

theorem ok (a : α) : ReadsGuarded (.ok a : Except Fault α) := by
  intro f h
  cases h

theorem error (hf : isOfSidecar f = true) : ReadsGuarded (.error f : Except Fault α) := by
  intro f' h
  cases h
  exact hf

theorem bind (hr : ReadsGuarded r) (hg : ∀ a, r = .ok a → ReadsGuarded (g a)) :
    ReadsGuarded (r >>= g) := by
  cases r with
  | ok a => exact hg a rfl
  | error f => exact .error (hr f rfl)

theorem mapM {f : α → Except Fault β} (hf : ∀ a, ReadsGuarded (f a)) (l : List α) :
    ReadsGuarded (l.mapM f) := by
  induction l with
  | nil => exact .ok []
  | cons a l ih =>
    rw [List.mapM_cons]
    exact (hf a).bind fun b _ => ih.bind fun bs _ => .ok (b :: bs)

end ReadsGuarded

theorem readsGuarded_read (d : Disk) (p : Path) : ReadsGuarded (d.read p) := by
  rw [Disk.read]
  split
  · rename_i o _
    cases o <;> exact .error rfl
  · exact .error rfl
  · split
    · exact .ok _
    · exact .error rfl

theorem readsGuarded_member (key : String) (v : Json) : ReadsGuarded (v.member key) := by
  cases v with
  | obj members =>
    rw [Json.member]
    split
    · exact .ok _
    · exact .error rfl
  | _ => exact .error rfl

theorem readsGuarded_parts (v : Json) : ReadsGuarded v.parts := by
  cases v with
  | arr items => exact .ok _
  | obj members => exact .ok _
  | str s => exact .ok _
  | _ => exact .error rfl

theorem readsGuarded_readPair (place : Nat) (v : Json) : ReadsGuarded (readPair place v) := by
  unfold readPair
  dsimp only
  split
  case h_4 => exact .error rfl
  all_goals
    refine (readsGuarded_parts _).bind fun parts _ => ?_
    split
    · exact .error rfl
    · exact .error rfl
    · exact .ok _
    · exact .ok _
    · exact .error rfl

theorem readsGuarded_readMap (v : Json) : ReadsGuarded (readMap v) := by
  unfold readMap
  split
  · exact .ok _
  · split
    · exact .ok _
    · have hpairs (l : List (Json × Nat)) : ReadsGuarded (l.mapM fun p => readPair p.2 p.1) :=
        .mapM (fun p => readsGuarded_readPair p.2 p.1) l
      exact (readsGuarded_parts _).bind fun parts _ => (hpairs _).bind fun pairs _ => .ok _

theorem readsGuarded_ofJson (v : Json) : ReadsGuarded (ofJson v) := by
  rw [ofJson]
  refine (readsGuarded_member _ v).bind fun declared hdeclared => ?_
  -- The members that may be missing are asked of an object: the declared name was read from it.
  obtain ⟨members, rfl⟩ := Json.exists_obj_of_member hdeclared
  exact (readsGuarded_member _ _).bind fun _ _ => (ReadsGuarded.ok _).bind fun itemMap _ =>
    (readsGuarded_readMap itemMap).bind fun _ _ => .ok _

theorem readsGuarded_ofText (text : String) : ReadsGuarded (ofText text) := by
  rw [ofText]
  split
  · exact readsGuarded_ofJson _
  · exact .error rfl

/-- Loading gives a sidecar, or the problem of a bad one for a fault of the kinds that it guards
against. -/
theorem load_cases (d : Disk) (p : Path) :
    (∃ s, load d p = .ok s) ∨ ∃ f, (d.read p >>= ofText) = .error f ∧ isOfSidecar f = true ∧
      load d p = .error (.badSidecar p.toString f.message) := by
  rw [load]
  cases h : d.read p >>= ofText with
  | ok s => exact .inl ⟨s, rfl⟩
  | error f =>
    have hguarded : ReadsGuarded (d.read p >>= ofText) :=
      (readsGuarded_read d p).bind fun text _ => readsGuarded_ofText text
    exact .inr ⟨f, rfl, hguarded f h, rfl⟩

/-- **A sidecar survives writing and reading.** It is loaded from where it was written with its map
in order of paths, the order in which its pages came into the map cannot be told from its text, and
whatever else is on a disk is loaded as a sidecar or is the problem of a bad one. -/
theorem sidecar_survives {s : Sidecar} (hs : s.IsTextual) :
    (∀ (d d' : Disk) (p : Path), d.write p s.text = (d', .ok ()) → load d' p = .ok s.sorted) ∧
    (s.sorted.itemMap.Perm s.itemMap ∧ s.sorted.itemMap.Pairwise fun a b => a.1 < b.1) ∧
    (∀ pages : List (String × Json), pages.Perm s.itemMap →
      text { s with itemMap := pages } = s.text) ∧
    ∀ d p, (∃ s', load d p = .ok s') ∨ ∃ f, (d.read p >>= ofText) = .error f ∧
      isOfSidecar f = true ∧ load d p = .error (.badSidecar p.toString f.message) :=
  ⟨fun _ _ _ => load_of_write hs, ⟨List.mergeSort_perm _ _, pairwise_lt_sorted hs.keys⟩,
    fun _ hpages => text_eq_of_perm hpages hs.keys, load_cases⟩

namespace Escaped

/-- A sidecar with paths that JSON escapes, which are not in order. -/
def sidecar : Sidecar where
  declared := .str "my-lib"
  canonical := .str "my_lib"
  itemMap := [("a::\"b\\\n", .str "b.md"), ("a::😀", .str "é.md"), ("a::S", .str "S.md")]
  format := .str "html"
  digest := .str "9f86d081"

def path : Path := .ofString "metadata.json"

end Escaped

open Escaped in
/-- Quotes, line feeds and characters outside ASCII come back. -/
theorem sidecar_survives_escaped : sidecar.IsTextual ∧
    ∃ d', Disk.write {} path sidecar.text = (d', .ok ()) ∧
      load d' path = .ok { sidecar with itemMap :=
        [("a::\"b\\\n", .str "b.md"), ("a::S", .str "S.md"), ("a::😀", .str "é.md")] } ∧
      text { sidecar with itemMap := sidecar.itemMap.reverse } = sidecar.text := by
  have hs : sidecar.IsTextual :=
    ⟨trivial, trivial, by simp [sidecar, Json.IsTextual], by decide, trivial, trivial⟩
  have hwrite : Disk.write {} path sidecar.text =
      ((Disk.write {} path sidecar.text).1, .ok ()) := Prod.ext rfl (by rfl)
  have hsorted : (sidecar.itemMap.mergeSort fun a b => Text.le a.1 b.1) =
      [("a::\"b\\\n", .str "b.md"), ("a::S", .str "S.md"), ("a::😀", .str "é.md")] :=
    Json.sorted_eq (by decide) (.cons _ (.swap ..)) (by decide)
  have hall := sidecar_survives hs
  refine ⟨hs, _, hwrite, ?_, hall.2.2.1 _ (List.reverse_perm _)⟩
  rw [hall.1 _ _ _ hwrite, sorted, hsorted]

end CrateBook.Corpus.Sidecar
