import CrateBook.Corpus.Resolver
import CrateBook.Proofs.Corpus.Saved
import CrateBook.Proofs.Library.ItemPath

/-!
# Resolving written paths

`Resolver.resolveText` resolves an item path as it is written. For any spelling of a library and any
separators, what it gives is the entry of the saved sidecar for the full path of the item
(`resolveText_item`); a path that names only the library leads to its overview
(`resolveText_library`).
-/

namespace CrateBook.Corpus.Resolver

/-- The page of an item path as it is written. -/
def resolveText (r : Resolver) (disk : Disk) (raw : String) : Except Failure Path :=
  match ItemPath.parse raw with
  | .ok p => (r.resolve disk p).2
  | .error p => .error (.problem p)

/-- A written path leads to a file that holds a text. -/
def LeadsTo (r : Resolver) (disk : Disk) (raw text : String) : Prop :=
  ∃ page, r.resolveText disk raw = .ok page ∧
    disk.find page = .ok (.file (Text.Utf8.encode text))

variable {disk : Disk} {library : LibraryName} {root : Path} {sidecar spelling : String}
  {s : Sidecar} {steps : List (Separator × String)}

/-- A resolver that knows no sidecar loads the one on disk. -/
theorem load_eq {l : LibraryName} {path : Path}
    (hpath : sidecarPath ⟨root, .str sidecar, []⟩ l = .ok path) (hfind : disk.has path = .ok true)
    (hload : Sidecar.load disk path = .ok s) :
    Resolver.load ⟨root, .str sidecar, []⟩ disk l =
      (⟨root, .str sidecar, [(l.canonical, s)]⟩, .ok (some s)) := by
  rw [load, hpath]
  simp only [List.lookup_nil, hfind, hload]
  rfl

section

variable
  (hfind : disk.has ((root.child library.canonical).child sidecar) = .ok true)
  (hload : Sidecar.load disk ((root.child library.canonical).child sidecar) = .ok s)
  (hlibrary : IsIdentifier library.canonical) (hspelling : IsSpelling library.canonical spelling)

include hfind hload hlibrary hspelling

theorem resolveText_eq (hsteps : ∀ s ∈ steps, IsIdentifier s.2) :
    resolveText ⟨root, .str sidecar, []⟩ disk (writtenPath spelling steps) =
      pagePath ⟨root, .str sidecar, [(library.canonical, s)]⟩
        ⟨writtenPath spelling steps, spelling, steps.map (·.2)⟩ (some s) := by
  have hcanonical : LibraryName.canonical ⟨spelling⟩ = library.canonical :=
    hspelling.canonicalName hlibrary
  have hpath : sidecarPath ⟨root, .str sidecar, []⟩ ⟨spelling⟩ =
      .ok ((root.child library.canonical).child sidecar) := by
    rw [sidecarPath, libraryPath, hcanonical]
    rfl
  have hname : ItemPath.IsPathName spelling := ItemPath.isPathName_of_isPageChar
    (hspelling.ne_empty hlibrary) fun _ hc => hspelling.isPageChar hlibrary hc
  rw [resolveText, ItemPath.parse_writtenPath hname
    fun s hs => ItemPath.isPathName_of_isIdentifier (hsteps s hs)]
  dsimp only
  rw [resolve, load_eq hpath hfind hload, hcanonical]
  rfl

/-- A path that names only a library leads to its overview. -/
theorem resolveText_library :
    resolveText ⟨root, .str sidecar, []⟩ disk spelling =
      .ok ((root.child library.canonical).child overviewName) := by
  have hsteps : ∀ s ∈ ([] : List (Separator × String)), IsIdentifier s.2 := by simp
  have h := resolveText_eq hfind hload hlibrary hspelling hsteps
  have hcanonical : LibraryName.canonical ⟨spelling⟩ = library.canonical :=
    hspelling.canonicalName hlibrary
  have hraw : writtenPath spelling [] = spelling := by
    rw [← String.toList_inj, ItemPath.toList_writtenPath]
    simp
  rw [hraw] at h
  rw [h, pagePath]
  dsimp only [libraryPath]
  rw [hcanonical]
  rfl

/-- A path that names an item leads to what the sidecar says about the full path of the item. -/
theorem resolveText_item (hsteps : ∀ s ∈ steps, IsIdentifier s.2) (hne : steps ≠ []) :
    resolveText ⟨root, .str sidecar, []⟩ disk (writtenPath spelling steps) =
      match s.itemMap.lookup ("::".intercalate (library.canonical :: steps.map (·.2))) with
      | none | some .null => .error (.problem (.unresolved (writtenPath spelling steps) spelling))
      | some page =>
        (configuredPath (root.child library.canonical) page).mapError .fault := by
  have hcanonical : LibraryName.canonical ⟨spelling⟩ = library.canonical :=
    hspelling.canonicalName hlibrary
  have hinner : (steps.map (·.2)).isEmpty = false := by simpa using hne
  have hitem (raw : String) : ItemPath.item? ⟨raw, spelling, steps.map (·.2)⟩ =
      some ("::".intercalate (steps.map (·.2))) := by
    rw [ItemPath.item?, hinner]
    rfl
  have hqualified (raw : String) :
      ItemPath.qualified ⟨raw, spelling, steps.map (·.2)⟩ library.canonical =
        "::".intercalate (library.canonical :: steps.map (·.2)) := by
    rw [ItemPath.qualified, hitem, String.intercalate_cons_of_ne_nil (by simpa using hne)]
  rw [resolveText_eq hfind hload hlibrary hspelling hsteps, pagePath]
  dsimp only [libraryPath]
  rw [hcanonical, hqualified, hitem]
  rfl

end

end CrateBook.Corpus.Resolver
