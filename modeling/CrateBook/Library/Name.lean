import CrateBook.Text.Blank

/-!
# Names of libraries

A library is declared under a name that may hold hyphens; its documentation is written under the
same name with underscores in their place. `LibraryName.hasSpelling_iff` says that two spellings
name one library when their canonical forms agree.
-/

namespace CrateBook

/-- The canonical form of a name: no blanks at its ends and underscores for hyphens. -/
def canonicalName (name : String) : String :=
  String.ofList ((Text.trim name).toList.map fun c => if c = '-' then '_' else c)

/-- The name of a library as it is declared. -/
structure LibraryName where
  declared : String
  deriving DecidableEq, Repr

namespace LibraryName

/-- The name under which the documentation of the library is written. -/
def canonical (l : LibraryName) : String := canonicalName l.declared

/-- The name is a spelling of this library's name. -/
def hasSpelling (l : LibraryName) (name : String) : Bool := canonicalName name == l.canonical

/-- A name is a spelling of a library when both have one canonical form. -/
theorem hasSpelling_iff (l m : LibraryName) :
    l.hasSpelling m.declared = true ↔ m.canonical = l.canonical := by
  simp [hasSpelling, canonical]

end LibraryName

end CrateBook
