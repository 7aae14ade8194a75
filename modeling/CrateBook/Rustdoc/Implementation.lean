import CrateBook.Markdown.Basic
import CrateBook.Rustdoc.Crate
import CrateBook.Rustdoc.Docs
import CrateBook.Rustdoc.Function

/-!
# Implementations

The page of a type shows the public methods of its own implementations and the traits that it
implements. Implementations that the compiler has made up and blanket implementations are left out.
-/

namespace CrateBook.Rustdoc

/-- The implementations of a type that are shown. -/
def Crate.implementations (crate : Crate) (item : Item) : Except Fault (List Item) := do
  let found := ((← (item.part "impls").partsIfAny).filterMap crate.get?).filter (·.kind == "impl")
  return found.filter fun i =>
    !(i.part "is_synthetic").truthy &&
      match i.part "blanket_impl" with
      | .null => true
      | _ => false

/-- The list line of a function, for readers to whom it has the given visibility. -/
def functionLine (visibility : Visibility) (function : Item) : Except Fault String := do
  let signature ← signatureText [] visibility function
  Docs.check function.docs
  return Docs.withSummary ("- " ++ Markdown.inlineCode signature) function.docs

/-- What an implementation adds to a page: methods, or the line of a trait. -/
structure Contribution where
  methods : List String
  traits : List String

/-- What an implementation adds to a page. -/
def contribution (crate : Crate) (impl : Item) : Except Fault Contribution := do
  let members := (← (impl.part "items").partsIfAny).filterMap crate.get?
  match impl.part "trait" with
  | .null =>
    let methods := members.filter fun m => m.kind == "function" && m.isPublic
    return ⟨← methods.mapM fun m => functionLine m.visibility m, []⟩
  | trait =>
    let negative := if (impl.part "is_negative").truthy then "!" else ""
    let trait ← readPath trait
    let type ← readTy (impl.part "for")
    return ⟨[], ["- `" ++ negative ++ trait.text [] ++ "` for `" ++ type.text [] ++ "`"]⟩

/-- A group of lines under a title, nothing when there are none. -/
def group (title : String) (lines : List String) : List String :=
  if lines.isEmpty then [] else Markdown.heading 3 title :: "" :: lines ++ [""]

/-- The lines on implementations. -/
def implementationLines (crate : Crate) (impls : List Item) : Except Fault (List String) := do
  let contributions ← impls.mapM (contribution crate)
  return group "Methods" (contributions.flatMap (·.methods)) ++
    group "Trait Implementations" (contributions.flatMap (·.traits))

/-- The start of the section on implementations. -/
def implementationsHead : List String := ["---", "", Markdown.heading 2 "Implementations", ""]

/-- The section on the implementations of a type, nothing when there are none. -/
def implementationsSection (crate : Crate) (item : Item) : Except Fault (List String) := do
  let lines ← implementationLines crate (← crate.implementations item)
  return if lines.isEmpty then [] else implementationsHead ++ lines

/-- The section on the implementations that an alias has from its target. -/
def inheritedSection (crate : Crate) (targetName : String) (target : Option Item) :
    Except Fault (List String) := do
  let lines ← match target with
    | none => pure []
    | some target => implementationLines crate (← crate.implementations target)
  let head := implementationsHead ++
    ["This type inherits all implementations from `" ++ targetName ++ "`.", ""]
  return head ++ if lines.isEmpty then ["No implementations found.", ""] else lines

end CrateBook.Rustdoc
