import CrateBook.Html.Node
import CrateBook.Json.Access
import CrateBook.Text.Pieces

/-!
# Elements left out of a page

Three tables name the navigation and the controls of a documentation page: names of elements, ids,
and pieces of the class attribute. An element that one of them names is left out with all that it
holds.
-/

namespace CrateBook.Page

open Html (AttrValue)

/-- The tables of what is left out. -/
structure SkipRules where
  tags : List String
  ids : List String
  classParts : List String
  /-- After how many of the class parts there is an entry that is no text, if there is one. -/
  stray : Option Nat := none

namespace SkipRules

/-- What is left out of every page. -/
def default : SkipRules where
  tags := ["wbr", "rustdoc-toolbar", "script"]
  ids := ["copy-path", "implementors", "implementors-list"]
  classParts := ["src", "hideme", "anchor", "rustdoc-breadcrumbs", "tooltip"]

/-- The entry list with the new entries at its end, each entry once. -/
def addEntries (entries new : List String) : List String :=
  new.foldl (fun done e => if done.contains e then done else done ++ [e]) entries

/-- The tables with further entries. -/
def extended (rules : SkipRules) (tags ids classParts : List String) : SkipRules where
  tags := addEntries rules.tags tags
  ids := addEntries rules.ids ids
  classParts := addEntries rules.classParts classParts
  stray := rules.stray

/-- The entries that a member of a configuration section lists. A value that is no text has no
text as an entry. -/
def readEntries (key : String) (config : Json) : Except Fault (List (Option String)) := do
  (← (← config.memberOrNull key).partsIfAny).mapM fun
    | .str s => return some s
    | .arr _ => throw (.typeMismatch "a list is no entry")
    | .obj _ => throw (.typeMismatch "an object is no entry")
    | _ => return none

/-- After how many class parts the first of the entries without a text comes, if there is one. -/
def strayAmong (rules : SkipRules) (entries : List (Option String)) : Option Nat :=
  if entries.contains none then
    some (addEntries rules.classParts ((entries.takeWhile Option.isSome).filterMap id)).length
  else none

/-- The tables with the entries of a configuration section. In the tables of names and ids an entry
without a text names nothing. -/
def extendedBy (rules : SkipRules) (config : Json) : Except Fault SkipRules := do
  let tags ← readEntries "tags" config
  let ids ← readEntries "ids" config
  let classParts ← readEntries "class_substrings" config
  let more := rules.extended (tags.filterMap id) (ids.filterMap id) (classParts.filterMap id)
  return { more with stray := rules.stray <|> rules.strayAmong classParts }

/-- The element name is in the table of names. -/
def skipsTag (rules : SkipRules) (name : String) : Bool := rules.tags.contains name

/-- The id is in the table of ids. -/
def skipsId (rules : SkipRules) : Option AttrValue → Bool
  | some (.text id) => rules.ids.contains id
  | _ => false

/-- A table entry stands in the class attribute, its words one space apart. -/
def skipsClass (rules : SkipRules) : Option AttrValue → Bool
  | none => false
  | some (.text s) => s != "" && rules.classParts.any fun part => Text.contains s part
  | some (.tokens l) =>
    !l.isEmpty && rules.classParts.any fun part => Text.contains (" ".intercalate l) part

/-- A class attribute is searched for an entry that is no text, which cannot be done. -/
def straysAtClass (rules : SkipRules) (classes : Option AttrValue) : Bool :=
  match rules.stray, classes with
  | some n, some (.text s) => s != "" && !(rules.classParts.take n).any fun part =>
      Text.contains s part
  | some n, some (.tokens l) => !l.isEmpty && !(rules.classParts.take n).any fun part =>
      Text.contains (" ".intercalate l) part
  | _, _ => false

/-- The tables cannot be asked about an element with this name and these attributes. -/
def strays (rules : SkipRules) (name : String) (attrs : List (String × AttrValue)) : Bool :=
  !rules.skipsTag name && !rules.skipsId (Html.attr? "id" attrs) &&
    rules.straysAtClass (Html.attr? "class" attrs)

/-- An element with this name and these attributes is left out. -/
def skips (rules : SkipRules) (name : String) (attrs : List (String × AttrValue)) : Bool :=
  rules.skipsTag name || rules.skipsId (Html.attr? "id" attrs) ||
    rules.skipsClass (Html.attr? "class" attrs)

end SkipRules

end CrateBook.Page
