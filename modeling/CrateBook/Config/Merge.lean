import CrateBook.Json.Compare

/-!
# Merging configurations

A configuration is merged into another one member by member: objects are merged, and every other
value takes the place of the earlier one. The lists of what is skipped are not replaced but
extended: the merged list has every entry of both once, in order.
-/

namespace CrateBook.Config

/-- The members whose lists are extended. -/
def additiveKeys : List String := ["tags", "ids", "class_substrings"]

/-- The entries in which each counts once; lists and objects cannot be entries. -/
def distinct (entries : List Json) : Except Fault (List Json) :=
  entries.foldlM (fun done e =>
    match e with
    | .arr _ | .obj _ => .error (.typeMismatch ("a value of kind " ++ e.kindName ++ " is no entry"))
    | e => .ok (if done.any e.same then done else done ++ [e])) []

/-- The entries in order. Each two of them must have one. -/
def sorted (entries : List Json) : Except Fault (List Json) := do
  Json.comparable entries
  return entries.mergeSort Json.le

/-- Every entry of both lists once, in order. -/
def union (current new : List Json) : Except Fault (List Json) := do
  sorted (← distinct (current ++ new))

/-- A value as a list of entries. -/
def entriesOf : Json → List Json
  | .arr items => items
  | v => [v]

mutual

/-- The value of a member `key` after `v` is merged into its current value. -/
def mergeValue (key : String) (current : Option Json) : Json → Except Fault Json
  | .obj new =>
    match current with
    | some (.obj members) => return .obj (← mergeMembers members new)
    | some (.arr items) =>
      if additiveKeys.contains key then return .arr (← union items [.obj new])
      else return .obj new
    | _ => return .obj new
  | v =>
    match current with
    | some (.arr items) =>
      if additiveKeys.contains key then return .arr (← union items (entriesOf v)) else return v
    | _ => return v

/-- The members after others are merged into them. -/
def mergeMembers (members : List (String × Json)) :
    List (String × Json) → Except Fault (List (String × Json))
  | [] => return members
  | (key, v) :: rest => do
    let v ← mergeValue key (members.lookup key) v
    mergeMembers (Json.setMember key v members) rest

end

/-- The configuration `base` with `new` merged into it. -/
def merge (base new : Json) : Except Fault Json := do
  return .obj (← mergeMembers (← base.members) (← new.members))

end CrateBook.Config
