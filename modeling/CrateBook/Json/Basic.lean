import CrateBook.Json.Number

/-!
# JSON values

An object keeps its members in the order in which they were first written, and a key stands once:
a member written again takes the place of the earlier one. Numbers are integers of any size; a
number with a fraction or an exponent is kept as the shortest text for it.
-/

namespace CrateBook

/-- A JSON value. -/
inductive Json where
  | null
  | bool (b : Bool)
  | int (n : Int)
  | decimal (text : String)
  | str (s : String)
  | arr (items : List Json)
  | obj (members : List (String × Json))
  deriving Inhabited, Repr

namespace Json

/-! ## Equality -/

mutual

/-- Values are equal when they are written alike: the order of members counts. -/
def beq : Json → Json → Bool
  | .null, .null => true
  | .bool a, .bool b => a == b
  | .int m, .int n => m == n
  | .decimal s, .decimal t => s == t
  | .str s, .str t => s == t
  | .arr vs, .arr ws => beqItems vs ws
  | .obj ms, .obj ns => beqMembers ms ns
  | _, _ => false

/-- Items are equal one after another. -/
def beqItems : List Json → List Json → Bool
  | [], [] => true
  | v :: vs, w :: ws => beq v w && beqItems vs ws
  | _, _ => false

/-- Members are equal one after another. -/
def beqMembers : List (String × Json) → List (String × Json) → Bool
  | [], [] => true
  | (k, v) :: ms, (l, w) :: ns => k == l && beq v w && beqMembers ms ns
  | _, _ => false

end

instance : BEq Json := ⟨beq⟩

/-! ## Members -/

/-- The members with the value of `key` set to `v`: in its place if it has one, else at the end. -/
def setMember (key : String) (v : α) : List (String × α) → List (String × α)
  | [] => [(key, v)]
  | (k, w) :: rest => if k = key then (k, v) :: rest else (k, w) :: setMember key v rest

/-- The members in the order of their first occurrence, each with its last value. -/
def lastOfEach (members : List (String × α)) : List (String × α) :=
  members.foldl (fun done m => setMember m.1 m.2 done) []

/-- The object with these members, written one after another. -/
def object (members : List (String × Json)) : Json := .obj (lastOfEach members)

/-- The value of a member of an object. -/
def get? (key : String) : Json → Option Json
  | .obj members => members.lookup key
  | _ => none

/-- Null, false, zero and all that is empty are falsy. -/
def truthy : Json → Bool
  | .null => false
  | .bool b => b
  | .int n => n != 0
  | .decimal text => Number.ofText text != .finite 0
  | .str s => s != ""
  | .arr items => !items.isEmpty
  | .obj members => !members.isEmpty

/-- The number that a value counts as; truth values count as one and zero. -/
def number? : Json → Option Number
  | .int n => some (.ofInt n)
  | .bool b => some (.ofInt (if b then 1 else 0))
  | .decimal text => some (.ofText text)
  | _ => none

end Json

end CrateBook
