import CrateBook.Json.Access
import CrateBook.Text.Pieces

/-!
# Comparing values

Two values count as one when they hold the same, numbers by their size and objects whatever the
order of their members. Only texts, numbers and lists have an order, each kind for itself; of two
lists the first place where they differ decides.
-/

namespace CrateBook.Json

mutual

/-- The values count as one. -/
def same : Json → Json → Bool
  | .null, .null => true
  | .str s, .str t => s == t
  | .arr vs, .arr ws => sameItems vs ws
  | .obj ms, .obj ns => ms.length == ns.length && sameMembers ms ns
  | v, w =>
    match v.number?, w.number? with
    | some m, some n => m.same n
    | _, _ => false

/-- The items count as the same one after another. -/
def sameItems : List Json → List Json → Bool
  | [], [] => true
  | v :: vs, w :: ws => v.same w && sameItems vs ws
  | _, _ => false

/-- Every member has its key and its value among the others. -/
def sameMembers : List (String × Json) → List (String × Json) → Bool
  | [], _ => true
  | (k, v) :: ms, ns =>
    (match ns.lookup k with
      | some w => v.same w
      | none => false) && sameMembers ms ns

end

mutual

/-- The first value comes before the second one. -/
def less? : Json → Json → Except Fault Bool
  | .str s, .str t => .ok (s < t)
  | .arr vs, .arr ws => lessItems vs ws
  | v, w =>
    match v.number?, w.number? with
    | some m, some n => .ok (m.less n)
    | _, _ => .error (.typeMismatch ("'<' not supported between instances of '" ++ v.kindName ++
        "' and '" ++ w.kindName ++ "'"))

/-- The first list of items comes before the second one. -/
def lessItems : List Json → List Json → Except Fault Bool
  | v :: vs, w :: ws => if v.same w then lessItems vs ws else v.less? w
  | [], ws => .ok !ws.isEmpty
  | _, [] => .ok false

end

/-- Values in order, as far as there is one. -/
def le (v w : Json) : Bool :=
  match w.less? v with
  | .ok isLess => !isLess
  | .error _ => true

/-- Each two of the values can be compared. -/
def comparable : List Json → Except Fault Unit
  | [] => .ok ()
  | v :: vs => do
    vs.forM fun w => discard (w.less? v)
    comparable vs

end CrateBook.Json
