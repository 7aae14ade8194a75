import CrateBook.Disk
import CrateBook.Json.Access
import CrateBook.Json.Reader
import CrateBook.Json.Writer

/-!
# Sidecars

Beside the pages of a library stands a sidecar: the two spellings of its name, the map from the full
paths of items to their pages, the form in which the documentation was read, and the digest of the
configuration. A sidecar is written as JSON with its map in order of paths. A sidecar that is read
may hold any values; only its names must be there and its map must be one.
-/

namespace CrateBook.Corpus

/-- A sidecar. -/
structure Sidecar where
  declared : Json
  canonical : Json
  itemMap : List (String × Json)
  format : Json
  digest : Json

namespace Sidecar

/-- The sidecar as a value, its map in order of paths. -/
def toJson (s : Sidecar) : Json := .obj [
  ("declared_name", s.declared), ("canonical_name", s.canonical),
  ("item_map", .obj (s.itemMap.mergeSort fun a b => Text.le a.1 b.1)),
  ("format", s.format), ("config_hash", s.digest)]

/-- A key and its value, from the two parts of a value. A key that is no text is the path of no
item, and there is nothing to be found under it. -/
def readPair (place : Nat) (v : Json) : Except Fault (Option (String × Json)) := do
  let parts ← match v with
    | .arr _ | .obj _ | .str _ => v.parts
    | _ => throw (.typeMismatch ("item " ++ toString place ++ " of the map has no parts"))
  match parts with
  | [.arr _, _] | [.obj _, _] =>
    throw (.typeMismatch ("the key of item " ++ toString place ++ " of the map is no text"))
  | [.str key, value] => return some (key, value)
  | [_, _] => return none
  | l => throw (.badValue ("item " ++ toString place ++ " of the map has " ++ toString l.length ++
      " parts and needs two"))

/-- A map, written as an object or as a list of pairs; empty when the value is falsy. -/
def readMap (v : Json) : Except Fault (List (String × Json)) :=
  if !v.truthy then .ok []
  else match v with
    | .obj members => .ok members
    | v => do
      let pairs ← (← v.parts).zipIdx.mapM fun p => readPair p.2 p.1
      return Json.lastOfEach (pairs.filterMap id)

/-- The sidecar that a value records. -/
def ofJson (v : Json) : Except Fault Sidecar := do
  let declared ← v.member "declared_name"
  let canonical ← v.member "canonical_name"
  let itemMap ← readMap (← v.memberOrNull "item_map")
  let format := (← v.member? "format").getD (.str "html")
  let digest := (← v.member? "config_hash").getD (.str "")
  return ⟨declared, canonical, itemMap, format, digest⟩

/-- The text of a sidecar. -/
def text (s : Sidecar) : String := s.toJson.pretty ++ "\n"

/-- The sidecar that a text spells. -/
def ofText (text : String) : Except Fault Sidecar :=
  match Json.read? text with
  | some v => ofJson v
  | none => .error .notJson

/-- The sidecar that is read from a file. A file that is none is a problem, whatever is wrong with
it. -/
def load (disk : Disk) (p : Path) : Except Problem Sidecar :=
  match disk.read p >>= ofText with
  | .ok s => .ok s
  | .error f => .error (.badSidecar p.toString f.message)

end Sidecar

end CrateBook.Corpus
