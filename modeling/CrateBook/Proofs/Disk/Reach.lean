import CrateBook.Html.Tree
import CrateBook.Json.Reader
import CrateBook.Proofs.Disk.Place

/-!
# Files within reach

Documents and JSON are gone through from the outside to the inside. A machine has only so much room
for what is open at once, and limits for the length of a number. Reading here knows of no such
limits, and it takes half a surrogate pair for a replacement character. Files within reach
(`Disk.IsWithinReach`) keep below the limits and have their surrogates in pairs, so that none of
this makes a difference.
-/

namespace CrateBook

/-- How many elements or containers may be open at once. -/
def maxOpen : Nat := 100

/-- How many characters a number may have. -/
def maxDigits : Nat := 4300

namespace Html

mutual

/-- How many elements stand inside one another. -/
def Node.height : Node → Nat
  | .element _ _ children => height children + 1
  | .text _ _ | .comment _ | .cdata _ => 0

/-- How many elements stand inside one another at most. -/
def height : List Node → Nat
  | [] => 0
  | n :: ns => max n.height (height ns)

end

end Html

namespace Json

namespace Reader

/-- Every half of a surrogate pair has the other half beside it. -/
def arePaired : List Nat → Bool
  | [] => true
  | u :: us =>
    if 0xD800 ≤ u && u < 0xDC00 then
      match us with
      | w :: ws => 0xDC00 ≤ w && w < 0xE000 && arePaired ws
      | [] => false
    else !(0xDC00 ≤ u && u < 0xE000) && arePaired us

/-- A character that comes next keeps within reach. -/
def keepsWithin (s : State) (c : Char) : Bool :=
  s.frames.length ≤ maxOpen && match s.mode with
    | .word chars => chars.length < maxDigits
    | .text _ units => c != '"' || arePaired units.reverse
    | _ => true

/-- Characters are read within reach, up to the first one that is out of place. -/
def staysWithin (s : State) : List Char → Bool
  | [] => true
  | c :: cs => keepsWithin s c && match step s c with
    | some s' => staysWithin s' cs
    | none => true

end Reader

/-- The text is read within reach as JSON. -/
def IsWithinReach (text : String) : Prop :=
  Reader.staysWithin ⟨[], .value⟩ text.toList = true

instance : DecidablePred IsWithinReach := fun text =>
  inferInstanceAs (Decidable (Reader.staysWithin ⟨[], .value⟩ text.toList = true))

end Json

/-- The bytes are within reach, if they are text: both as a document and as JSON. -/
def AreWithinReach (bytes : ByteArray) : Prop :=
  ∀ s, Text.Utf8.decode bytes = .ok s →
    Html.height (Html.parse (Text.withLineFeeds s)) ≤ maxOpen ∧
      Json.IsWithinReach (Text.withLineFeeds s)

/-- Markup is no JSON: it is given up at its first character. -/
theorem Json.isWithinReach_of_head? {s : String} (h : s.toList.head? = some '<') :
    Json.IsWithinReach s := by
  obtain ⟨cs, hcs⟩ := List.head?_eq_some_iff.1 h
  rw [Json.IsWithinReach, hcs]
  rfl

/-- Markup is within reach when it is as a document. -/
theorem areWithinReach_encode {s : String} (hhead : s.toList.head? = some '<')
    (hreturn : '\r' ∉ s.toList) (hheight : Html.height (Html.parse s) ≤ maxOpen) :
    AreWithinReach (Text.Utf8.encode s) := by
  intro t ht
  rw [Text.Utf8.decode_encode] at ht
  obtain rfl := Except.ok.inj ht
  rw [Text.withLineFeeds_eq_self hreturn]
  exact ⟨hheight, Json.isWithinReach_of_head? hhead⟩

/-- All files on the disk are within reach. -/
def Disk.IsWithinReach (d : Disk) : Prop :=
  ∀ file ∈ d.files, AreWithinReach file.2

/-- What is read from such a disk is within reach. -/
theorem Disk.IsWithinReach.of_read {d : Disk} {p : Path} {text : String} (h : d.IsWithinReach)
    (hread : d.read p = .ok text) :
    Html.height (Html.parse text) ≤ maxOpen ∧ Json.IsWithinReach text := by
  obtain ⟨bytes, s, hfind, hs, rfl⟩ := Disk.find_of_read hread
  exact h _ (Disk.mem_files_of_file? (Disk.find_eq_file.1 hfind).2) s hs

end CrateBook
