/-!
# Text in bytes

Reading bytes as UTF-8. Where the bytes are no text, `Utf8.firstFault` names the first sequence
that breaks the encoding: a byte that starts no character, a character whose continuation is
broken off, or a character that the end of the data cuts short. `Utf8.decode_encode` says that
what was written is read back.
-/

namespace CrateBook.Text.Utf8

/-- Why a sequence of bytes is no character. -/
inductive Defect where
  | invalidStart
  | invalidContinuation
  | unexpectedEnd
  deriving DecidableEq, Repr

/-- A sequence of bytes that is no character: its position, its bytes and what is wrong. -/
structure Fault where
  position : Nat
  bytes : List UInt8
  defect : Defect
  deriving DecidableEq, Repr

/-- A byte that continues a character. -/
def isContinuation (b : UInt8) : Bool := 0x80 ≤ b && b < 0xC0

/-- A byte that may follow the start byte `b` of a character. -/
def isSecond (b c : UInt8) : Bool :=
  isContinuation c && (if c < 0xA0 then b != 0xE0 else b != 0xED) &&
    (if c < 0x90 then b != 0xF0 else b != 0xF4)

/-- The number of bytes of a character that starts with `b`. -/
def widthOf? (b : UInt8) : Option Nat :=
  if b < 0x80 then some 1
  else if b < 0xC2 then none
  else if b < 0xE0 then some 2
  else if b < 0xF0 then some 3
  else if b < 0xF5 then some 4
  else none

/-- The number of bytes among `bs` that continue the character begun by `b`, of at most `n`. -/
def continuationLength (b : UInt8) (n : Nat) (bs : List UInt8) : Nat :=
  match bs.take n with
  | [] => 0
  | c :: cs => if isSecond b c then 1 + (cs.takeWhile isContinuation).length else 0

/-- What stands at the start of `b :: bs`: the width of a character, or a defect and the width of
the sequence that has it. -/
def lead (b : UInt8) (bs : List UInt8) : Except (Defect × Nat) Nat :=
  match widthOf? b with
  | none => .error (.invalidStart, 1)
  | some w =>
    let n := continuationLength b (w - 1) bs
    if n = w - 1 then .ok w
    else if n = bs.length then .error (.unexpectedEnd, n + 1)
    else .error (.invalidContinuation, n + 1)

/-- The first sequence that breaks the encoding; `skip` bytes at the start belong to the last
character, and `position` bytes came before. -/
def firstFaultFrom (position skip : Nat) : List UInt8 → Option Fault
  | [] => none
  | b :: bs =>
    match skip with
    | n + 1 => firstFaultFrom (position + 1) n bs
    | 0 =>
      match lead b bs with
      | .ok w => firstFaultFrom (position + 1) (w - 1) bs
      | .error (defect, w) => some ⟨position, (b :: bs).take w, defect⟩

/-- The first sequence that breaks the encoding. -/
def firstFault (bytes : ByteArray) : Option Fault := firstFaultFrom 0 0 bytes.toList

/-- The characters of the bytes with the replacement character for each broken sequence. -/
def replaceFaultsFrom (skip : Nat) : List UInt8 → List Char
  | [] => []
  | b :: bs =>
    match skip with
    | n + 1 => replaceFaultsFrom n bs
    | 0 =>
      match lead b bs with
      | .ok w =>
        let c := (String.fromUTF8? (ByteArray.mk ((b :: bs).take w).toArray)).getD ""
        c.toList ++ replaceFaultsFrom (w - 1) bs
      | .error (_, w) => '\uFFFD' :: replaceFaultsFrom (w - 1) bs

/-- The bytes as text, each broken sequence shown as one replacement character. -/
def decodeLossy (bytes : ByteArray) : String :=
  match String.fromUTF8? bytes with
  | some s => s
  | none => String.ofList (replaceFaultsFrom 0 bytes.toList)

/-- The bytes as text, or the first sequence that breaks the encoding. -/
def decode (bytes : ByteArray) : Except Fault String :=
  match String.fromUTF8? bytes with
  | some s => .ok s
  | none => .error ((firstFault bytes).getD ⟨0, [], .invalidStart⟩)

/-- The bytes of a text. -/
def encode (s : String) : ByteArray := s.toUTF8

/-- What was written is read back. -/
theorem decode_encode (s : String) : decode (encode s) = .ok s := by
  have h : String.fromUTF8? s.toUTF8 = some s := by
    simp only [String.fromUTF8?, String.toUTF8_eq_toByteArray, s.isValidUTF8, dif_pos]
    rfl
  rw [decode, encode, h]

end CrateBook.Text.Utf8
