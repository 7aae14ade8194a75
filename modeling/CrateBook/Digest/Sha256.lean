import CrateBook.Text.Digits
import CrateBook.Text.Utf8

/-!
# SHA-256

The digest of a text is that of its UTF-8 bytes. The bytes are padded to whole blocks of sixteen
words of 32 bits; each block is stretched to sixty-four words, and every word takes part in one
round of mixing the eight words of the state. The digest is shown in lower-case hexadecimal digits.
-/

namespace CrateBook.Digest

/-- A state: eight words. -/
structure State where
  a : UInt32
  b : UInt32
  c : UInt32
  d : UInt32
  e : UInt32
  f : UInt32
  g : UInt32
  h : UInt32
  deriving DecidableEq, Repr

/-- The state before the first block. -/
def initial : State where
  a := 0x6a09e667
  b := 0xbb67ae85
  c := 0x3c6ef372
  d := 0xa54ff53a
  e := 0x510e527f
  f := 0x9b05688c
  g := 0x1f83d9ab
  h := 0x5be0cd19

/-- The constants of the sixty-four rounds. -/
def roundConstants : List UInt32 := [
  0x428a2f98, 0x71374491, 0xb5c0fbcf, 0xe9b5dba5, 0x3956c25b, 0x59f111f1, 0x923f82a4, 0xab1c5ed5,
  0xd807aa98, 0x12835b01, 0x243185be, 0x550c7dc3, 0x72be5d74, 0x80deb1fe, 0x9bdc06a7, 0xc19bf174,
  0xe49b69c1, 0xefbe4786, 0x0fc19dc6, 0x240ca1cc, 0x2de92c6f, 0x4a7484aa, 0x5cb0a9dc, 0x76f988da,
  0x983e5152, 0xa831c66d, 0xb00327c8, 0xbf597fc7, 0xc6e00bf3, 0xd5a79147, 0x06ca6351, 0x14292967,
  0x27b70a85, 0x2e1b2138, 0x4d2c6dfc, 0x53380d13, 0x650a7354, 0x766a0abb, 0x81c2c92e, 0x92722c85,
  0xa2bfe8a1, 0xa81a664b, 0xc24b8b70, 0xc76c51a3, 0xd192e819, 0xd6990624, 0xf40e3585, 0x106aa070,
  0x19a4c116, 0x1e376c08, 0x2748774c, 0x34b0bcb5, 0x391c0cb3, 0x4ed8aa4a, 0x5b9cca4f, 0x682e6ff3,
  0x748f82ee, 0x78a5636f, 0x84c87814, 0x8cc70208, 0x90befffa, 0xa4506ceb, 0xbef9a3f7, 0xc67178f2]

/-- A word turned to the right by `n` bits. -/
def rotate (w : UInt32) (n : UInt32) : UInt32 := (w >>> n) ||| (w <<< (32 - n))

/-- One round, with a constant and a word of the block. -/
def round (s : State) (k w : UInt32) : State :=
  let s1 := rotate s.e 6 ^^^ rotate s.e 11 ^^^ rotate s.e 25
  let choice := (s.e &&& s.f) ^^^ (~~~s.e &&& s.g)
  let t1 := s.h + s1 + choice + k + w
  let s0 := rotate s.a 2 ^^^ rotate s.a 13 ^^^ rotate s.a 22
  let majority := (s.a &&& s.b) ^^^ (s.a &&& s.c) ^^^ (s.b &&& s.c)
  ⟨t1 + (s0 + majority), s.a, s.b, s.c, s.d + t1, s.e, s.f, s.g⟩

/-- The words of a block and those that follow from them, `n` more; `last` are the sixteen last
words, in order. -/
def stretch (last : List UInt32) : Nat → List UInt32
  | 0 => last
  | n + 1 =>
    match last with
    | w0 :: rest =>
      let word (i : Nat) : UInt32 := last.getD i 0
      let s0 := rotate (word 1) 7 ^^^ rotate (word 1) 18 ^^^ (word 1 >>> 3)
      let s1 := rotate (word 14) 17 ^^^ rotate (word 14) 19 ^^^ (word 14 >>> 10)
      w0 :: stretch (rest ++ [w0 + s0 + word 9 + s1]) n
    | [] => []

/-- The state after a block of sixteen words. -/
def compress (s : State) (block : List UInt32) : State :=
  let r := (roundConstants.zip (stretch block 48)).foldl (fun s kw => round s kw.1 kw.2) s
  ⟨s.a + r.a, s.b + r.b, s.c + r.c, s.d + r.d, s.e + r.e, s.f + r.f, s.g + r.g, s.h + r.h⟩

/-- The bytes of a number, `n` of them, the most significant first. -/
def bytesOf (value : Nat) : Nat → List UInt8
  | 0 => []
  | n + 1 => UInt8.ofNat (value / 256 ^ n) :: bytesOf value n

/-- The bytes, a mark after them, zeros, and the number of their bits in eight bytes. -/
def padded (bytes : List UInt8) : List UInt8 :=
  let zeros := (119 - bytes.length % 64) % 64
  bytes ++ 0x80 :: List.replicate zeros 0 ++ bytesOf (8 * bytes.length) 8

/-- The words that bytes make, four bytes each. -/
def wordsOf : List UInt8 → List UInt32
  | a :: b :: c :: d :: rest =>
    ((a.toUInt32 <<< 24) ||| (b.toUInt32 <<< 16) ||| (c.toUInt32 <<< 8) ||| d.toUInt32) ::
      wordsOf rest
  | _ => []

/-- The state after blocks of words, `n` of them. -/
def compressAll (s : State) (words : List UInt32) : Nat → State
  | 0 => s
  | n + 1 => compressAll (compress s (words.take 16)) (words.drop 16) n

/-- The digest of bytes, as a state. -/
def sha256 (bytes : List UInt8) : State :=
  let words := wordsOf (padded bytes)
  compressAll initial words (words.length / 16)

/-- A word in eight hexadecimal digits. -/
def hexWord (w : UInt32) : String := String.ofList (Text.hexDigits 8 w.toNat)

/-- The digest of a text in hexadecimal digits. -/
def sha256Text (s : String) : String :=
  let r := sha256 (Text.Utf8.encode s).data.toList
  String.join ([r.a, r.b, r.c, r.d, r.e, r.f, r.g, r.h].map hexWord)

end CrateBook.Digest
