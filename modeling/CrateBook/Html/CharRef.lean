import CrateBook.Html.EntityData
import CrateBook.Text.Digits

/-!
# Character references

A character may be written by its number or by its name. References that name no character are
text. The longest name counts; without a semicolon only some names do, and inside an attribute
such a name must not run on into a letter, a digit or an equals sign.
-/

namespace CrateBook.Html

/-- The characters that the numbers 0x80 to 0x9F stand for in the encoding of old pages. -/
def oldCodePoints : List Nat := [
  0x20AC, 0x81, 0x201A, 0x0192, 0x201E, 0x2026, 0x2020, 0x2021,
  0x02C6, 0x2030, 0x0160, 0x2039, 0x0152, 0x8D, 0x017D, 0x8F,
  0x90, 0x2018, 0x2019, 0x201C, 0x201D, 0x2022, 0x2013, 0x2014,
  0x02DC, 0x2122, 0x0161, 0x203A, 0x0153, 0x9D, 0x017E, 0x0178]

/-- The character with a number; numbers that no character has give the replacement character. -/
def charOfNumber (n : Nat) : Char :=
  if 0x80 ≤ n && n < 0xA0 then Char.ofNat (oldCodePoints.getD (n - 0x80) n)
  else if n == 0 || n > 0x10FFFF || (0xD800 ≤ n && n < 0xE000) then '\uFFFD'
  else Char.ofNat n

/-- The number that digits of a base spell. -/
def numberOf (base : Nat) (ds : List Char) : Nat :=
  ds.foldl (fun n c => base * n + (Text.hexDigit? c).getD 0) 0

/-- The end of a numeric reference: the character and the number of characters read, of which
`before` came before the digits. -/
def numericRef? (base before : Nat) (isDigit : Char → Bool) (cs : List Char) :
    Option (List Char × Nat) :=
  let ds := cs.takeWhile isDigit
  if ds.isEmpty then none
  else
    let semicolon := (cs.drop ds.length).head? == some ';'
    some ([charOfNumber (numberOf base ds)], before + ds.length + if semicolon then 1 else 0)

/-- The longest name at the start of `run` that may stand without a semicolon. -/
def shortName? (run : List Char) : Option (List Char × Nat) :=
  ((List.range run.length).reverse.map (· + 1)).findSome? fun n =>
    let name := String.ofList (run.take n)
    if shortNames.contains name then (entities.lookup name).map fun cs => (cs, n) else none

/-- A named reference; the number of characters read includes the ampersand. -/
def namedRef? (inAttribute : Bool) (cs : List Char) : Option (List Char × Nat) :=
  let run := cs.takeWhile Char.isAlphanum
  let whole :=
    if (cs.drop run.length).head? == some ';' then
      (entities.lookup (String.ofList run)).map fun r => (r, run.length + 2)
    else none
  whole <|> do
    let (r, n) ← shortName? run
    match (cs.drop n).head? with
    | some c => if inAttribute && (c == '=' || c.isAlphanum) then none else some (r, n + 1)
    | none => some (r, n + 1)

/-- The characters that a reference stands for and the number of characters it takes; `cs` follows
its ampersand. -/
def charRef? (inAttribute : Bool) (cs : List Char) : Option (List Char × Nat) :=
  match cs with
  | '#' :: 'x' :: r => numericRef? 16 3 (fun c => (Text.hexDigit? c).isSome) r
  | '#' :: 'X' :: r => numericRef? 16 3 (fun c => (Text.hexDigit? c).isSome) r
  | '#' :: r => numericRef? 10 2 Char.isDigit r
  | _ => namedRef? inAttribute cs

/-- Text with its references resolved; `skip` characters at the start belong to the last one. -/
def resolveFrom (inAttribute : Bool) (skip : Nat) : List Char → List Char
  | [] => []
  | c :: cs =>
    match skip with
    | n + 1 => resolveFrom inAttribute n cs
    | 0 =>
      if c = '&' then
        match charRef? inAttribute cs with
        | some (r, n) => r ++ resolveFrom inAttribute (n - 1) cs
        | none => c :: resolveFrom inAttribute 0 cs
      else c :: resolveFrom inAttribute 0 cs

/-- Text with its references resolved. -/
def resolve (inAttribute : Bool) (cs : List Char) : List Char := resolveFrom inAttribute 0 cs

end CrateBook.Html
