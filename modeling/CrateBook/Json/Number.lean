/-!
# Numbers

A number that is written with a fraction or an exponent counts as the nearest binary floating-point
number of 64 bits, of two equally near ones as the one with the even last place. All finite ones are
whole multiples of the smallest positive one, two to the power of -1074, and are held as that
multiple; in this form they are compared with each other and with integers of any size.
-/

namespace CrateBook

/-- A number, as far as its size goes. -/
inductive Number where
  /-- So many times the smallest positive number. -/
  | finite (units : Int)
  | infinite (isNegative : Bool)
  /-- What is no number though it is written in the place of one. -/
  | nan
  deriving DecidableEq, Repr

namespace Number

/-- How many units one is. -/
def one : Nat := Nat.pow 2 1074

/-- From how many units on a number is too large to be finite. -/
def limit : Nat := Nat.pow 2 2098

/-- The number of an integer. -/
def ofInt (n : Int) : Number := .finite (n * one)

/-- The number on the other side of zero. -/
def neg : Number → Number
  | .finite n => .finite (-n)
  | .infinite isNegative => .infinite !isNegative
  | .nan => .nan

/-! ## Reading -/

/-- The integer nearest to a fraction, of two equally near ones the even one. -/
def nearest (num den : Nat) : Nat :=
  let q := num / den
  if 2 * (num % den) < den || (2 * (num % den) == den && q % 2 == 0) then q else q + 1

/-- The number nearest to a fraction; it has 53 significant binary digits. -/
def ofFraction (num den : Nat) : Number :=
  let place := Nat.pow 2 ((num * one / den).log2 + 1 - 53)
  let units := nearest (num * one) (den * place) * place
  if units < limit then .finite units else .infinite false

/-- The number that decimal digits spell. -/
def natOfDigits (ds : List Char) : Nat :=
  ds.foldl (fun n c => 10 * n + (c.toNat - '0'.toNat)) 0

/-- The number that digits spell with as many of the last places behind the point as the exponent
says. What has its first place far from the point is not worked out. -/
def ofDigits (ds : List Char) (exponent : Int) : Number :=
  let ds := ds.dropWhile (· == '0')
  let first := ds.length + exponent
  if ds.isEmpty || first < -330 then .finite 0
  else if 310 < first then .infinite false
  else ofFraction (natOfDigits ds * Nat.pow 10 exponent.toNat) (Nat.pow 10 (-exponent).toNat)

/-- The exponent behind a number. -/
def exponentOf : List Char → Int
  | _ :: '-' :: ds => -natOfDigits ds
  | _ :: '+' :: ds => natOfDigits ds
  | _ :: ds => natOfDigits ds
  | [] => 0

/-- The number that is written without a sign. -/
def ofUnsigned (cs : List Char) : Number :=
  if cs == "NaN".toList then .nan
  else if cs == "Infinity".toList then .infinite false
  else
    let (whole, rest) := cs.span Char.isDigit
    let (fraction, rest) := match rest with
      | '.' :: rest => rest.span Char.isDigit
      | rest => ([], rest)
    ofDigits (whole ++ fraction) (exponentOf rest - fraction.length)

/-- The number that is written with a fraction or an exponent. -/
def ofText (s : String) : Number :=
  match s.toList with
  | '-' :: cs => (ofUnsigned cs).neg
  | cs => ofUnsigned cs

/-! ## Writing -/

/-- How many places of a fraction of units stand before the point; the places behind it that are
zero count as negative. -/
def placesBefore (units : Nat) : Int :=
  if one ≤ units then (Nat.toDigits 10 (units / one)).length
  else 1 - (Nat.toDigits 10 (one / units)).length

/-- Decimal digits that count as so many units and how many of them stand before the point, if
`count` digits are enough for it. The nearer ones are taken; rounded up they can be one more. -/
def digits? (units : Nat) (count : Nat) : Option (List Char × Int) :=
  let before := placesBefore units
  let shift := count - before
  let up := Nat.pow 10 shift.toNat
  let down := Nat.pow 10 (-shift).toNat
  let d := units * up / (one * down)
  let nearer := if 2 * (units * up % (one * down)) < one * down then [d, d + 1] else [d + 1, d]
  (nearer.find? fun d => ofFraction (d * down) up == .finite units).map fun d =>
    let ds := Nat.toDigits 10 d
    (ds, before + ds.length - count)

/-- A number without a sign and its point after so many places. -/
def pointed (ds : List Char) (before : Int) : List Char :=
  if before ≤ 0 then "0.".toList ++ List.replicate (-before).toNat '0' ++ ds
  else if (ds.length : Int) ≤ before then
    ds ++ List.replicate (before.toNat - ds.length) '0' ++ ".0".toList
  else ds.take before.toNat ++ '.' :: ds.drop before.toNat

/-- A number without a sign and its point after the first place, with an exponent of two places or
more. -/
def scientific (ds : List Char) (before : Int) : List Char :=
  let exponent := Nat.toDigits 10 (before - 1).natAbs
  ds.take 1 ++ (if ds.length = 1 then [] else '.' :: ds.drop 1) ++
    (if before ≤ 0 then "e-".toList else "e+".toList) ++
    List.replicate (2 - exponent.length) '0' ++ exponent

/-- The shortest text that counts as so many units, of which there is at least one. Seventeen digits
are always enough. -/
def unitsText (units : Nat) : String :=
  let (ds, before) := ((List.range' 1 17).findSome? (digits? units)).getD (['0'], 1)
  let ds := (ds.reverse.dropWhile (· == '0')).reverse
  String.ofList (if before ≤ -4 || 16 < before then scientific ds before else pointed ds before)

/-- The number as it is written. -/
def text : Number → String
  | .finite n =>
    if n = 0 then "0.0"
    else if n < 0 then "-" ++ unitsText n.natAbs
    else unitsText n.natAbs
  | .infinite isNegative => if isNegative then "-Infinity" else "Infinity"
  | .nan => "NaN"

/-- The text of the number that is written; zero keeps its sign. -/
def canonical (s : String) : String :=
  if ofText s == .finite 0 && s.toList.head? == some '-' then "-0.0" else (ofText s).text

/-! ## Order -/

/-- The numbers are of one size. There is only one of what is no number. -/
def same : Number → Number → Bool
  | .finite m, .finite n => m == n
  | .infinite a, .infinite b => a == b
  | .nan, .nan => true
  | _, _ => false

/-- The first number is the smaller one. -/
def less : Number → Number → Bool
  | .finite m, .finite n => m < n
  | .infinite a, .infinite b => a && !b
  | .infinite isNegative, .finite _ => isNegative
  | .finite _, .infinite isNegative => !isNegative
  | _, _ => false

end Number

end CrateBook
