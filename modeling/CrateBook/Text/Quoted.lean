import CrateBook.Text.Digits
import CrateBook.Text.Spans
import CrateBook.Text.UnseenData

/-!
# Names between quotes

A name in a message stands between single quotes. A name that holds a single quote and no double
one stands between double quotes. Characters without a visible form are written by their numbers.
-/

namespace CrateBook.Text

/-- The character has a visible form, or is a space. -/
def isSeen (c : Char) : Bool :=
  0x20 ≤ c.toNat && (c.toNat < 0x7F || !inSpans unseenSpans c.toNat)

/-- A character by its number, in as many digits as it needs of two, four or eight. -/
def numbered (c : Char) : List Char :=
  if c.toNat < 0x100 then '\\' :: 'x' :: hexDigits 2 c.toNat
  else if c.toNat < 0x10000 then '\\' :: 'u' :: hexDigits 4 c.toNat
  else '\\' :: 'U' :: hexDigits 8 c.toNat

/-- The quote that a name stands between. -/
def quoteFor (cs : List Char) : Char :=
  if cs.contains '\x27' && !cs.contains '"' then '"' else '\x27'

/-- How a character of a name between the quotes `q` is written. -/
def quotedChar (q c : Char) : List Char :=
  if c = '\\' || c = q then ['\\', c]
  else if c = '\n' then ['\\', 'n']
  else if c = '\r' then ['\\', 'r']
  else if c = '\t' then ['\\', 't']
  else if isSeen c then [c]
  else numbered c

/-- A name between quotes. -/
def quotedName (s : String) : String :=
  let q := quoteFor s.toList
  String.ofList (q :: s.toList.flatMap (quotedChar q) ++ [q])

end CrateBook.Text
