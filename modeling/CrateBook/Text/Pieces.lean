/-!
# Pieces of text

Cutting text at a pattern, replacing a pattern and testing for one, over the characters of the
text, together with the order of texts by code points.
-/

namespace CrateBook.Text

/-- What follows `p` at the start of `cs`. -/
def after? (p cs : List Char) : Option (List Char) :=
  match p, cs with
  | [], cs => some cs
  | _ :: _, [] => none
  | a :: p, c :: cs => if a = c then after? p cs else none

/-- Cuts `cs` before the first occurrence of `p`; the second part is what follows that
occurrence, if there is one. -/
def cutAt (p : List Char) : List Char → List Char × Option (List Char)
  | [] => ([], after? p [])
  | c :: cs =>
    match after? p (c :: cs) with
    | some rest => ([], some rest)
    | none => let (l, r) := cutAt p cs; (c :: l, r)

/-- Replaces each occurrence of `p` in `cs` by `q`, from left to right; `skip` characters at the
start of `cs` belong to the last occurrence and are dropped. -/
def replaceRuns (p q : List Char) (skip : Nat) : List Char → List Char
  | [] => []
  | c :: cs =>
    match skip with
    | n + 1 => replaceRuns p q n cs
    | 0 =>
      if (after? p (c :: cs)).isSome then q ++ replaceRuns p q (p.length - 1) cs
      else c :: replaceRuns p q 0 cs

/-- Replaces each occurrence of the non-empty text `p` in `s` by `q`, from left to right. -/
def replace (s p q : String) : String :=
  String.ofList (replaceRuns p.toList q.toList 0 s.toList)

/-- The text `p` stands at the start of `s`. -/
def startsWith (s p : String) : Bool := p.toList.isPrefixOf s.toList

/-- The text `p` stands somewhere in `s`. -/
def contains (s p : String) : Bool :=
  p.toList.isEmpty || (cutAt p.toList s.toList).2.isSome

/-- The first `n` characters. -/
def take (s : String) (n : Nat) : String := String.ofList (s.toList.take n)

/-- All but the first `n` characters. -/
def drop (s : String) (n : Nat) : String := String.ofList (s.toList.drop n)

/-- The pieces of `s` between the occurrences of `c`. -/
def splitOnChar (s : String) (c : Char) : List String :=
  (s.toList.splitOn c).map String.ofList

/-- The pieces of `cs` between the occurrences of `p`, from left to right; `skip` characters at the
start of `cs` belong to the last occurrence and are dropped. -/
def splitRuns (p : List Char) (skip : Nat) : List Char → List (List Char)
  | [] => [[]]
  | c :: cs =>
    match skip with
    | n + 1 => splitRuns p n cs
    | 0 =>
      if (after? p (c :: cs)).isSome then [] :: splitRuns p (p.length - 1) cs
      else match splitRuns p 0 cs with
        | [] => [[c]]
        | piece :: pieces => (c :: piece) :: pieces

/-- The pieces of `s` between the occurrences of the non-empty text `p`, from left to right. -/
def splitOn (s p : String) : List String := (splitRuns p.toList 0 s.toList).map String.ofList

/-- Texts ordered by code points. -/
def le (a b : String) : Bool := !decide (b < a)

/-- The texts in the order of their code points. -/
def sort (l : List String) : List String := l.mergeSort le

end CrateBook.Text
