import CrateBook.Proofs.Text.Joining
import CrateBook.Rustdoc.Ty.Text

/-!
# Reading the text of a type

A reader for types as they are written without a substitution: names and paths with arguments,
tuples, slices, arrays, pointers, references, plain functions and trait objects. The target of a
pointer or reference has one bound unless it stands between parentheses: the plus sign in
`&dyn Read + Send` does not belong to the trait object, and no type is read from this text.
`Ty.ofText?` reads a whole text.

`Reads` says that a reader takes a text from the front of whatever may follow it. Names, lifetimes
and lists of parts are read so (`reads_name`, `reads_lifetime`, `more_append`, `listed_append`).
-/

namespace CrateBook.Rustdoc

/-- A reader takes something from the front of the characters and gives what follows. -/
abbrev Reader (α : Type) := List Char → Option (α × List Char)

/-- A character that no sign of the syntax of types has. -/
def isNameChar (c : Char) : Bool := !(" ,;<>()[]&*'+-".toList.contains c)

/-- The text can be a name. Identifiers are names, and so are identifiers with colons between
them. -/
def isTypeName (s : String) : Bool := !s.toList.isEmpty && s.toList.all isNameChar

/-- The text is a lifetime: a name with an apostrophe before it. -/
def isLifetime (s : String) : Bool :=
  match s.toList with
  | '\'' :: word => isTypeName (String.ofList word)
  | _ => false

section

variable {s : String} {c : Char}

theorem ne_nil_of_isTypeName (h : isTypeName s = true) : s.toList ≠ [] := by
  rw [isTypeName, Bool.and_eq_true, Bool.not_eq_true'] at h
  exact List.isEmpty_eq_false_iff.1 h.1

theorem isNameChar_of_mem (h : isTypeName s = true) (hc : c ∈ s.toList) : isNameChar c = true := by
  rw [isTypeName, Bool.and_eq_true] at h
  exact List.all_eq_true.1 h.2 c hc

theorem exists_of_isLifetime (h : isLifetime s = true) :
    ∃ word, isTypeName word = true ∧ s = "'" ++ word := by
  rw [isLifetime] at h
  split at h
  · rename_i word hs
    exact ⟨_, h, by rw [← String.toList_inj, hs]; simp⟩
  · cases h

theorem lifetime_of_isLifetime (h : isLifetime s = true) : Rustdoc.lifetime s = s := by
  obtain ⟨word, -, rfl⟩ := exists_of_isLifetime h
  rw [Rustdoc.lifetime, if_pos (by simp [Text.startsWith])]

end

namespace Reader

variable {α : Type}

/-- What follows a sign. -/
def sign (s : String) (cs : List Char) : Option (List Char) := Text.after? s.toList cs

/-- A name, with the colons in it. -/
def name : Reader String := fun cs =>
  if (cs.takeWhile isNameChar).isEmpty then none
  else some (String.ofList (cs.takeWhile isNameChar), cs.dropWhile isNameChar)

/-- A lifetime with its apostrophe. -/
def lifetime : Reader String := fun cs => do
  let cs ← sign "'" cs
  let (word, cs) ← name cs
  return ("'" ++ word, cs)

/-- As many further parts as there are, at most a given number, each after a separator. -/
def moreWithin (sep : String) (item : Reader α) : Nat → List Char → List α × List Char
  | 0, cs => ([], cs)
  | n + 1, cs =>
    match (sign sep cs).bind item with
    | none => ([], cs)
    | some (a, cs) =>
      let further := moreWithin sep item n cs
      (a :: further.1, further.2)

/-- As many further parts as there are, each after a separator. -/
def more (sep : String) (item : Reader α) (cs : List Char) : List α × List Char :=
  moreWithin sep item cs.length cs

/-- Parts with commas between them and a sign after the last one. -/
def listed (item : Reader α) (close : String) : Reader (List α) := fun cs =>
  match item cs with
  | none => return ([], ← sign close cs)
  | some (a, cs) =>
    let further := more ", " item cs
    return (a :: further.1, ← sign close further.2)

/-- What is between parentheses, after the first of them: the parts of a tuple, or one type alone
that is grouped. -/
def parens (type : Reader Ty) : Reader Ty := fun cs =>
  match type cs with
  | none => return (.tuple [], ← sign ")" cs)
  | some (t, cs) =>
    match sign ")" cs with
    | some cs => some (t, cs)
    | none =>
      match sign ",)" cs with
      | some cs => some (.tuple [t], cs)
      | none =>
        let further := more ", " type cs
        return (.tuple (t :: further.1), ← sign ")" further.2)

/-- A slice or an array, after the bracket. -/
def brackets (type : Reader Ty) : Reader Ty := fun cs => do
  let (t, cs) ← type cs
  match sign "]" cs with
  | some cs => return (.slice t, cs)
  | none =>
    let (len, cs) ← name (← sign "; " cs)
    return (.array t len, ← sign "]" cs)

/-- A pointer, after the asterisk. -/
def pointer (target : Reader Ty) : Reader Ty := fun cs =>
  match sign "mut " cs with
  | some cs => (target cs).map fun m => (.pointer true m.1, m.2)
  | none => (sign "const " cs).bind fun cs => (target cs).map fun m => (.pointer false m.1, m.2)

/-- What follows the lifetime of a reference. -/
def referenceTo (life : Option String) (target : Reader Ty) : Reader Ty := fun cs =>
  match sign "mut " cs with
  | some cs => (target cs).map fun m => (.reference life true m.1, m.2)
  | none => (target cs).map fun m => (.reference life false m.1, m.2)

/-- A reference, after the ampersand. -/
def reference (target : Reader Ty) : Reader Ty := fun cs =>
  match lifetime cs with
  | some (life, cs) => (sign " " cs).bind (referenceTo (some life) target)
  | none => referenceTo none target cs

/-- A generic argument. -/
def arg (type : Reader Ty) : Reader Arg := fun cs =>
  match type cs with
  | some (t, cs) => some (.type t, cs)
  | none => (lifetime cs).map fun m => (.lifetime m.1, m.2)

/-- The generic arguments of a path, if it has any. -/
def args (type : Reader Ty) : Reader Args := fun cs =>
  match sign "<" cs with
  | none => some (.none, cs)
  | some cs => (listed (arg type) ">" cs).map fun m => (.angle m.1 [], m.2)

/-- A trait. -/
def trait (type : Reader Ty) : Reader Bound := fun cs => do
  let (word, cs) ← name cs
  let (args, cs) ← args type cs
  return (.trait [] .plain word args, cs)

/-- What follows the traits of a trait object. -/
def traitObject (traits : List Bound) : Reader Ty := fun cs =>
  match (sign " + " cs).bind lifetime with
  | some (life, cs) => some (.dyn traits (some life), cs)
  | none => some (.dyn traits none, cs)

/-- A trait object, after its keyword; one bound only unless it may have `many`. -/
def dyn (type : Reader Ty) (many : Bool) : Reader Ty := fun cs => do
  let (first, cs) ← trait type cs
  if many then
    let further := more " + " (trait type) cs
    traitObject (first :: further.1) further.2
  else return (.dyn [first] none, cs)

/-- A function, after the first parenthesis. -/
def function (type : Reader Ty) : Reader Ty := fun cs => do
  let (inputs, cs) ← listed type ")" cs
  match sign " -> " cs with
  | some cs =>
    let (output, cs) ← type cs
    return (.function [] {} (inputs.map .unnamed) false (some output), cs)
  | none => return (.function [] {} (inputs.map .unnamed) false none, cs)

/-- A path, or a name alone. -/
def path (word : String) (type : Reader Ty) : Reader Ty := fun cs => do
  match ← args type cs with
  | (.none, cs) => return (.primitive word, cs)
  | (args, cs) => return (.path word args, cs)

/-- A type that begins with a name or a keyword. -/
def named (type : Reader Ty) (many : Bool) : Reader Ty := fun cs => do
  let (word, cs) ← name cs
  match sign " " cs with
  | some cs => if word = "dyn" then dyn type many cs else none
  | none =>
    match sign "(" cs with
    | some cs => if word = "fn" then function type cs else none
    | none => path word type cs

/-- A type, by a reader for the types inside it; a trait object has one bound only unless it may
have `many`. -/
def type (inside : Bool → Reader Ty) (many : Bool) : Reader Ty
  | '(' :: cs => parens (inside true) cs
  | '[' :: cs => brackets (inside true) cs
  | '*' :: cs => pointer (inside false) cs
  | '&' :: cs => reference (inside false) cs
  | cs => named (inside true) many cs

/-- A type that is nested less deep than a bound. -/
def typeWithin : Nat → Bool → Reader Ty
  | 0, _ => fun _ => none
  | n + 1, many => type (typeWithin n) many

end Reader

/-- The type that a text spells, if it spells one of the kinds that are read. -/
def Ty.ofText? (s : String) : Option Ty :=
  match Reader.typeWithin (s.length + 1) true s.toList with
  | some (t, []) => some t
  | _ => none

namespace Reader

variable {α : Type} {rest cs : List Char} {ends s t sep : String} {item : Reader α} {c : Char}

/-! ## Signs -/

/-- What follows begins with one of these characters, if there is anything. -/
def Follows (ends : String) (rest : List Char) : Prop := ∀ c, rest.head? = some c → c ∈ ends.toList

/-- The reader takes the text from the front of whatever may follow it. -/
def Reads (ends : String) (r : Reader α) (s : String) (a : α) : Prop :=
  ∀ rest, Follows ends rest → r (s.toList ++ rest) = some (a, rest)

/-- The text begins with one of these characters. -/
def beginsWith (ends s : String) : Bool := s.toList.head?.any (ends.toList.contains ·)

/-- The text begins with another character than these. -/
def beginsWithout (ends s : String) : Bool := s.toList.head?.any (!ends.toList.contains ·)

/-- The two texts begin with different characters. -/
def beginDifferently (s t : String) : Bool :=
  s.toList.head?.any fun c => t.toList.head?.any (c != ·)

theorem follows_nil (ends : String) : Follows ends [] := by
  intro c h
  cases h

theorem follows_append (h : beginsWith ends s = true) (rest : List Char) :
    Follows ends (s.toList ++ rest) := by
  intro c hc
  rw [beginsWith] at h
  cases hs : s.toList with
  | nil => simp [hs] at h
  | cons d cs =>
    rw [hs] at h hc
    obtain rfl := Option.some.inj hc
    simpa using h

theorem sign_append (s : String) (rest : List Char) : sign s (s.toList ++ rest) = some rest :=
  Text.after?_append _ _

/-- A sign is not there when what follows begins differently. -/
theorem sign_eq_none (hs : beginsWithout ends s = true) (h : Follows ends rest) :
    sign s rest = none := by
  rw [sign]
  rw [beginsWithout] at hs
  cases hcs : s.toList with
  | nil => simp [hcs] at hs
  | cons c p =>
    cases rest with
    | nil => rfl
    | cons d rest =>
      have hd : c ≠ d := by
        rintro rfl
        simp [hcs, h c rfl] at hs
      rw [Text.after?, if_neg hd]

/-- A sign is not there when another one that begins differently is. -/
theorem sign_append_eq_none (h : beginDifferently s t = true) (rest : List Char) :
    sign s (t.toList ++ rest) = none := by
  rw [sign]
  rw [beginDifferently] at h
  cases hs : s.toList with
  | nil => simp [hs] at h
  | cons c p =>
    cases ht : t.toList with
    | nil => simp [hs, ht] at h
    | cons d q =>
      have hd : c ≠ d := by simpa [hs, ht] using h
      rw [List.cons_append, Text.after?, if_neg hd]

/-! ## Names -/

/-- None of the characters is one of a name. -/
def areSigns (ends : String) : Bool := ends.toList.all (!isNameChar ·)

/-- The text begins with a character that is not one of a name. -/
def beginsWithSign (s : String) : Bool := s.toList.head?.any (!isNameChar ·)

theorem takeWhile_of_follows (hends : areSigns ends = true) (h : Follows ends rest) :
    rest.takeWhile isNameChar = [] := by
  cases rest with
  | nil => rfl
  | cons c rest =>
    have hc := List.all_eq_true.1 hends c (h c rfl)
    rw [List.takeWhile_cons_of_neg (by simpa using hc)]

theorem takeWhile_of_beginsWithSign (h : beginsWithSign s = true) (rest : List Char) :
    (s.toList ++ rest).takeWhile isNameChar = [] := by
  rw [beginsWithSign] at h
  cases hs : s.toList with
  | nil => simp [hs] at h
  | cons c cs =>
    have hc : isNameChar c = false := by simpa [hs] using h
    rw [List.cons_append, List.takeWhile_cons_of_neg (by simp [hc])]

/-- A name is as long as its characters go. -/
theorem name_of_takeWhile (hs : isTypeName s = true) (h : rest.takeWhile isNameChar = []) :
    name (s.toList ++ rest) = some (s, rest) := by
  have htake : (s.toList ++ rest).takeWhile isNameChar = s.toList := by
    rw [List.takeWhile_append_of_pos fun c hc => isNameChar_of_mem hs hc, h, List.append_nil]
  have hdrop : (s.toList ++ rest).dropWhile isNameChar = rest := by
    have h := List.takeWhile_append_dropWhile (p := isNameChar) (l := s.toList ++ rest)
    rw [htake] at h
    exact List.append_cancel_left h
  rw [name, htake, hdrop, if_neg (by simpa using ne_nil_of_isTypeName hs), String.ofList_toList]

theorem reads_name (hends : areSigns ends = true) (hs : isTypeName s = true) :
    Reads ends name s s :=
  fun _ hrest => name_of_takeWhile hs (takeWhile_of_follows hends hrest)

/-- A name ends where a sign stands. -/
theorem name_append (hs : isTypeName s = true) (ht : beginsWithSign t = true) (rest : List Char) :
    name (s.toList ++ (t.toList ++ rest)) = some (s, t.toList ++ rest) :=
  name_of_takeWhile hs (takeWhile_of_beginsWithSign ht rest)

theorem name_cons (h : isNameChar c = false) (cs : List Char) : name (c :: cs) = none := by
  rw [name, List.takeWhile_cons_of_neg (by simp [h])]
  rfl

theorem lifetime_of_takeWhile (hs : isLifetime s = true) (h : rest.takeWhile isNameChar = []) :
    lifetime (s.toList ++ rest) = some (s, rest) := by
  obtain ⟨word, hword, rfl⟩ := exists_of_isLifetime hs
  rw [lifetime, String.toList_append, List.append_assoc, sign_append]
  simp [name_of_takeWhile hword h]

theorem reads_lifetime (hends : areSigns ends = true) (hs : isLifetime s = true) :
    Reads ends lifetime s s :=
  fun _ hrest => lifetime_of_takeWhile hs (takeWhile_of_follows hends hrest)

/-- A lifetime ends where a sign stands. -/
theorem lifetime_append (hs : isLifetime s = true) (ht : beginsWithSign t = true)
    (rest : List Char) : lifetime (s.toList ++ (t.toList ++ rest)) = some (s, t.toList ++ rest) :=
  lifetime_of_takeWhile hs (takeWhile_of_beginsWithSign ht rest)

theorem lifetime_eq_none (h : sign "'" cs = none) : lifetime cs = none := by
  rw [lifetime, h]
  rfl

theorem lifetime_cons (h : c ≠ '\'') (cs : List Char) : lifetime (c :: cs) = none := by
  refine lifetime_eq_none ?_
  change (if '\'' = c then _ else none) = none
  rw [if_neg (Ne.symm h)]

/-! ## Lists -/

variable {written : α → String} {l : List α} {a : α}

/-- What stands behind a part may follow it. -/
theorem follows_join (hsep : beginsWith ends sep = true) (hrest : Follows ends rest) :
    Follows ends ((String.join (l.map fun a => sep ++ written a)).toList ++ rest) := by
  cases l with
  | nil => simpa using hrest
  | cons a l =>
    rw [List.map_cons, String.join_cons, String.toList_append, String.toList_append,
      List.append_assoc, List.append_assoc]
    exact follows_append hsep _

theorem moreWithin_append {n : Nat} (hn : l.length ≤ n) (hsep : beginsWith ends sep = true)
    (hl : ∀ a ∈ l, Reads ends item (written a) a) (hrest : Follows ends rest)
    (hstop : (sign sep rest).bind item = none) :
    moreWithin sep item n ((String.join (l.map fun a => sep ++ written a)).toList ++ rest) =
      (l, rest) := by
  induction l generalizing n with
  | nil =>
    cases n with
    | zero => simp [moreWithin]
    | succ n => simp [moreWithin, hstop]
  | cons a l ih =>
    obtain ⟨ha, hl⟩ := List.forall_mem_cons.1 hl
    cases n with
    | zero => simp at hn
    | succ n =>
      rw [List.map_cons, String.join_cons, String.toList_append, String.toList_append,
        List.append_assoc, List.append_assoc, moreWithin, sign_append, Option.bind_some,
        ha _ (follows_join hsep hrest)]
      dsimp only
      rw [ih (Nat.le_of_succ_le_succ hn) hl]

theorem length_le_join (hsep : beginsWith ends sep = true) (l : List α) :
    l.length ≤ (String.join (l.map fun a => sep ++ written a)).toList.length := by
  have hpos : 1 ≤ sep.toList.length := by
    rw [beginsWith] at hsep
    cases hs : sep.toList with
    | nil => simp [hs] at hsep
    | cons c cs => simp
  induction l with
  | nil => exact Nat.zero_le _
  | cons a l ih =>
    rw [List.map_cons, String.join_cons, String.toList_append, String.toList_append,
      List.length_append, List.length_append, List.length_cons]
    omega

/-- Parts after separators are read, up to what is no further part. -/
theorem more_append (hsep : beginsWith ends sep = true)
    (hl : ∀ a ∈ l, Reads ends item (written a) a) (hrest : Follows ends rest)
    (hstop : (sign sep rest).bind item = none) :
    more sep item ((String.join (l.map fun a => sep ++ written a)).toList ++ rest) = (l, rest) := by
  refine moreWithin_append ?_ hsep hl hrest hstop
  rw [List.length_append]
  exact (length_le_join hsep l).trans (Nat.le_add_right _ _)

theorem intercalate_map_cons (sep : String) (written : α → String) (a : α) (l : List α) :
    sep.intercalate ((a :: l).map written) =
      written a ++ String.join (l.map fun a => sep ++ written a) := by
  rw [List.map_cons, Text.intercalate_cons, List.map_map]
  rfl

/-- Parts between commas are read up to a sign. -/
theorem listed_append {close : String} (hcomma : beginsWith ends ", " = true)
    (hclose : beginsWith ends close = true) (hl : ∀ a ∈ l, Reads ends item (written a) a)
    (hempty : ∀ rest, item (close.toList ++ rest) = none)
    (hstop : ∀ rest, sign ", " (close.toList ++ rest) = none) (rest : List Char) :
    listed item close ((commas (l.map written) ++ close).toList ++ rest) = some (l, rest) := by
  rw [String.toList_append, List.append_assoc]
  cases l with
  | nil =>
    have htext : (commas (([] : List α).map written)).toList = [] := rfl
    rw [htext, List.nil_append, listed, hempty, sign_append]
    rfl
  | cons a l =>
    obtain ⟨ha, hl⟩ := List.forall_mem_cons.1 hl
    have hrest := follows_append hclose rest
    have hmore : (sign ", " (close.toList ++ rest)).bind item = none := by rw [hstop]; rfl
    rw [commas, intercalate_map_cons, String.toList_append, List.append_assoc, listed,
      ha _ (follows_join hcomma hrest)]
    simp only [more_append hcomma hl hrest hmore, sign_append]
    rfl

end Reader

end CrateBook.Rustdoc
