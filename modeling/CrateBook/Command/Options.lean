import CrateBook.Text.Pieces
import CrateBook.Text.Quoted

/-!
# Reading argument lists

A command takes options and one argument of its own. An option is given by one of its names, or by
a beginning of a long name that fits no other one; a long one may carry its value behind an equals
sign, and short ones without values may be written behind one dash. The first `--` ends the
options. What fits nowhere is set aside.

A command whose argument is `open` takes everything that follows it as well, options included.
-/

namespace CrateBook.Command

/-- An option: its names, whether it takes a value, the values that it takes if only some are
allowed, and whether nothing is read after it. -/
structure Opt where
  names : List String
  takesValue : Bool := false
  choices : List String := []
  isFinal : Bool := false
  deriving DecidableEq, Repr

/-- A command: its options, the name of its argument, and whether the argument is open. -/
structure Spec where
  options : List Opt
  argument : String
  isOpen : Bool := false

/-- A value that a word carries: behind an equals sign, or right behind a short name. -/
inductive Carried where
  | nothing
  | equals (value : String)
  | attached (value : String)
  deriving DecidableEq, Repr

/-- What a word of an argument list is: an argument, the end of the options, or an option under one
of its names with what it carries. An option that no command knows is `unknown`. -/
inductive Word where
  | argument
  | separator
  | option (o : Opt) (name : String) (value : Carried)
  | unknown
  deriving DecidableEq, Repr

/-- What is read from an argument list: the options in order with their values, the argument with
what follows it, and the words that fit nowhere. -/
structure Parsed where
  options : List (Opt × Option String) := []
  argument : Option (List String) := none
  extras : List String := []

/-- Nothing more is to be read. -/
def Parsed.isFinal (p : Parsed) : Bool := p.options.any (·.1.isFinal)

/-- What was read, or what is said about a list that is refused. -/
abbrev Reading := Except String

/-- All names of options with their options. -/
def Spec.names (s : Spec) : List (String × Opt) :=
  s.options.flatMap fun o => o.names.map fun n => (n, o)

/-- A text cut at its first equals sign. -/
def cutEquals (s : String) : String × Carried :=
  let (l, r) := Text.cutAt ['='] s.toList
  (String.ofList l, r.elim .nothing fun cs => .equals (String.ofList cs))

/-- A negative number. -/
def isNegativeNumber (s : String) : Bool :=
  match s.toList with
  | '-' :: cs =>
    let (whole, rest) := cs.span Char.isDigit
    match rest with
    | [] => !whole.isEmpty
    | '.' :: ds => !ds.isEmpty && ds.all Char.isDigit
    | _ => false
  | _ => false

/-- The options that a word may mean, each under a name and with what the word carries. -/
def Spec.candidates (s : Spec) (word : String) : List (Opt × String × Carried) :=
  if Text.startsWith word "--" then
    let (start, value) := cutEquals word
    (s.names.filter fun n => Text.startsWith n.1 start).map fun n => (n.2, n.1, value)
  else
    s.names.filterMap fun (name, o) =>
      if name == Text.take word 2 then some (o, name, .attached (Text.drop word 2))
      else if Text.startsWith name word then some (o, name, .nothing)
      else none

/-- What a word is. -/
def Spec.classify (s : Spec) (word : String) : Reading Word :=
  let exact (name : String) : Option Opt := s.names.lookup name
  let (start, value) := cutEquals word
  if !Text.startsWith word "-" || word == "-" then return .argument
  else if let some o := exact word then return .option o word .nothing
  else if let (some o, true) := (exact start, value != .nothing) then return .option o start value
  else match s.candidates word with
    | [(o, name, value)] => return .option o name value
    | [] =>
      if isNegativeNumber word || Text.contains word " " then return .argument
      else return .unknown
    | several => throw ("ambiguous option: " ++ word ++ " could match " ++
        ", ".intercalate (several.map (·.2.1)))

/-- What the words of a list are; after the end of the options all are arguments. -/
def Spec.classifyAll (s : Spec) : List String → Reading (List (String × Word))
  | [] => return []
  | word :: rest => do
    if word == "--" then return (word, .separator) :: rest.map fun w => (w, .argument)
    let w ← s.classify word
    return (word, w) :: (← s.classifyAll rest)

/-- What is said about an option. -/
def aboutOption (o : Opt) (what : String) : String :=
  "argument " ++ "/".intercalate o.names ++ ": " ++ what

/-- Values between quotes. -/
def quotedChoices (choices : List String) : String :=
  ", ".intercalate (choices.map Text.quotedName)

/-- What is said about a value that is not allowed. -/
def invalidChoice (value : String) (choices : List String) : String :=
  "invalid choice: " ++ Text.quotedName value ++ " (choose from " ++ quotedChoices choices ++ ")"

/-- The option with a value, which must be allowed. -/
def Opt.withValue (o : Opt) (value : String) : Reading (Opt × Option String) :=
  if o.choices.isEmpty || o.choices.contains value then return (o, some value)
  else throw (aboutOption o (invalidChoice value o.choices))

/-- Options with their values, and the words that fit nowhere. -/
abbrev Taken := List (Opt × Option String) × List String

/-- The options that short names behind one dash stand for. The rest of the word behind an option
that takes a value is its value; behind an option that takes none it goes on with another short
name. What goes on with no name of an option is set aside behind a dash of its own. -/
def Spec.bundle (s : Spec) (o : Opt) (name : String) (isEquals : Bool) (value : String) :
    Nat → Reading Taken
  | 0 => return ([], [])
  | fuel + 1 =>
    if o.takesValue then return ([← o.withValue value], [])
    else if Text.startsWith name "--" || value == "" || isEquals || Text.startsWith value "-" then
      throw (aboutOption o ("ignored explicit argument " ++ Text.quotedName value))
    else
      let next := "-" ++ Text.take value 1
      let rest := Text.drop value 1
      match s.names.lookup next with
      | none => return ([(o, none)], ["-" ++ value])
      | some p =>
        if rest == "" then
          if p.takesValue then throw (aboutOption p "expected one argument")
          else return ([(o, none), (p, none)], [])
        else do
          let isEquals := Text.startsWith rest "="
          let (more, extras) ←
            s.bundle p next isEquals (if isEquals then Text.drop rest 1 else rest) fuel
          return ((o, none) :: more, extras)

/-- The words that belong to the argument of a command, from the start of a list; none when no
argument starts there. -/
def argumentSize (isOpen : Bool) : List (String × Word) → Nat
  | (_, .argument) :: rest =>
    if isOpen then rest.length + 1
    else match rest with
      | (_, .separator) :: _ => 2
      | _ => 1
  | (_, .separator) :: (_, .argument) :: rest => if isOpen then rest.length + 2 else 2
  | _ => 0

/-- The words of an argument; the end of the options is not one of them unless the argument is
open. -/
def argumentWords (isOpen : Bool) (words : List String) : List String :=
  if isOpen then words else words.erase "--"

/-- The options that a word stands for, which may take its value from the word after it; and the
words behind them. -/
def Spec.readOption (s : Spec) (o : Opt) (name : String) (value : Carried)
    (rest : List (String × Word)) : Reading (Taken × List (String × Word)) := do
  match value with
  | .equals value => return (← s.bundle o name true value 1, rest)
  | .attached value => return (← s.bundle o name false value (value.length + 1), rest)
  | .nothing =>
    if !o.takesValue then return (([(o, none)], []), rest)
    match rest with
    | (value, .argument) :: rest => return (([← o.withValue value], []), rest)
    | _ => throw (aboutOption o "expected one argument")

/-- Reads words after what was read before. -/
def Spec.readFrom (s : Spec) : Nat → Parsed → List (String × Word) → Reading Parsed
  | 0, p, _ => return p
  | _ + 1, p, [] => return p
  | fuel + 1, p, (word, .unknown) :: rest =>
    s.readFrom fuel { p with extras := p.extras ++ [word] } rest
  | fuel + 1, p, (_, .option o name value) :: rest => do
    let ((options, extras), rest) ← s.readOption o name value rest
    let p := { p with options := p.options ++ options, extras := p.extras ++ extras }
    if p.isFinal then return p
    s.readFrom fuel p rest
  | fuel + 1, p, words =>
    let size := if p.argument.isSome then 0 else argumentSize s.isOpen words
    if size = 0 then
      let skipped := words.takeWhile fun w => w.2 = .argument || w.2 = .separator
      s.readFrom fuel { p with extras := p.extras ++ skipped.map (·.1) } (words.drop skipped.length)
    else
      let taken := argumentWords s.isOpen ((words.take size).map (·.1))
      s.readFrom fuel { p with argument := some taken } (words.drop size)

/-- Reads an argument list; its argument must be there, unless an option ends the list. -/
def Spec.read (s : Spec) (words : List String) : Reading Parsed := do
  let classified ← s.classifyAll words
  let p ← s.readFrom (words.length + 1) {} classified
  if p.argument.isNone && !p.isFinal then
    throw ("the following arguments are required: " ++ s.argument)
  return p

end CrateBook.Command
