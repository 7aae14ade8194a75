import CrateBook.Json.Access
import CrateBook.Rustdoc.Ty.Basic
import CrateBook.Text.Pieces

/-!
# Types as text

Types are written in the syntax of Rust. A substitution puts a text in the place of a generic
parameter wherever a type is written; what a `for` binds is written without it. A target of a
pointer or reference stands between parentheses when it has more than one bound.
-/

namespace CrateBook.Rustdoc

/-- Texts that take the place of generic parameters. -/
abbrev Subst := List (String × String)

/-- A lifetime with one apostrophe. -/
def lifetime (name : String) : String :=
  if Text.startsWith name "'" then name else "'" ++ name

/-- The last name of a path. -/
def shortName (path : String) : String :=
  String.ofList (Text.cutAt [':', ':'] path.toList.reverse).1.reverse

/-- A type with an apostrophe-marked lifetime before it, if there is one. -/
def lifetimeBefore (life : Option String) : String :=
  match life with
  | none => ""
  | some l => lifetime l ++ " "

namespace Header

/-- The qualifiers, each with a space after it. -/
def text (h : Header) : String :=
  (if h.isConst then "const " else "") ++ (if h.isAsync then "async " else "") ++
    (if h.isUnsafe then "unsafe " else "") ++
    match h.abi with
    | none => ""
    | some abi => "extern \"" ++ abi ++ "\" "

end Header

/-- What stands before the trait of a bound. -/
def Modifier.text : Modifier → String
  | .plain => ""
  | .maybe => "?"
  | .maybeConst => "~const "

/-- Parts one after another, a comma between them. -/
def commas (parts : List String) : String := ", ".intercalate parts

/-- Parts between angle brackets, nothing when there are none. -/
def angled (parts : List String) : String :=
  if parts.isEmpty then "" else "<" ++ commas parts ++ ">"

/-- Parts between parentheses; one part alone has a comma after it. -/
def tupled : List String → String
  | [part] => "(" ++ part ++ ",)"
  | parts => "(" ++ commas parts ++ ")"

/-- The parameters that a `for` binds, nothing when there are none. -/
def bound (params : List String) : String :=
  if params.isEmpty then "" else "for<" ++ commas params ++ "> "

/-- A name with bounds after a colon, if there are any. -/
def withBounds (name : String) (bounds : List String) : String :=
  if bounds.isEmpty then name else name ++ ": " ++ " + ".intercalate bounds

/-- A text between parentheses if they are called for. -/
def grouped (isGrouped : Bool) (s : String) : String :=
  if isGrouped then "(" ++ s ++ ")" else s

/-- The output of a function after an arrow. -/
def arrow : Option String → String
  | none => ""
  | some t => " -> " ++ t

mutual

/-- A type as text. -/
def Ty.text (subst : Subst) : Ty → String
  | .unit => "()"
  | .infer => "_"
  | .written s => s
  | .raw v => v.display
  | .path name args => name ++ args.text subst
  | .generic name => (subst.lookup name).getD name
  | .primitive name => name
  | .tuple items => tupled (tyTexts subst items)
  | .slice item => "[" ++ item.text subst ++ "]"
  | .array item len => "[" ++ item.text subst ++ "; " ++ len ++ "]"
  | .pattern t => t.text subst
  | .regrouped t => t.text subst
  | .pointer isMut target =>
    "*" ++ (if isMut then "mut" else "const") ++ " " ++
      grouped target.isGrouped (target.text subst)
  | .reference life isMut target =>
    "&" ++ lifetimeBefore life ++ (if isMut then "mut " else "") ++
      grouped target.isGrouped (target.text subst)
  | .function binder header inputs variadic output =>
    bound (paramTexts [] binder) ++ header.text ++ "fn(" ++
      commas (inputTexts subst inputs ++ if variadic then ["..."] else []) ++ ")" ++
      arrow (outputText subst output)
  | .dyn traits life =>
    "dyn " ++ " + ".intercalate (boundTexts subst traits ++ life.toList.map lifetime)
  | .impl bounds => "impl " ++ " + ".intercalate (boundTexts subst bounds)
  | .qualified self name args none => self.text subst ++ "::" ++ name ++ args.text subst
  | .qualified self name args (some trait) =>
    "<" ++ self.text subst ++ " as " ++ trait.text subst ++ ">::" ++ name ++ args.text subst
  | .other kind => kind

/-- Types as texts. -/
def tyTexts (subst : Subst) : List Ty → List String
  | [] => []
  | t :: ts => t.text subst :: tyTexts subst ts

/-- The output of a function, if it has one. -/
def outputText (subst : Subst) : Option Ty → Option String
  | none => none
  | some t => some (t.text subst)

/-- Generic arguments as text. -/
def Args.text (subst : Subst) : Args → String
  | .none => ""
  | .anything => "(..)"
  | .angle args constraints => angled (argTexts subst args ++ constraintTexts subst constraints)
  | .paren inputs output =>
    "(" ++ commas (tyTexts subst inputs) ++ ")" ++ arrow (outputText subst output)

/-- A generic argument as text. -/
def Arg.text (subst : Subst) : Arg → String
  | .infer => "_"
  | .lifetime name => Rustdoc.lifetime name
  | .type t => t.text subst
  | .const value => value

/-- Generic arguments as texts. -/
def argTexts (subst : Subst) : List Arg → List String
  | [] => []
  | a :: as => a.text subst :: argTexts subst as

/-- A constraint as text. -/
def Constraint.text (subst : Subst) : Constraint → String
  | .mention name args => name ++ args.text subst
  | .equal name args term => name ++ args.text subst ++ " = " ++ term.text subst
  | .bounded name args bounds =>
    name ++ args.text subst ++ ": " ++ " + ".intercalate (boundTexts subst bounds)

/-- Constraints as texts. -/
def constraintTexts (subst : Subst) : List Constraint → List String
  | [] => []
  | c :: cs => c.text subst :: constraintTexts subst cs

/-- A path to a trait as text. -/
def TraitPath.text (subst : Subst) : TraitPath → String
  | .mk name args => name ++ args.text subst

/-- A bound as text. -/
def Bound.text (subst : Subst) : Bound → String
  | .trait binder modifier name args =>
    Rustdoc.bound (paramTexts [] binder) ++ modifier.text ++ name ++ args.text subst
  | .outlives life => Rustdoc.lifetime life
  | .captures names => "use<" ++ commas names ++ ">"
  | .unknown => "?"

/-- Bounds as texts. -/
def boundTexts (subst : Subst) : List Bound → List String
  | [] => []
  | b :: bs => b.text subst :: boundTexts subst bs

/-- A declared parameter as text. -/
def GenericParam.text (subst : Subst) : GenericParam → String
  | .lifetime name outlives =>
    withBounds (Rustdoc.lifetime name) (outlives.map Rustdoc.lifetime)
  | .const name type => "const " ++ name ++ ": " ++ type.text subst
  | .type name bounds => withBounds name (boundTexts subst bounds)

/-- Declared parameters as texts. -/
def paramTexts (subst : Subst) : List GenericParam → List String
  | [] => []
  | p :: ps => p.text subst :: paramTexts subst ps

/-- An input as text. -/
def Input.text (subst : Subst) : Input → String
  | .self => "self"
  | .selfRef life isMut => "&" ++ lifetimeBefore life ++ (if isMut then "mut " else "") ++ "self"
  | .selfAs type => "self: " ++ type.text subst
  | .named name type => name ++ ": " ++ type.text subst
  | .unnamed type => type.text subst

/-- Inputs as texts. -/
def inputTexts (subst : Subst) : List Input → List String
  | [] => []
  | i :: is => i.text subst :: inputTexts subst is

end

/-- Bounds as text, a plus sign between them. -/
def boundsText (subst : Subst) (bounds : List Bound) : String :=
  " + ".intercalate (boundTexts subst bounds)

namespace WherePredicate

/-- A predicate as text. -/
def text (subst : Subst) : WherePredicate → String
  | .bounded binder type bounds =>
    Rustdoc.bound (paramTexts [] binder) ++ type.text subst ++ ": " ++ boundsText subst bounds
  | .outlives life others =>
    lifetime life ++ ": " ++ " + ".intercalate (others.map lifetime)
  | .equal type term => type.text subst ++ " = " ++ term.text subst

end WherePredicate

/-- The predicates after the word `where`, nothing when there are none. -/
def whereText (subst : Subst) (predicates : List WherePredicate) : String :=
  if predicates.isEmpty then ""
  else " where " ++ commas (predicates.map (·.text subst))

end CrateBook.Rustdoc
