import CrateBook.Rustdoc.Generics
import CrateBook.Rustdoc.Item

/-!
# Signatures of functions

The signature of a function is one line: its qualifiers, name, parameters, inputs, output and
predicates.
-/

namespace CrateBook.Rustdoc

/-- The inputs of a function between parentheses. -/
def inputsText (subst : Subst) (inputs : List Input) (variadic : Bool) : String :=
  "(" ++ commas (inputTexts subst inputs ++ if variadic then ["..."] else []) ++ ")"

/-- The part of an item that records a signature. -/
def Item.signature (item : Item) : Json :=
  ((item.part? "sig").getD (item.part "decl")).orObject

/-- The signature of a function, for readers to whom it has the given visibility. -/
def signatureText (subst : Subst) (visibility : Visibility) (item : Item) :
    Except Fault String := do
  let header ← readHeader (item.part "header")
  let params ← readParams (← listed "params" item.generics)
  let (inputs, variadic) ← readInputs true item.signature
  let output ← readOutput item.signature
  let predicates ← readPredicates item.generics
  return visibility.keyword ++ header.text ++ "fn " ++ item.displayName ++
    paramsText subst params ++ inputsText subst inputs variadic ++
    arrow (outputText subst output) ++ whereText subst predicates

end CrateBook.Rustdoc
