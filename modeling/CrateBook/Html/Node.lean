import CrateBook.Text.Blank

/-!
# Document trees

A document is a list of nodes. Text inside the elements whose text stands apart from the running
text (scripts, styles, templates and ruby annotations) carries the name of that element; such text
counts only where that very element is asked for its text. Comments never count; character data
sections count as running text but are not rendered.
-/

namespace CrateBook.Html

/-- The value of an attribute: a text, or the words of an attribute that lists names. -/
inductive AttrValue where
  | text (s : String)
  | tokens (l : List String)
  deriving DecidableEq, Repr

/-- The value as one text, the words of a list one space apart. -/
def AttrValue.toText : AttrValue → String
  | .text s => s
  | .tokens l => " ".intercalate l

/-- A node of a document. -/
inductive Node where
  | text (home : Option String) (s : String)
  | comment (s : String)
  | cdata (s : String)
  | element (name : String) (attrs : List (String × AttrValue)) (children : List Node)
  deriving Inhabited

/-- An element of a document. -/
structure Element where
  name : String
  attrs : List (String × AttrValue)
  children : List Node

/-- The elements whose own text stands apart from the running text. -/
def apartElements : List String := ["script", "style", "template", "rt", "rp"]

/-- ASCII letters in lower case. -/
def asciiLower (s : String) : String := String.ofList (s.toList.map Char.toLower)

mutual

/-- The texts at a node that belong to `home`, in document order. -/
def Node.texts (home : Option String) : Node → List String
  | .text h s => if h = home then [s] else []
  | .comment _ => []
  | .cdata s => if home.isNone then [s] else []
  | .element _ _ children => textsOf home children

/-- The texts at a list of nodes that belong to `home`, in document order. -/
def textsOf (home : Option String) : List Node → List String
  | [] => []
  | n :: ns => n.texts home ++ textsOf home ns

end

mutual

/-- The elements at a node, each before the elements inside it. -/
def Node.elements : Node → List Element
  | .element name attrs children => ⟨name, attrs, children⟩ :: elementsOf children
  | _ => []

/-- The elements at a list of nodes, each before the elements inside it. -/
def elementsOf : List Node → List Element
  | [] => []
  | n :: ns => n.elements ++ elementsOf ns

end

/-- The text of an element: the text that stands apart where the element is home to such text, and
the running text otherwise. -/
def Element.text (e : Element) : String :=
  String.join (textsOf (if apartElements.contains e.name then some e.name else none) e.children)

/-- The running text of a document: its texts without blanks at their ends, the empty ones left
out, one space apart. -/
def runningText (doc : List Node) : String :=
  " ".intercalate (((textsOf none doc).map Text.trim).filter (· != ""))

/-- The value of an attribute. -/
def attr? (name : String) (attrs : List (String × AttrValue)) : Option AttrValue :=
  attrs.lookup name

end CrateBook.Html
