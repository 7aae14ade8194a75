/-!
# How elements nest

Pages leave out tags. A start tag ends the innermost open element for as long as the pair is in
the table below; an end tag ends all elements up to the nearest of its name unless an element of
higher rank stands in between.
-/

namespace CrateBook.Html

/-- Elements that never have content. -/
def voidElements : List String :=
  ["area", "base", "br", "col", "hr", "img", "input", "link", "meta", "param"]

/-- The start tags that end an open head. -/
def headEnds : List String := [
  "a", "abbr", "acronym", "address", "b", "bdo", "big", "blockquote", "body", "br", "center",
  "cite", "code", "dd", "dfn", "dir", "div", "dl", "dt", "em", "fieldset", "font", "form",
  "frameset", "h1", "h2", "h3", "h4", "h5", "h6", "hr", "i", "iframe", "img", "kbd", "li",
  "listing", "map", "menu", "ol", "p", "pre", "q", "s", "samp", "small", "span", "strike",
  "strong", "sub", "sup", "table", "tt", "u", "ul", "var", "xmp"]

/-- The start tags that end an open paragraph. -/
def paragraphEnds : List String := [
  "blockquote", "body", "caption", "dd", "div", "dl", "dt", "h1", "h2", "h3", "h4", "h5", "h6",
  "head", "hr", "li", "ol", "p", "pre", "table", "tbody", "td", "th", "title", "tr", "ul"]

/-- The start tags that end each open element. -/
def startEnds : List (String × List String) := [
  ("head", headEnds),
  ("p", paragraphEnds),
  ("a", ["a", "table", "td", "th"]),
  ("b", ["p", "td", "th"]), ("i", ["p", "td", "th"]), ("u", ["p", "td", "th"]),
  ("small", ["p"]), ("tt", ["p"]),
  ("span", ["td", "th"]),
  ("h1", ["li", "p", "table"]), ("h2", ["li", "p", "table"]), ("h3", ["li", "p", "table"]),
  ("h4", ["li", "p", "table"]), ("h5", ["li", "p", "table"]), ("h6", ["li", "p", "table"]),
  ("pre", ["dd", "dl", "dt", "li", "table", "ul"]),
  ("ul", ["pre"]),
  ("li", ["li"]),
  ("dl", ["li"]),
  ("dt", ["dd", "dl"]),
  ("dd", ["dt"]),
  ("caption", ["tbody", "thead", "tr"]),
  ("thead", ["tbody"]), ("tbody", ["tbody"]),
  ("tr", ["tbody", "tr"]),
  ("td", ["tbody", "td", "th", "tr"]), ("th", ["tbody", "td", "th", "tr"]),
  ("option", ["option"]),
  ("link", ["body"]), ("style", ["body"]), ("title", ["body"])]

/-- The start of `new` ends the open element `current`. -/
def endsAtStart (current new : String) : Bool :=
  ((startEnds.lookup current).getD []).contains new

/-- The rank of an element among those that an end tag may close. -/
def rank (name : String) : Nat :=
  if name == "html" then 220
  else if name == "head" || name == "body" then 200
  else if name == "table" then 190
  else if name == "thead" || name == "tbody" || name == "tfoot" then 180
  else if name == "tr" then 170
  else if name == "td" || name == "th" then 160
  else if name == "div" then 150
  else 100

/-- The attributes whose value is a list of words, on every element. -/
def wordAttrs : List String := ["class", "accesskey", "dropzone"]

/-- The further attributes whose value is a list of words, by element. -/
def elementWordAttrs : List (String × List String) := [
  ("a", ["rel", "rev"]), ("link", ["rel", "rev"]), ("td", ["headers"]), ("th", ["headers"]),
  ("form", ["accept-charset"]), ("object", ["archive"]), ("area", ["rel"]), ("icon", ["sizes"]),
  ("iframe", ["sandbox"]), ("output", ["for"])]

/-- The value of an attribute of an element is a list of words. -/
def isWordAttr (element attr : String) : Bool :=
  wordAttrs.contains attr || ((elementWordAttrs.lookup element).getD []).contains attr

end CrateBook.Html
