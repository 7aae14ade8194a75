import CrateBook.Page.Markdown

/-!
# Pages that cannot be written

The class table may have an entry that is no text. Nothing is found out about it until a class
attribute is searched for it, so a page can be written as long as the tables are asked only about
elements of other kinds. The recursion is that of the page: it comes to the elements about which the
tables are asked, and to no others.
-/

namespace CrateBook.Page

open Html (Node)

mutual

/-- Writing a node comes to an element about which the tables cannot be asked. -/
def nodeStrays (skip : SkipRules) : Node → Bool
  | .text _ _ => false
  | .comment _ => false
  | .cdata _ => false
  | .element name attrs children =>
    skip.strays name attrs || !skip.skips name attrs && match ruleFor name with
      | .fixed _ => false
      | .list _ => itemsStray skip children
      | .definitions => definitionsStray skip children
      | .table => rowsStray skip children
      | .wrap _ _ _ | .code | .quote => childrenStray skip children

/-- Writing the nodes of an element comes to such an element. -/
def childrenStray (skip : SkipRules) : List Node → Bool
  | [] => false
  | n :: ns => nodeStrays skip n || childrenStray skip ns

/-- Writing a list comes to such an element. -/
def itemsStray (skip : SkipRules) : List Node → Bool
  | [] => false
  | .element "li" attrs children :: ns =>
    skip.strays "li" attrs || !skip.skips "li" attrs && childrenStray skip children ||
      itemsStray skip ns
  | n :: ns => nodeStrays skip n || itemsStray skip ns

/-- Writing a definition list comes to such an element. -/
def definitionsStray (skip : SkipRules) : List Node → Bool
  | [] => false
  | .element name attrs children :: ns =>
    (name == "dt" || name == "dd") &&
        (skip.strays name attrs || !skip.skips name attrs && childrenStray skip children) ||
      definitionsStray skip ns
  | _ :: ns => definitionsStray skip ns

/-- Writing a table comes to such an element, which stands in a cell. -/
def rowsStray (skip : SkipRules) : List Node → Bool
  | [] => false
  | .element name _ children :: ns =>
    name == "tr" && cellsStray skip children || rowsStray skip children || rowsStray skip ns
  | _ :: ns => rowsStray skip ns

/-- Writing a row comes to such an element. -/
def cellsStray (skip : SkipRules) : List Node → Bool
  | [] => false
  | .element name _ children :: ns =>
    (name == "th" || name == "td") && childrenStray skip children || cellsStray skip ns
  | _ :: ns => cellsStray skip ns

end

/-- Writing the main element of a page comes to an element about which the tables cannot be asked.
-/
def strays (skip : SkipRules) (doc : List Node) : Bool :=
  (mainElement? doc).any fun e => childrenStray skip e.children

end CrateBook.Page
