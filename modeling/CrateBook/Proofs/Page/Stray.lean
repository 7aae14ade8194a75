import CrateBook.Page.Stray

/-!
# Tables of texts

Where every entry of the class table is a text, the tables can be asked about every element, and
every page can be written (`strays_of_stray_eq_none`).
-/

namespace CrateBook.Page

open Html (Node)

variable {skip : SkipRules}

theorem SkipRules.strays_eq_false (h : skip.stray = none) (name : String)
    (attrs : List (String × Html.AttrValue)) : skip.strays name attrs = false := by
  simp [strays, straysAtClass, h]

mutual

theorem nodeStrays_eq_false (h : skip.stray = none) : ∀ n : Node, nodeStrays skip n = false
  | .text .. | .comment _ | .cdata _ => by rw [nodeStrays]
  | .element name attrs children => by
    rw [nodeStrays, SkipRules.strays_eq_false h]
    cases ruleFor name with
    | fixed text => exact Bool.and_false _
    | list ordered => simp only [itemsStray_eq_false h children, Bool.and_false, Bool.or_false]
    | definitions =>
      simp only [definitionsStray_eq_false h children, Bool.and_false, Bool.or_false]
    | table => simp only [rowsStray_eq_false h children, Bool.and_false, Bool.or_false]
    | wrap | code | quote =>
      simp only [childrenStray_eq_false h children, Bool.and_false, Bool.or_false]

theorem childrenStray_eq_false (h : skip.stray = none) :
    ∀ ns : List Node, childrenStray skip ns = false
  | [] => by rw [childrenStray]
  | n :: ns => by
    rw [childrenStray, nodeStrays_eq_false h n, childrenStray_eq_false h ns, Bool.or_false]

theorem itemsStray_eq_false (h : skip.stray = none) : ∀ ns : List Node, itemsStray skip ns = false
  | [] => by rw [itemsStray]
  | n :: ns => by
    have hn := nodeStrays_eq_false h n
    have hns := itemsStray_eq_false h ns
    cases n with
    | text | comment | cdata => simp [itemsStray, hn, hns]
    | element name attrs children =>
      have hchildren := childrenStray_eq_false h children
      by_cases hname : name = "li"
      · subst hname
        rw [itemsStray, SkipRules.strays_eq_false h, hchildren, hns, Bool.and_false, Bool.or_false,
          Bool.or_false]
      · simp [itemsStray, hname, hn, hns]

theorem definitionsStray_eq_false (h : skip.stray = none) :
    ∀ ns : List Node, definitionsStray skip ns = false
  | [] => by rw [definitionsStray]
  | .text .. :: ns | .comment _ :: ns | .cdata _ :: ns => by
    rw [definitionsStray, definitionsStray_eq_false h ns]
    simp
  | .element name attrs children :: ns => by
    simp only [definitionsStray, SkipRules.strays_eq_false h, childrenStray_eq_false h children,
      definitionsStray_eq_false h ns, Bool.and_false, Bool.or_false]

theorem rowsStray_eq_false (h : skip.stray = none) : ∀ ns : List Node, rowsStray skip ns = false
  | [] => by rw [rowsStray]
  | .text .. :: ns | .comment _ :: ns | .cdata _ :: ns => by
    rw [rowsStray, rowsStray_eq_false h ns]
    simp
  | .element name attrs children :: ns => by
    simp only [rowsStray, cellsStray_eq_false h children, rowsStray_eq_false h children,
      rowsStray_eq_false h ns, Bool.and_false, Bool.or_false]

theorem cellsStray_eq_false (h : skip.stray = none) : ∀ ns : List Node, cellsStray skip ns = false
  | [] => by rw [cellsStray]
  | .text .. :: ns | .comment _ :: ns | .cdata _ :: ns => by
    rw [cellsStray, cellsStray_eq_false h ns]
    simp
  | .element name attrs children :: ns => by
    simp only [cellsStray, childrenStray_eq_false h children, cellsStray_eq_false h ns,
      Bool.and_false, Bool.or_false]

end

/-- Tables of texts can be asked about everything in a page. -/
theorem strays_of_stray_eq_none (h : skip.stray = none) (doc : List Node) :
    strays skip doc = false := by
  rw [strays]
  cases mainElement? doc with
  | none => rfl
  | some e => exact childrenStray_eq_false h e.children

end CrateBook.Page
