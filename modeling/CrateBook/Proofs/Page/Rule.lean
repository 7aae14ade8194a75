import CrateBook.Page.Markdown

/-!
# Which elements have which rule

The rules of the table that no other element has, and the text that a rule itself writes.
-/

namespace CrateBook.Page

open Html (Node Element AttrValue)

variable {name fixed : String}

/-- A rule of the table, or the rule of elements without one. -/
theorem ruleFor_cases (name : String) : (name, ruleFor name) ∈ rules ∨ ruleFor name = .plain := by
  rw [ruleFor]
  cases h : rules.lookup name with
  | none => exact .inr rfl
  | some r =>
    obtain ⟨before, after, hsplit, -⟩ := List.lookup_eq_some_iff.1 h
    rw [hsplit]
    exact .inl (List.mem_append_right _ List.mem_cons_self)

/-- What a rule itself writes around or in the place of the content. -/
def Rule.marks : Rule → String
  | .wrap before after _ => before ++ after
  | .fixed text => text
  | _ => ""

/-- What holds of every rule of the table and of the rule of other elements holds of the rule of
every element. -/
theorem forall_ruleFor {p : String → Rule → Prop} (hrules : ∀ r ∈ rules, p r.1 r.2)
    (hplain : ∀ name, p name .plain) (name : String) : p name (ruleFor name) := by
  rcases ruleFor_cases name with hmem | h
  · exact hrules _ hmem
  · rw [h]
    exact hplain name

theorem name_of_fixed (h : ruleFor name = .fixed fixed) : name = "br" ∨ name = "hr" := by
  have hnames := forall_ruleFor (p := fun name r => r = .fixed r.marks → name = "br" ∨ name = "hr")
    (by decide) (fun _ h => by cases h) name
  rw [h] at hnames
  exact hnames rfl

theorem name_of_definitions (h : ruleFor name = .definitions) : name = "dl" :=
  forall_ruleFor (p := fun name r => r = .definitions → name = "dl") (by decide)
    (fun _ h => by cases h) name h

theorem name_of_table (h : ruleFor name = .table) : name = "table" :=
  forall_ruleFor (p := fun name r => r = .table → name = "table") (by decide)
    (fun _ h => by cases h) name h

/-! ## Rows -/

/-- There are no rows where no element is one. -/
theorem tableRows_eq_nil (skip : SkipRules) : ∀ ns : List Node,
    (∀ e ∈ Html.elementsOf ns, e.name ≠ "tr") → tableRows skip ns = []
  | [], _ => rfl
  | .text _ _ :: ns, h => tableRows_eq_nil skip ns h
  | .comment _ :: ns, h => tableRows_eq_nil skip ns h
  | .cdata _ :: ns, h => tableRows_eq_nil skip ns h
  | .element name attrs inner :: ns, h => by
    rw [Html.elementsOf, Html.Node.elements, List.forall_mem_append, List.forall_mem_cons] at h
    have hname : (name == "tr") = false := beq_eq_false_iff_ne.2 h.1.1
    rw [tableRows, hname, tableRows_eq_nil skip inner h.1.2, tableRows_eq_nil skip ns h.2]
    rfl

end CrateBook.Page
