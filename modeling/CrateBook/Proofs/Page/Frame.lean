import CrateBook.Page.Markdown

/-!
# Places in a document

A frame is an element whose children are left open, among what stands beside it. Nodes put into a
path of frames make a document. Every element of a document stands in a path (`exists_fill_of_mem`),
and a document has a main element exactly when it is filled into a path that leads to one
(`mainElement?_eq_some_iff`).
-/

namespace CrateBook.Page

open Html (Node Element AttrValue)

/-- An element with its children left open, and what stands before and after it. -/
structure Frame where
  before : List Node
  name : String
  attrs : List (String × AttrValue)
  after : List Node

/-- The frame with children. -/
def Frame.fill (f : Frame) (ns : List Node) : List Node :=
  f.before ++ .element f.name f.attrs ns :: f.after

/-- The nodes inside a path of frames, the outermost frame first. -/
def fill (path : List Frame) (ns : List Node) : List Node := path.foldr Frame.fill ns

/-- No element is a main element. -/
def NoMain (ns : List Node) : Prop := ∀ e ∈ Html.elementsOf ns, Html.asciiLower e.name ≠ "main"

/-- The last frame of the path is a main element, and no main element starts before it. -/
inductive LeadsToMain : List Frame → Prop
  | main {f : Frame} : NoMain f.before → Html.asciiLower f.name = "main" → LeadsToMain [f]
  | inside {f : Frame} {path : List Frame} : NoMain f.before → Html.asciiLower f.name ≠ "main" →
    LeadsToMain path → LeadsToMain (f :: path)

variable {f : Frame} {path path' : List Frame} {n : Node} {ns before : List Node} {e : Element}
  {name : String} {attrs : List (String × AttrValue)}

@[simp] theorem fill_nil (ns : List Node) : fill [] ns = ns := rfl

@[simp] theorem fill_cons (f : Frame) (path : List Frame) (ns : List Node) :
    fill (f :: path) ns = f.fill (fill path ns) := rfl

theorem fill_append (path path' : List Frame) (ns : List Node) :
    fill (path ++ path') ns = fill path (fill path' ns) := List.foldr_append

theorem elementsOf_append (ns ns' : List Node) :
    Html.elementsOf (ns ++ ns') = Html.elementsOf ns ++ Html.elementsOf ns' := by
  induction ns with
  | nil => rfl
  | cons n ns ih => rw [List.cons_append, Html.elementsOf, Html.elementsOf, ih, List.append_assoc]

theorem elementsOf_cons_element (name : String) (attrs : List (String × AttrValue))
    (inner ns : List Node) : Html.elementsOf (.element name attrs inner :: ns) =
      ⟨name, attrs, inner⟩ :: (Html.elementsOf inner ++ Html.elementsOf ns) := rfl

theorem elementsOf_fill (f : Frame) (ns : List Node) : Html.elementsOf (f.fill ns) =
    Html.elementsOf f.before ++
      ⟨f.name, f.attrs, ns⟩ :: (Html.elementsOf ns ++ Html.elementsOf f.after) := by
  rw [Frame.fill, elementsOf_append, elementsOf_cons_element]

/-! ## The main element -/

theorem NoMain.find?_eq_none (h : NoMain ns) :
    (Html.elementsOf ns).find? (fun e => Html.asciiLower e.name == "main") = none :=
  List.find?_eq_none.2 fun e he => by simpa using h e he

theorem noMain_of_mainElement? (h : mainElement? ns = none) : NoMain ns := by
  intro e he
  simpa using List.find?_eq_none.1 h e he

/-- What is filled into a path that leads to a main element is what the main element holds. -/
theorem LeadsToMain.mainElement? (h : LeadsToMain path) :
    ∃ name attrs, ∀ ns, mainElement? (fill path ns) = some ⟨name, attrs, ns⟩ := by
  induction h with
  | @main f hbefore hname =>
    refine ⟨f.name, f.attrs, fun ns => ?_⟩
    rw [Page.mainElement?, fill_cons, fill_nil, elementsOf_fill, List.find?_append,
      hbefore.find?_eq_none, List.find?_cons_of_pos (by simpa using hname)]
    rfl
  | @inside f path hbefore hname _ ih =>
    obtain ⟨name, attrs, ih⟩ := ih
    refine ⟨name, attrs, fun ns => ?_⟩
    rw [Page.mainElement?, fill_cons, elementsOf_fill, List.find?_append, hbefore.find?_eq_none,
      List.find?_cons_of_neg (by simpa using hname), List.find?_append]
    have hinner := ih ns
    rw [Page.mainElement?] at hinner
    rw [hinner]
    rfl

theorem name_of_mainElement? {doc : List Node} (h : mainElement? doc = some e) :
    Html.asciiLower e.name = "main" := by
  have hmain := List.find?_some h
  exact eq_of_beq hmain

/-- A node without a main element may be put before a path. -/
theorem LeadsToMain.behind (h : LeadsToMain path) (hn : NoMain [n]) :
    ∃ path', LeadsToMain path' ∧ ∀ ns, fill path' ns = n :: fill path ns := by
  have hcons {before : List Node} (hbefore : NoMain before) : NoMain (n :: before) := by
    rw [← List.singleton_append, NoMain, elementsOf_append, List.forall_mem_append]
    exact ⟨hn, hbefore⟩
  cases h with
  | @main f hbefore hname =>
    exact ⟨[{ f with before := n :: f.before }], .main (hcons hbefore) hname, fun _ => rfl⟩
  | @inside f path hbefore hname hpath =>
    exact ⟨{ f with before := n :: f.before } :: path, .inside (hcons hbefore) hname hpath,
      fun _ => rfl⟩

/-- Every main element that is found stands in a path that leads to it. -/
theorem exists_leadsToMain : ∀ ns : List Node, mainElement? ns = some e →
    ∃ path, LeadsToMain path ∧ ns = fill path e.children
  | [], h => by cases h
  | n :: ns, h => by
    have hbehind (hn : NoMain [n]) (h : mainElement? ns = some e) :
        ∃ path, LeadsToMain path ∧ n :: ns = fill path e.children := by
      obtain ⟨path, hpath, hns⟩ := exists_leadsToMain ns h
      obtain ⟨path', hpath', hfill⟩ := hpath.behind hn
      exact ⟨path', hpath', by rw [hfill, ← hns]⟩
    have hnil : NoMain [] := by
      intro e he
      cases he
    cases n with
    | text | comment | cdata => exact hbehind hnil h
    | element name attrs inner =>
      rw [mainElement?, elementsOf_cons_element] at h
      by_cases hname : Html.asciiLower name = "main"
      · rw [List.find?_cons_of_pos (by simpa using hname)] at h
        obtain rfl := Option.some.inj h
        exact ⟨[⟨[], name, attrs, ns⟩], .main hnil hname, rfl⟩
      rw [List.find?_cons_of_neg (by simpa using hname), List.find?_append] at h
      cases hinner : mainElement? inner with
      | some found =>
        have hfound := hinner
        rw [mainElement?] at hfound
        rw [hfound] at h
        obtain rfl : e = found := (Option.some.inj h).symm
        obtain ⟨path, hpath, hfill⟩ := exists_leadsToMain inner hinner
        refine ⟨⟨[], name, attrs, ns⟩ :: path, .inside hnil hname hpath, ?_⟩
        rw [fill_cons, ← hfill]
        rfl
      | none =>
        have hnone := noMain_of_mainElement? hinner
        rw [hnone.find?_eq_none] at h
        refine hbehind ?_ h
        rw [NoMain, elementsOf_cons_element, List.forall_mem_cons, Html.elementsOf, List.append_nil]
        exact ⟨hname, hnone⟩

/-- A document has a main element exactly when it is filled into a path that leads to one. -/
theorem mainElement?_eq_some_iff {doc : List Node} : (∃ e, mainElement? doc = some e) ↔
    ∃ path ns, LeadsToMain path ∧ doc = fill path ns := by
  constructor
  · rintro ⟨e, he⟩
    obtain ⟨path, hpath, hdoc⟩ := exists_leadsToMain doc he
    exact ⟨path, e.children, hpath, hdoc⟩
  · rintro ⟨path, ns, hpath, rfl⟩
    obtain ⟨name, attrs, hmain⟩ := hpath.mainElement?
    exact ⟨_, hmain ns⟩

/-- A main element with nothing beside it. -/
def mainFrame : Frame := ⟨[], "main", [], []⟩

theorem leadsToMain_mainFrame : LeadsToMain [mainFrame] := by
  refine .main ?_ (by decide)
  intro e he
  cases he

/-! ## All elements -/

/-- A node may be put before a path. -/
theorem exists_fill_behind (n : Node) (path : List Frame) (f : Frame) :
    ∃ path' f', f'.name = f.name ∧ f'.attrs = f.attrs ∧
      ∀ ns, fill (path' ++ [f']) ns = n :: fill (path ++ [f]) ns := by
  cases path with
  | nil => exact ⟨[], { f with before := n :: f.before }, rfl, rfl, fun _ => rfl⟩
  | cons g path => exact ⟨{ g with before := n :: g.before } :: path, f, rfl, rfl, fun _ => rfl⟩

/-- Every element stands in a path of frames. -/
theorem exists_fill_of_mem : ∀ ns : List Node, e ∈ Html.elementsOf ns →
    ∃ path f, f.name = e.name ∧ f.attrs = e.attrs ∧ ns = fill (path ++ [f]) e.children
  | [], h => by cases h
  | n :: ns, h => by
    rw [Html.elementsOf, List.mem_append] at h
    rcases h with hn | hns
    · cases n with
      | element name attrs inner =>
        rw [Html.Node.elements, List.mem_cons] at hn
        rcases hn with rfl | hinner
        · exact ⟨[], ⟨[], name, attrs, ns⟩, rfl, rfl, rfl⟩
        · obtain ⟨path, f, hname, hattrs, hfill⟩ := exists_fill_of_mem inner hinner
          refine ⟨⟨[], name, attrs, ns⟩ :: path, f, hname, hattrs, ?_⟩
          rw [List.cons_append, fill_cons, ← hfill]
          rfl
      | text | comment | cdata => cases hn
    · obtain ⟨path, f, hname, hattrs, hfill⟩ := exists_fill_of_mem ns hns
      obtain ⟨path', f', hname', hattrs', hbehind⟩ := exists_fill_behind n path f
      exact ⟨path', f', hname'.trans hname, hattrs'.trans hattrs, by rw [hbehind, ← hfill]⟩

end CrateBook.Page
