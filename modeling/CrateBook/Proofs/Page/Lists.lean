import CrateBook.Proofs.Page.LineStarts
import CrateBook.Proofs.Page.Skipping
import CrateBook.Proofs.Text.Lines

/-!
# The lines of a list

A child of a list shows when it is an item that is not left out, or when it stands between the
items and something is left of it on a squeezed line. Each child that shows has one line, in the
place that the children before it leave (`getElem?_listLines`), and an item has the number of the
items up to it. What an item holds is squeezed first, so whatever blocks and line breaks stand in
it, it adds no line and uses up no number. `list_markdown` says so of whole lists.
-/

namespace CrateBook.Page

open Html (Node AttrValue)
open Text (IsLine)

variable {skip : SkipRules} {parent : String} {ordered : Bool} {n : Node}
  {ns before after : List Node}

/-- The elements that are lists of items. -/
def listName (ordered : Bool) : String := if ordered then "ol" else "ul"

/-- The child is an item that is not left out. -/
def isItem (skip : SkipRules) : Node → Bool
  | .element name attrs _ => name == "li" && !skip.skips name attrs
  | _ => false

/-- What a child of a list says on a line: an item what it holds, another element what is written of
it, a text itself. -/
def childText (skip : SkipRules) : Node → String
  | .element name attrs inner =>
    if isItem skip (.element name attrs inner) then lineOf skip name inner
    else Text.squeeze (nodeMarkdown skip "ul" false false (.element name attrs inner))
  | .text _ s => Text.squeeze (textMarkdown false true s)
  | .comment _ => ""
  | .cdata _ => ""

/-- A child of a list has a line. -/
def shows (skip : SkipRules) (n : Node) : Bool := isItem skip n || childText skip n != ""

/-- The line of a child that shows; `number` is for an item of a numbered list. -/
def childLine (skip : SkipRules) (ordered : Bool) (number : Nat) (n : Node) : String :=
  if isItem skip n then
    (if ordered then toString number ++ "." else "-") ++ " " ++ childText skip n
  else childText skip n

/-! ## One child -/

theorem childText_element {name : String} {attrs : List (String × AttrValue)} {inner : List Node}
    (h : isItem skip (.element name attrs inner) = false) :
    childText skip (.element name attrs inner) =
      Text.squeeze (nodeMarkdown skip "ul" false false (.element name attrs inner)) := by
  rw [childText, if_neg (by simp [h])]

theorem childText_of_skipped {name : String} {attrs : List (String × AttrValue)}
    {inner : List Node} (h : skip.skips name attrs = true) :
    childText skip (.element name attrs inner) = "" := by
  rw [childText_element (by rw [isItem, h, Bool.not_true, Bool.and_false]), nodeMarkdown, if_pos h]
  rfl

theorem childLine_of_not_isItem (h : isItem skip n = false) (number : Nat) :
    childLine skip ordered number n = childText skip n := by
  rw [childLine, if_neg (by simp [h])]

theorem shows_of_not_isItem (h : isItem skip n = false) :
    shows skip n = (childText skip n != "") := by
  rw [shows, h, Bool.false_or]

theorem cons_unless_empty (line : String) (rest : List String) :
    (if line == "" then rest else line :: rest) =
      (if line != "" then [line] else []) ++ rest := by
  by_cases h : line = "" <;> simp [h]

/-- A child has its line, if it shows, and the next number is one more behind an item. -/
theorem listLines_step (hparent : parent ≠ "pre") (count : Nat) (n : Node) (ns : List Node) :
    listLines skip parent ordered count (n :: ns) =
      (if shows skip n then [childLine skip ordered count n] else []) ++
        listLines skip parent ordered (count + if isItem skip n then 1 else 0) ns := by
  cases n with
  | text home s =>
    rw [listLines, childLine_of_not_isItem rfl, shows_of_not_isItem rfl]
    exact cons_unless_empty _ _
  | comment s | cdata s =>
    rw [listLines]
    rfl
  | element name attrs inner =>
    rw [listLines]
    by_cases hname : name = "li"
    · rw [if_pos (beq_iff_eq.2 hname)]
      cases hskip : skip.skips name attrs with
      | true =>
        have hitem : isItem skip (.element name attrs inner) = false := by
          rw [isItem, hskip, Bool.not_true, Bool.and_false]
        rw [shows_of_not_isItem hitem, childText_of_skipped hskip, hitem]
        rfl
      | false =>
        have hitem : isItem skip (.element name attrs inner) = true := by
          rw [isItem, hskip, hname]
          rfl
        rw [shows, childLine, childText, hitem]
        rfl
    · have hitem : isItem skip (.element name attrs inner) = false := by
        rw [isItem, beq_eq_false_iff_ne.2 hname, Bool.false_and]
      rw [if_neg (by simpa using hname), nodeMarkdown_parent hparent (show "ul" ≠ "pre" by decide),
        childLine_of_not_isItem hitem, shows_of_not_isItem hitem, childText_element hitem, hitem]
      exact cons_unless_empty _ _

/-! ## All children -/

section Lines

variable (hparent : parent ≠ "pre")

include hparent

/-- The lines of later children follow those of the earlier ones, and items are numbered on. -/
theorem listLines_append (count : Nat) (before after : List Node) :
    listLines skip parent ordered count (before ++ after) =
      listLines skip parent ordered count before ++
        listLines skip parent ordered (count + before.countP (isItem skip)) after := by
  induction before generalizing count with
  | nil => rw [List.nil_append, listLines, List.nil_append, List.countP_nil, Nat.add_zero]
  | cons n before ih =>
    rw [List.cons_append, listLines_step hparent, listLines_step hparent, ih, List.append_assoc,
      List.countP_cons, Nat.add_assoc, Nat.add_comm (ite _ _ _)]

/-- There is one line for each child that shows. -/
theorem length_listLines (count : Nat) (ns : List Node) :
    (listLines skip parent ordered count ns).length = ns.countP (shows skip) := by
  induction ns generalizing count with
  | nil => rw [listLines]; rfl
  | cons n ns ih =>
    rw [listLines_step hparent, List.length_append, ih, List.countP_cons, Nat.add_comm]
    split <;> rfl

/-- The line of a child stands behind those of the children before it. -/
theorem getElem?_listLines (count : Nat) (hn : shows skip n = true) :
    (listLines skip parent ordered count (before ++ n :: after))[before.countP (shows skip)]? =
      some (childLine skip ordered (count + before.countP (isItem skip)) n) := by
  rw [listLines_append hparent, List.getElem?_append_right (length_listLines hparent _ _).le,
    length_listLines hparent, Nat.sub_self, listLines_step hparent, if_pos hn]
  rfl

theorem listLines_eq_nil_iff {count : Nat} :
    listLines skip parent ordered count ns = [] ↔ ∀ n ∈ ns, shows skip n = false := by
  rw [← List.length_eq_zero_iff, length_listLines hparent, List.countP_eq_zero]
  simp only [Bool.not_eq_true]

end Lines

theorem isLine_childText (n : Node) : IsLine (childText skip n) := by
  cases n with
  | element name attrs inner =>
    rw [childText]
    split
    · exact Text.isLine_squeeze _
    · exact Text.isLine_squeeze _
  | text home s => exact Text.isLine_squeeze _
  | comment s | cdata s => exact fun c hc => by cases hc

theorem isLine_childLine (number : Nat) (n : Node) :
    IsLine (childLine skip ordered number n) := by
  rw [childLine]
  split
  · refine IsLine.append (IsLine.append ?_ (by decide)) (isLine_childText n)
    split
    · refine IsLine.append (fun c hc => Text.isLineEnd_of_isBlank ?_) (by decide)
      exact Text.isBlank_of_isDigit (Text.isDigit_of_mem_toString hc)
    · decide
  · exact isLine_childText n

theorem isLine_of_mem_listLines (hparent : parent ≠ "pre") (count : Nat) (ns : List Node) :
    ∀ line ∈ listLines skip parent ordered count ns, IsLine line := by
  induction ns generalizing count with
  | nil =>
    rw [listLines]
    exact fun _ h => by cases h
  | cons n ns ih =>
    rw [listLines_step hparent, List.forall_mem_append]
    refine ⟨?_, ih _⟩
    split
    · exact List.forall_mem_singleton.2 (isLine_childLine count n)
    · exact fun _ h => by cases h

/-! ## Lists -/

theorem listName_ne_pre (ordered : Bool) : listName ordered ≠ "pre" := by
  cases ordered <;> decide

theorem nodeMarkdown_list (parent : String) (verbatim inline : Bool) (ordered : Bool)
    (attrs : List (String × AttrValue)) (children : List Node) :
    nodeMarkdown skip parent verbatim inline (.element (listName ordered) attrs children) =
      if skip.skips (listName ordered) attrs then ""
      else paragraph (listLines skip (listName ordered) ordered 1 children) := by
  have hrule : ruleFor (listName ordered) = .list ordered := by cases ordered <;> rfl
  rw [nodeMarkdown, hrule]

theorem paragraph_eq_empty_iff {lines : List String} : paragraph lines = "" ↔ lines = [] := by
  rw [paragraph]
  cases lines with
  | nil => simp
  | cons line lines =>
    rw [List.isEmpty_cons, if_neg Bool.false_ne_true]
    refine iff_of_false (fun h => ?_) (List.cons_ne_nil line lines)
    have hlast := congrArg String.toList h
    simp at hlast

/-- A list that is not left out is empty when none of its children shows. Otherwise it is single
lines that a blank line ends, one for each child that shows, in order; the items of a numbered list
have the numbers from one on, counted over the items alone, and those of the other list a dash
each. -/
theorem list_markdown (skip : SkipRules) (parent : String) (verbatim inline ordered : Bool)
    (attrs : List (String × AttrValue)) (children : List Node) :
    let text := nodeMarkdown skip parent verbatim inline
      (.element (listName ordered) attrs children)
    (text = "" ↔ skip.skips (listName ordered) attrs = true ∨
      ∀ n ∈ children, shows skip n = false) ∧
    (text ≠ "" → ∃ lines, text = "\n".intercalate lines ++ "\n\n" ∧
      Text.lines text = lines ++ [""] ∧ lines.length = children.countP (shows skip) ∧
      ∀ before n after, children = before ++ n :: after → shows skip n = true →
        lines[before.countP (shows skip)]? =
          some (childLine skip ordered (before.countP (isItem skip) + 1) n)) := by
  intro text
  have hparent := listName_ne_pre ordered
  have htext : text = if skip.skips (listName ordered) attrs then ""
      else paragraph (listLines skip (listName ordered) ordered 1 children) :=
    nodeMarkdown_list parent verbatim inline ordered attrs children
  cases hskip : skip.skips (listName ordered) attrs with
  | true =>
    rw [if_pos hskip] at htext
    exact ⟨iff_of_true htext (.inl rfl), fun hne => absurd htext hne⟩
  | false =>
    rw [if_neg (by simp [hskip])] at htext
    refine ⟨?_, fun hne => ⟨listLines skip (listName ordered) ordered 1 children, ?_⟩⟩
    · rw [htext, paragraph_eq_empty_iff, listLines_eq_nil_iff hparent]
      simp
    · have hlines : listLines skip (listName ordered) ordered 1 children ≠ [] :=
        fun hnil => hne (htext.trans (paragraph_eq_empty_iff.2 hnil))
      rw [paragraph, if_neg (by simpa using hlines)] at htext
      refine ⟨htext, ?_, length_listLines hparent 1 children, ?_⟩
      · rw [htext]
        exact Text.lines_intercalate_append_feeds hlines
          (isLine_of_mem_listLines hparent 1 children)
      · rintro before n after rfl hn
        rw [getElem?_listLines hparent 1 hn, Nat.add_comm]

namespace Mixed

def code (s : String) : Node := .element "code" [] [.text none s]

/-- An item that holds a list. -/
def nested : Node := .element "li" [] [.element "ul" [] [.element "li" [] [code "d"]]]

/-- An item that is left out, an item with a break in it, a comment and code between the items, and
an item that holds a list. -/
def children : List Node :=
  [.element "li" [("class", .tokens ["hideme"])] [code "x"],
    .element "li" [] [code "a", .element "br" [] [], code "b"], .comment "y", code "c", nested]

end Mixed

open Mixed in
/-- A numbered list has a line for each of two items and one for the code between them; the item
behind the code has the number two. -/
theorem list_markdown_mixed :
    let text := nodeMarkdown .default "main" false false (.element (listName true) [] children)
    text = "1. `a` `b`\n`c`\n2. - `d`\n\n" ∧ text ≠ "" ∧ shows .default nested = true ∧
      ∃ lines, Text.lines text = lines ++ [""] ∧ lines.length = 3 ∧
        lines[2]? = some "2. - `d`" := by
  intro text
  have htext : text = "1. `a` `b`\n`c`\n2. - `d`\n\n" := by rfl
  have hne : text ≠ "" := by
    rw [htext]
    decide
  have hshows : shows .default nested = true := by rfl
  obtain ⟨-, hlist⟩ := list_markdown .default "main" false false true [] children
  obtain ⟨lines, -, hread, hlength, hline⟩ := hlist hne
  exact ⟨htext, hne, hshows, lines, hread, hlength.trans (by rfl),
    hline (children.take 4) nested [] (by rfl) hshows⟩

end CrateBook.Page
