import CrateBook.Proofs.Markdown.Code
import CrateBook.Proofs.Page.Verbatim

/-!
# Code on a page

Three kinds of marks stand around code: the span of a text, which is widened once where the text
holds a backtick, the single backticks of a code element, and fences of three backticks. None of
them looks at how long the runs of backticks in the code are, so each reads back its code exactly
when the code fits it (`code_inside_marks_iff`).
-/

namespace CrateBook.Page

open Html (Node AttrValue)
open Markdown (IsSpan Fits IsOneLine sourceLines endedLines ticks tick runs closesFence codeSpan?
  fencedCode? inlineCode codeBlock spanText)

variable {skip : SkipRules} {parent : String} {attrs : List (String × AttrValue)}

/-- What stands in a code element. -/
def codeText (skip : SkipRules) (children : List Node) : String :=
  childrenMarkdown skip "code" true false children

/-- Outside preformatted text a code element stands between backticks. -/
theorem nodeMarkdown_code (hparent : parent ≠ "pre") (hkept : skip.skips "code" attrs = false)
    (verbatim inline : Bool) (children : List Node) :
    nodeMarkdown skip parent verbatim inline (.element "code" attrs children) =
      "`" ++ codeText skip children ++ "`" := by
  have hrule : ruleFor "code" = .code := by decide
  rw [nodeMarkdown, if_neg (by simp [hkept]), hrule]
  exact if_neg (by simpa using hparent)

/-- A text is read back from its span exactly when it is not empty and no run of two backticks
stands in it. A code element is read as one span exactly when, but for backticks at its ends, which
widen the marks, its text fits the marks; source text without backticks always does. A fence is read
back exactly when no line in it closes a fence of three. -/
theorem code_inside_marks_iff (skip : SkipRules) (parent : String) (verbatim inline : Bool)
    (attrs : List (String × AttrValue)) (children : List Node) (text code lang : String) :
    (IsSpan (inlineCode text) code ↔ code = spanText text ∧ text ≠ "" ∧ 2 ∉ runs text) ∧
    (parent ≠ "pre" → skip.skips "code" attrs = false →
      (IsSpan (nodeMarkdown skip parent verbatim inline (.element "code" attrs children)) code ↔
        ∃ k, (codeText skip children).toList = ticks k ++ code.toList ++ ticks k ∧
          Fits (k + 1) code.toList) ∧
      (IsSpan (nodeMarkdown skip parent verbatim inline (.element "code" attrs children))
        (codeText skip children) ↔ Fits 1 (codeText skip children).toList) ∧
      (AreSource skip children → sourceText skip children ≠ "" →
        tick ∉ (sourceText skip children).toList →
        IsSpan (nodeMarkdown skip parent verbatim inline (.element "code" attrs children))
          (sourceText skip children))) ∧
    (IsOneLine lang → tick ∉ lang.toList →
      (fencedCode? (sourceLines (codeBlock text lang)) =
          some (sourceLines (Text.trimEnd text), []) ↔
        ∀ line ∈ sourceLines (Text.trimEnd text), closesFence 3 line = false)) ∧
    (skip.skips "pre" attrs = false →
      (fencedCode? (sourceLines
          (nodeMarkdown skip parent verbatim inline (.element "pre" attrs children))) =
          some (endedLines (childrenMarkdown skip "pre" true inline children), ["", ""]) ↔
        ∀ line ∈ endedLines (childrenMarkdown skip "pre" true inline children),
          closesFence 3 line = false)) := by
  refine ⟨Markdown.isSpan_inlineCode_iff, fun hparent hkept => ?_,
    Markdown.fencedCode?_codeBlock_iff, fun hkept => ?_⟩
  · rw [nodeMarkdown_code hparent hkept]
    refine ⟨Markdown.isSpan_quoted_iff, Markdown.isSpan_quoted_self_iff,
      fun hsource hne htick => ?_⟩
    rw [codeText, childrenMarkdown_source "code" false children hsource,
      Markdown.isSpan_quoted_self_iff]
    exact Markdown.fits_of_not_mem (by decide) (by simpa using hne) htick
  · have hsplit (inner : String) :
        "```\n" ++ inner ++ "\n```\n\n" = "```" ++ "" ++ "\n" ++ (inner ++ "\n" ++ "```\n\n") := by
      simp only [String.append_assoc]
      rfl
    rw [nodeMarkdown_pre parent verbatim inline hkept, hsplit]
    exact Markdown.fencedCode?_fenced_iff (by decide) (by decide) (by decide)

/-- A backtick in a text, brackets in a code element and a fence of two backticks in code stay
inside. -/
theorem code_inside_marks_kept :
    IsSpan (inlineCode "a`b") " a`b " ∧
      (("p" ≠ "pre" ∧ SkipRules.default.skips "code" [] = false) ∧
        IsSpan (nodeMarkdown .default "p" false true (.element "code" [] [.text none "v[i][j]"]))
          "v[i][j]") ∧
      ((IsOneLine "rust" ∧ tick ∉ "rust".toList) ∧
        fencedCode? (sourceLines (codeBlock "fn f()\n``\n" "rust")) = some (["fn f()", "``"], [])) ∧
      (SkipRules.default.skips "pre" [] = false ∧
        fencedCode? (sourceLines (nodeMarkdown .default "main" false false
          (.element "pre" [] [.text none "a\n    ```"]))) = some (["a", "    ```"], ["", ""])) := by
  have hspan := (code_inside_marks_iff .default "p" false true [] [] "a`b" " a`b " "").1
  have helement := (code_inside_marks_iff .default "p" false true [] [.text none "v[i][j]"] "" ""
    "").2.1 (by decide) (by decide)
  have hblock := (code_inside_marks_iff .default "p" false true [] [] "fn f()\n``\n" ""
    "rust").2.2.1 (by decide) (by decide)
  have hpre := (code_inside_marks_iff .default "main" false false [] [.text none "a\n    ```"] "" ""
    "").2.2.2 (by decide)
  exact ⟨hspan.2 ⟨by decide, by decide, by decide⟩,
    ⟨⟨by decide, by decide⟩, helement.2.2 ⟨trivial, trivial⟩ (by decide) (by decide)⟩,
    ⟨⟨by decide, by decide⟩, hblock.2 (by decide)⟩, by decide, hpre.2 (by decide)⟩

/-- Two backticks in a text, one in a code element and a line of three in code close the marks
before the code ends. -/
theorem marks_closed_early :
    (inlineCode "a``b" = "`` a``b ``" ∧
      codeSpan? "`` a``b ``".toList = some (" a".toList, "b ``".toList)) ∧
    (nodeMarkdown .default "main" false false (.element "code" [] [.text none "a`b"]) = "`a`b`" ∧
      codeSpan? "`a`b`".toList = some ("a".toList, "b`".toList)) ∧
    (codeBlock "a\n```\nb" "" = "```\na\n```\nb\n```" ∧
      fencedCode? (sourceLines "```\na\n```\nb\n```") = some (["a"], ["b", "```"])) ∧
    (nodeMarkdown .default "main" false false (.element "pre" [] [.text none "a\n```\nb"]) =
        "```\na\n```\nb\n```\n\n" ∧
      fencedCode? (sourceLines "```\na\n```\nb\n```\n\n") = some (["a"], ["b", "```", "", ""])) :=
  ⟨⟨by decide, by decide⟩, ⟨by decide, by decide⟩, ⟨by decide, by decide⟩, by decide, by decide⟩

end CrateBook.Page
