import CrateBook.Text.Letters
import CrateBook.Text.Pieces

/-!
# Kinds of items

Every kind of item has a label under which items of that kind are shown. A kind without a label of
its own is shown by its name in title case.
-/

namespace CrateBook.Rustdoc

/-- The labels of kinds. -/
def kindLabels : List (String × String) := [
  ("module", "Module"), ("extern_crate", "Extern Crate"), ("use", "Use Statement"),
  ("union", "Union"), ("struct", "Struct"), ("struct_field", "Struct Field"), ("enum", "Enum"),
  ("variant", "Variant"), ("function", "Function"), ("trait", "Trait"),
  ("trait_alias", "Trait Alias"), ("impl", "Impl Block"), ("type_alias", "Type Alias"),
  ("constant", "Constant"), ("static", "Static"), ("extern_type", "Extern Type"),
  ("macro", "Macro"), ("proc_macro", "Proc Macro"), ("primitive", "Primitive"),
  ("assoc_const", "Associated Constant"), ("assoc_type", "Associated Type")]

/-- The label of a kind. -/
def kindLabel (kind : String) : String :=
  (kindLabels.lookup kind).getD (Text.titleCase (Text.replace kind "_" " "))

/-- The kinds that are shown on the page of the item they belong to. -/
def memberKinds : List String :=
  ["struct_field", "variant", "impl", "use", "assoc_const", "assoc_type"]

end CrateBook.Rustdoc
