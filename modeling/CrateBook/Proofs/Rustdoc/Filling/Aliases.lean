import CrateBook.Proofs.Rustdoc.Filling.Declarations

/-!
# Pages of aliases

The page of an alias of a struct or an enum shows the declaration and the variants of the target
with the arguments of the alias in the place of the parameters (`aliasPage_filled`).
-/

namespace CrateBook.Rustdoc

section

variable {crate : Crate} {item target : Item} {σ : Filling}

/-- The arguments of an alias for the parameters of its target, by the names under which these are
used. -/
def aliasFilling (item target : Item) : Except Fault Filling := do
  let params ← target.generics.memberOrNull "params"
  let arguments ← item.targetArguments
  let names ← readParamNames (← params.partsIfAny)
  let pairs ← (names.zip arguments).mapM fun (name, a) => do
    let argument ← readArg a
    return (← keptName? name).map (·, argument)
  return Json.lastOfEach (pairs.filterMap id)

theorem aliasSubst_eq (item target : Item) :
    aliasSubst item target = Filling.texts <$> aliasFilling item target := by
  let withText : String × Arg → String × String := fun m => (m.1, m.2.text [])
  have hpair (m : Json × Json) : (do
      let argument ← readArg m.2
      return (← keptName? m.1).map (·, argument.text []) :
        Except Fault (Option (String × String))) =
      Option.map withText <$> do
        let argument ← readArg m.2
        return (← keptName? m.1).map (·, argument) := by
    simp only [map_bind, map_pure, Option.map_map, withText, Function.comp_def]
  have htexts (pairs : List (Option (String × Arg))) :
      Json.lastOfEach ((pairs.map (Option.map withText)).filterMap id) =
        Filling.texts (Json.lastOfEach (pairs.filterMap id)) := by
    rw [List.filterMap_map, Filling.texts, ← Json.lastOfEach_map, List.map_filterMap]
    rfl
  rw [aliasSubst, aliasFilling, funext hpair, map_bind]
  refine bind_congr fun params => ?_
  rw [map_bind]
  refine bind_congr fun arguments => ?_
  rw [map_bind]
  refine bind_congr fun declared => ?_
  rw [map_bind]
  refine bind_congr fun names => ?_
  rw [mapM_map_result, bind_map_left, map_bind]
  exact bind_congr fun pairs => congrArg pure (htexts pairs)

theorem exists_targetArguments (hσ : aliasFilling item target = .ok σ) :
    ∃ arguments, item.targetArguments = .ok arguments := by
  rw [aliasFilling] at hσ
  obtain ⟨params, -, hσ⟩ := exists_of_bind_eq_ok hσ
  obtain ⟨arguments, harguments, -⟩ := exists_of_bind_eq_ok hσ
  exact ⟨arguments, harguments⟩

/-- The declaration that an alias shows is the declaration of its target with the texts of the
arguments. -/
theorem aliasedCode_eq (hkind : target.kind = "enum" ∨ target.kind = "struct")
    (hσ : aliasFilling item target = .ok σ) {d : Declaration}
    (hread : readDeclaration crate target = .ok d) :
    aliasedCode crate item (some target) = d.text σ.texts <$> aliasParams item := by
  have hshown : (some target).filter (fun t => t.kind == "enum" || t.kind == "struct") =
      some target := by
    rw [Option.filter_some, if_pos]
    simpa using hkind
  rw [aliasedCode, hshown]
  dsimp only
  rw [aliasSubst_eq, hσ, bind_map_left, ok_bind, map_eq_pure_bind]
  refine bind_congr fun params => ?_
  rw [declaration_eq params hkind, hread]
  rfl

/-- The table of variants that an alias shows is the table of its target with the texts of the
arguments. -/
theorem aliasVariantLines_eq (hkind : target.kind = "enum" ∨ target.kind = "struct")
    (hσ : aliasFilling item target = .ok σ) {d : Declaration}
    (hread : readDeclaration crate target = .ok d) :
    aliasVariantLines crate item (some target) =
      item.targetArguments >>= (d.variantLines σ.texts ·) := by
  rw [aliasVariantLines, Option.filter_some]
  rcases hkind with hkind | hkind
  · have henum := readBody_of_readDeclaration hread
    rw [readBody, if_pos (beq_iff_eq.2 hkind)] at henum
    obtain ⟨items, variants, stripped, hitems, hvariants, hbody⟩ := of_enumBody henum
    rw [if_pos (beq_iff_eq.2 hkind)]
    dsimp only
    rw [aliasSubst_eq, hσ, bind_map_left, ok_bind]
    refine bind_congr fun arguments => ?_
    rw [variantsTable_eq hitems hvariants, bind_map_left, Declaration.variantLines, hbody]
  · -- A struct shows no table and its arguments are not read for one, but they can be read.
    obtain ⟨arguments, harguments⟩ := exists_targetArguments hσ
    rw [if_neg (by rw [hkind]; decide), harguments, ok_bind]
    exact (Declaration.variantLines_of_struct hkind hread arguments).symm

/-- An alias of a struct or an enum of the crate shows its target with the arguments in the place of
the parameters, in the declaration and in the table of variants, if the types of the target fit. -/
theorem aliasPage_filled (htarget : crate.target? item = .ok (some target))
    (hkind : target.kind = "enum" ∨ target.kind = "struct")
    (hσ : aliasFilling item target = .ok σ) {d : Declaration}
    (hread : readDeclaration crate target = .ok d) (hfits : d.fits σ = true) :
    aliasPage crate item = do
      let code ← aliasDeclaration item
      let params ← aliasParams item
      Docs.check item.docs
      let variants ← (d.fill σ).variantLines [] (← item.targetArguments)
      let implementations ← inheritedSection crate target.displayName (some target)
      return pageOf (headLines crate item ++ definitionLines code ++
        ["**Aliased Type:**", "", Markdown.codeBlock ((d.fill σ).text [] params) "rust", ""] ++
        descriptionLines item ++ variants ++ implementations ++ nextLines crate item) := by
  have hname : targetName item (some target) = .ok target.displayName := rfl
  rw [aliasPage, htarget, ok_bind]
  refine bind_congr fun code => ?_
  rw [aliasedCode_eq hkind hσ hread, bind_map_left]
  refine bind_congr fun params => bind_congr fun _ => ?_
  rw [aliasVariantLines_eq hkind hσ hread, bind_assoc, hname]
  simp only [ok_bind, Declaration.text_fill hfits, Declaration.variantLines_fill hfits]

end

namespace TwoAliases

def generic (name : String) : Json := .obj [("generic", .str name)]

def typed (type : Json) : Json := .obj [("type", type)]

def lifetimed (name : String) : Json := .obj [("lifetime", .str name)]

def path (id : Int) (name : String) (args : List Json) : Json :=
  .obj [("id", .int id), ("path", .str name),
    ("args", .obj [("angle_bracketed", .obj [("args", .arr args)])])]

def resolved (id : Int) (name : String) (args : List Json) : Json :=
  .obj [("resolved_path", path id name args)]

def borrowed (life : Json) (type : Json) : Json :=
  .obj [("borrowed_ref", .obj [("lifetime", life), ("type", type)])]

def param (name kind : String) : Json :=
  .obj [("name", .str name), ("kind", .obj [(kind, .obj [])])]

def generics (params predicates : List Json) : String × Json :=
  ("generics", .obj [("params", .arr params), ("where_predicates", .arr predicates)])

def field (id name : String) (type : Json) : Item :=
  ⟨id, .str name, .pub, .null, "struct_field", type, true⟩

def intoK : Json :=
  .obj [("bound_predicate", .obj [("type", generic "V"), ("bounds", .arr
    [.obj [("trait_bound", .obj [("trait", path 20 "Into" [typed (generic "K")])])]])])]

def entry : Item := ⟨"1", .str "Entry", .pub, .null, "enum", .obj
  [generics [param "'a" "lifetime", param "K" "type", param "V" "type"] [intoK],
    ("variants", .arr [.int 2, .int 3])], true⟩

def vacant : Item := ⟨"2", .str "Vacant", .unmarked, .null, "variant",
  .obj [("kind", .obj [("tuple", .arr [.int 4])])], true⟩

def occupied : Item := ⟨"3", .str "Occupied", .unmarked, .null, "variant",
  .obj [("kind", .obj [("struct", .obj [("fields", .arr [.int 5, .int 6])])])], true⟩

/-- An alias that gives a vector of its own `K` for the `K` of the target. -/
def slot : Item := ⟨"7", .str "Slot", .pub, .null, "type_alias", .obj
  [generics [param "'a" "lifetime", param "K" "type"] [],
    ("type", resolved 1 "Entry" [lifetimed "'a", typed (resolved 21 "Vec" [typed (generic "K")]),
      typed (.obj [("primitive", .str "u8")])])], true⟩

def buffer : Item := ⟨"8", .str "Buffer", .pub, .null, "struct", .obj
  [generics [param "'a" "lifetime", param "T" "type", param "N" "const"] [],
    ("kind", .obj [("plain", .obj [("fields", .arr [.int 9, .int 10, .int 11])])])], true⟩

def bound (id : Int) (name : String) : Json := .obj [("trait", path id name [])]

/-- An alias that gives a lifetime, a type that a reference has to group, and a length. -/
def fixed : Item := ⟨"12", .str "Fixed", .pub, .null, "type_alias", .obj
  [("type", resolved 8 "Buffer" [lifetimed "'static",
    typed (.obj [("dyn_trait", .obj [("traits", .arr [bound 22 "Read", bound 23 "Send"])])]),
    .obj [("const", .obj [("expr", .str "4")])]])], true⟩

def crate : Crate where
  root := "0"
  items := [("1", entry), ("2", vacant), ("3", occupied),
    ("4", field "4" "0" (borrowed (.str "'a") (generic "K"))),
    ("5", field "5" "key" (generic "K")), ("6", field "6" "value" (generic "V")),
    ("7", slot), ("8", buffer),
    ("9", field "9" "head" (borrowed (.str "'a") (.obj [("primitive", .str "u8")]))),
    ("10", field "10" "cells" (.obj [("array", .obj
      [("type", .obj [("primitive", .str "u8")]), ("len", .str "N")])])),
    ("11", field "11" "source" (borrowed .null (generic "T"))), ("12", fixed)]
  paths := []
  pathKinds := []
  version := .null
  formatVersion := .null

def slotFilling : Filling :=
  [("'a", .lifetime "'a"), ("K", .type (.path "Vec" (.angle [.type (.generic "K")] []))),
    ("V", .type (.primitive "u8"))]

def entryDeclared : Declaration where
  item := entry
  predicates := [.bounded [] (.generic "V")
    [.trait [] .plain "Into" (.angle [.type (.generic "K")] [])]]
  body := .variants
    [⟨vacant, .tuple [some (.reference (some "'a") false (.generic "K"))], ""⟩,
      ⟨occupied, .named [("key", .generic "K"), ("value", .generic "V")], ""⟩] false

def fixedFilling : Filling :=
  [("'a", .lifetime "'static"),
    ("T", .type (.dyn [.trait [] .plain "Read" (.angle [] []),
      .trait [] .plain "Send" (.angle [] [])] none)),
    ("N", .const "4")]

def bufferDeclared : Declaration where
  item := buffer
  predicates := []
  body := .fields
    [(field "9" "head" (borrowed (.str "'a") (.obj [("primitive", .str "u8")])),
        .reference (some "'a") false (.primitive "u8")),
      (field "10" "cells" (.obj [("array", .obj
        [("type", .obj [("primitive", .str "u8")]), ("len", .str "N")])]),
        .array (.primitive "u8") "N"),
      (field "11" "source" (borrowed .null (generic "T")), .reference none false (.generic "T"))]
    false

theorem text_entry : (entryDeclared.fill slotFilling).text [] "<'a, K>" =
    "pub enum Entry<'a, K> where u8: Into<Vec<K>> \x7b\n    Vacant(&'a Vec<K>),\n" ++
      "    Occupied \x7b key: Vec<K>, value: u8 \x7d,\n\x7d" := by rfl

theorem variantLines_entry :
    slot.targetArguments >>= ((entryDeclared.fill slotFilling).variantLines [] ·) =
      .ok ["---", "", "## Variants", "",
        Markdown.tableUnlessEmpty ["Variant", "Type", "Description"]
          [["`Vacant`", "`&'a Vec<K>`", ""],
            ["`Occupied`", "`key: Vec<K>, value: u8`", ""]], ""] := by
  rfl

end TwoAliases

open TwoAliases in
/-- The `K` of the alias is not taken for the `K` of its target. -/
theorem aliasPage_filled_slot :
    crate.target? slot = .ok (some entry) ∧ aliasFilling slot entry = .ok slotFilling ∧
      readDeclaration crate entry = .ok entryDeclared ∧ entryDeclared.fits slotFilling = true ∧
      aliasPage crate slot = .ok (pageOf (headLines crate slot ++
        definitionLines "pub type Slot<'a, K> = Entry<'a, Vec<K>, u8>;" ++
        ["**Aliased Type:**", "", Markdown.codeBlock
          ("pub enum Entry<'a, K> where u8: Into<Vec<K>> \x7b\n    Vacant(&'a Vec<K>),\n" ++
            "    Occupied \x7b key: Vec<K>, value: u8 \x7d,\n\x7d") "rust", ""] ++
        descriptionLines slot ++
        ["---", "", "## Variants", "", Markdown.tableUnlessEmpty ["Variant", "Type", "Description"]
          [["`Vacant`", "`&'a Vec<K>`", ""], ["`Occupied`", "`key: Vec<K>, value: u8`", ""]], ""] ++
        (implementationsHead ++ ["This type inherits all implementations from `Entry`.", "",
          "No implementations found.", ""]) ++ nextLines crate slot)) := by
  have htarget : crate.target? slot = .ok (some entry) := by rfl
  have hσ : aliasFilling slot entry = .ok slotFilling := by rfl
  have hread : readDeclaration crate entry = .ok entryDeclared := by rfl
  have hfits : entryDeclared.fits slotFilling = true := by decide
  have hcode : aliasDeclaration slot = .ok "pub type Slot<'a, K> = Entry<'a, Vec<K>, u8>;" := by rfl
  have hparams : aliasParams slot = .ok "<'a, K>" := by rfl
  have himplementations : inheritedSection crate entry.displayName (some entry) =
      .ok (implementationsHead ++ ["This type inherits all implementations from `Entry`.", "",
        "No implementations found.", ""]) := by rfl
  refine ⟨htarget, hσ, hread, hfits, ?_⟩
  rw [aliasPage_filled htarget (.inl rfl) hσ hread hfits, hcode, ok_bind, hparams, ok_bind,
    show Docs.check slot.docs = .ok () from rfl, ok_bind, ← bind_assoc, variantLines_entry,
    ok_bind, himplementations, ok_bind, text_entry]
  rfl

open TwoAliases in
/-- What an alias gives for a lifetime or for a length is not shown, and a type that stands behind
a reference is not grouped. -/
theorem arguments_not_shown :
    crate.target? fixed = .ok (some buffer) ∧ aliasFilling fixed buffer = .ok fixedFilling ∧
      readDeclaration crate buffer = .ok bufferDeclared ∧ aliasParams fixed = .ok "" ∧
      (bufferDeclared.fill fixedFilling).text [] "" =
        "pub struct Buffer \x7b\n    pub head: &'static u8,\n    pub cells: [u8; 4],\n" ++
          "    pub source: &(dyn Read + Send),\n\x7d" ∧
      aliasedCode crate fixed (some buffer) = .ok
        ("pub struct Buffer \x7b\n    pub head: &'a u8,\n    pub cells: [u8; N],\n" ++
          "    pub source: &dyn Read + Send,\n\x7d") := by
  refine ⟨?_, ?_, ?_, ?_, ?_, ?_⟩
  all_goals rfl

end CrateBook.Rustdoc
