import CrateBook.Yaml.Token

/-!
# Nodes of YAML

The tokens of a text make one document, or none. A document is a tree of scalars, sequences and
mappings; a node may have a tag and an anchor, and an alias stands for the node with an anchor.
-/

namespace CrateBook.Yaml

/-- A node. -/
inductive Node where
  | scalar (tag : Option String) (text : String) (isPlain : Bool)
  | sequence (tag : Option String) (items : List Node)
  | mapping (tag : Option String) (pairs : List (Node × Node))
  | alias (name : String)
  | anchored (name : String) (node : Node)

namespace Node

/-- The scalar that stands where nothing is written. -/
def empty : Node := .scalar none "" true

/-- What has been read of the properties of a node. -/
structure Properties where
  anchor : Option String := none
  tag : Option String := none

/-- The node with its anchor. -/
def Properties.wrap (p : Properties) (n : Node) : Node :=
  match p.anchor with
  | none => n
  | some name => .anchored name n

/-- The properties of a node, an anchor and a tag in either order. -/
def properties : List Token → Properties × List Token
  | .anchor a :: .tag _ t :: rest => (⟨some a, some t⟩, rest)
  | .tag _ t :: .anchor a :: rest => (⟨some a, some t⟩, rest)
  | .anchor a :: rest => (⟨some a, none⟩, rest)
  | .tag _ t :: rest => (⟨none, some t⟩, rest)
  | rest => ({}, rest)

/-- A node, once its properties are read. -/
abbrev Reading := Option (Node × List Token)

mutual

/-- A node. Outside of flow collections it may be a block; as a value of a mapping it may be a
sequence that is not indented. -/
def ofTokens : Nat → Bool → Bool → List Token → Reading
  | 0, _, _, _ => none
  | fuel + 1, inBlock, unindented, ts =>
    match ts with
    | .alias name :: rest => some (.alias name, rest)
    | ts =>
      let (p, ts) := properties ts
      let wrapped (r : Reading) : Reading := r.map fun (n, rest) => (p.wrap n, rest)
      match ts with
      | .blockEntry :: _ =>
        if unindented then wrapped (unindentedItems fuel p.tag [] ts)
        else if p.anchor.isSome || p.tag.isSome then wrapped (some (.scalar p.tag "" true, ts))
        else none
      | .scalar text isPlain :: rest => wrapped (some (.scalar p.tag text isPlain, rest))
      | .flowSequence :: rest => wrapped (flowItems fuel p.tag [] rest)
      | .flowMapping :: rest => wrapped (flowPairs fuel p.tag [] rest)
      | .blockSequence :: rest =>
        if inBlock then wrapped (blockItems fuel p.tag [] rest)
        else if p.anchor.isSome || p.tag.isSome then wrapped (some (.scalar p.tag "" true, ts))
        else none
      | .blockMapping :: rest =>
        if inBlock then wrapped (blockPairs fuel p.tag [] rest)
        else if p.anchor.isSome || p.tag.isSome then wrapped (some (.scalar p.tag "" true, ts))
        else none
      | ts =>
        if p.anchor.isSome || p.tag.isSome then wrapped (some (.scalar p.tag "" true, ts))
        else none

/-- The items of a block, after those of `done`, last first. -/
def blockItems : Nat → Option String → List Node → List Token → Reading
  | 0, _, _, _ => none
  | fuel + 1, tag, done, ts =>
    match ts with
    | .blockEnd :: rest => some (.sequence tag done.reverse, rest)
    | .blockEntry :: rest =>
      match rest with
      | .blockEntry :: _ | .blockEnd :: _ => blockItems fuel tag (empty :: done) rest
      | rest => do
        let (n, rest) ← ofTokens fuel true false rest
        blockItems fuel tag (n :: done) rest
    | _ => none

/-- The items of a sequence that is not indented. -/
def unindentedItems : Nat → Option String → List Node → List Token → Reading
  | 0, _, _, _ => none
  | fuel + 1, tag, done, ts =>
    match ts with
    | .blockEntry :: rest =>
      match rest with
      | .blockEntry :: _ | .key :: _ | .value :: _ | .blockEnd :: _ =>
        unindentedItems fuel tag (empty :: done) rest
      | rest => do
        let (n, rest) ← ofTokens fuel true false rest
        unindentedItems fuel tag (n :: done) rest
    | ts => some (.sequence tag done.reverse, ts)

/-- The pairs of a block, after those of `done`, last first. -/
def blockPairs : Nat → Option String → List (Node × Node) → List Token → Reading
  | 0, _, _, _ => none
  | fuel + 1, tag, done, ts =>
    match ts with
    | .blockEnd :: rest => some (.mapping tag done.reverse, rest)
    | .key :: rest => do
      let (k, rest) ← blockPart fuel rest
      match rest with
      | .value :: rest =>
        let (v, rest) ← blockPart fuel rest
        blockPairs fuel tag ((k, v) :: done) rest
      | rest => blockPairs fuel tag ((k, empty) :: done) rest
    | _ => none

/-- A key or a value of a block; nothing may be written for it. -/
def blockPart : Nat → List Token → Reading
  | 0, _ => none
  | fuel + 1, ts =>
    match ts with
    | .key :: _ | .value :: _ | .blockEnd :: _ => some (empty, ts)
    | ts => ofTokens fuel true true ts

/-- The items of a flow sequence, after those of `done`, last first. A key among them makes a
mapping of one pair. -/
def flowItems : Nat → Option String → List Node → List Token → Reading
  | 0, _, _, _ => none
  | fuel + 1, tag, done, ts =>
    let item (ts : List Token) : Reading :=
      match ts with
      | .flowSequenceEnd :: rest => some (.sequence tag done.reverse, rest)
      | .key :: rest => do
        let (k, rest) ← flowPart fuel true rest
        let (v, rest) ← flowValue fuel true rest
        flowItems fuel tag (.mapping none [(k, v)] :: done) rest
      | ts => do
        let (n, rest) ← ofTokens fuel false false ts
        flowItems fuel tag (n :: done) rest
    match ts, done with
    | .flowSequenceEnd :: rest, _ => some (.sequence tag done.reverse, rest)
    | ts, [] => item ts
    | .flowEntry :: rest, _ => item rest
    | _, _ => none

/-- The pairs of a flow mapping, after those of `done`, last first. -/
def flowPairs : Nat → Option String → List (Node × Node) → List Token → Reading
  | 0, _, _, _ => none
  | fuel + 1, tag, done, ts =>
    let pair (ts : List Token) : Reading :=
      match ts with
      | .flowMappingEnd :: rest => some (.mapping tag done.reverse, rest)
      | .key :: rest => do
        let (k, rest) ← flowPart fuel false rest
        let (v, rest) ← flowValue fuel false rest
        flowPairs fuel tag ((k, v) :: done) rest
      | ts => do
        let (k, rest) ← ofTokens fuel false false ts
        flowPairs fuel tag ((k, empty) :: done) rest
    match ts, done with
    | .flowMappingEnd :: rest, _ => some (.mapping tag done.reverse, rest)
    | ts, [] => pair ts
    | .flowEntry :: rest, _ => pair rest
    | _, _ => none

/-- A key of a flow collection; nothing may be written for it. -/
def flowPart : Nat → Bool → List Token → Reading
  | 0, _, _ => none
  | fuel + 1, inSequence, ts =>
    match ts with
    | .value :: _ | .flowEntry :: _ => some (empty, ts)
    | .flowSequenceEnd :: _ => if inSequence then some (empty, ts) else none
    | .flowMappingEnd :: _ => if inSequence then none else some (empty, ts)
    | ts => ofTokens fuel false false ts

/-- The value of a pair of a flow collection; nothing may be written for it. -/
def flowValue : Nat → Bool → List Token → Reading
  | 0, _, _ => none
  | fuel + 1, inSequence, ts =>
    match ts with
    | .value :: rest =>
      match rest with
      | .value :: _ => none
      | rest => flowPart fuel inSequence rest
    | ts => some (empty, ts)

end

/-- What handles of tags stand for. -/
abbrev Handles := List (String × String)

/-- The handles that every document has. -/
def standardHandles : Handles := [("!", "!"), ("!!", "tag:yaml.org,2002:")]

/-- The handles of a document and its tokens after the directives. There is at most one version,
whose major number is one, and one directive for each handle. Directives must be followed by the
start of a document. -/
def afterDirectives (handles : Handles) (hasVersion isRequired : Bool) :
    List Token → Option (Handles × List Token)
  | .directive (.version major) :: rest =>
    if hasVersion || major ≠ 1 then none else afterDirectives handles true true rest
  | .directive (.handle name stands) :: rest =>
    if (handles.lookup name).isSome then none
    else afterDirectives ((name, stands) :: handles) hasVersion true rest
  | .directive .other :: rest => afterDirectives handles hasVersion true rest
  | .documentStart :: rest => some (handles ++ standardHandles, rest)
  | ts => if isRequired then none else some (standardHandles, ts)

/-- The token with its tag written out. -/
def withWholeTag (handles : Handles) : Token → Option Token
  | .tag (some handle) name => (handles.lookup handle).map fun stands => .tag none (stands ++ name)
  | t => some t

/-- The document of a text, if it has one. A text has at most one. -/
def ofText? (s : String) : Option (Option Node) := do
  let ts ← tokens? s
  if ts.isEmpty then return none
  let isMarked := match ts.head? with
    | some (.directive _) | some .documentStart => true
    | _ => false
  let (handles, ts) ← afterDirectives [] false false ts
  let ts ← ts.mapM (withWholeTag handles)
  let (n, rest) ← match ts with
    | [] => some (empty, ts)
    | .documentEnd :: _ | .directive _ :: _ | .documentStart :: _ =>
      if isMarked then some (empty, ts) else none
    | ts => ofTokens (4 * ts.length + 4) true false ts
  if (rest.dropWhile (· = .documentEnd)).isEmpty then return some n
  none

end Node

end CrateBook.Yaml
