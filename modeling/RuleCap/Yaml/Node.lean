import RuleCap.Yaml.Token

/-!
# Nodes of a YAML document

A document is a tree of scalars, sequences and mappings. A node may carry an anchor, and an alias stands for the node
whose anchor has its name; `Document.target?` finds that node. `document?` builds the tree from the tokens of a stream,
which must hold one document at most, and in which every alias must come after an anchor of its name.
-/

namespace RuleCap.Yaml

/-- The properties of a node: the number of its anchor, and its tag written out. -/
structure Label where
  anchor : Option Nat
  tag : Option Bytes
deriving DecidableEq, Repr

/-- A node and where it begins. -/
inductive Node
  | aliasOf (mark : Mark) (target : Nat)
  | scalar (mark : Mark) (label : Label) (isPlain : Bool) (text : Text)
  | sequence (mark : Mark) (label : Label) (items : List Node)
  | mapping (mark : Mark) (label : Label) (entries : List (Node × Node))

namespace Node

/-- Where a node begins. -/
def mark : Node → Mark
  | aliasOf mark _ => mark
  | scalar mark .. => mark
  | sequence mark .. => mark
  | mapping mark .. => mark

/-- A scalar that is not written at all. -/
def absent (mark : Mark) : Node := scalar mark ⟨none, none⟩ true []

mutual

/-- The nodes with anchors, each with its number, in the order in which they begin. -/
def anchored : Node → List (Nat × Node)
  | aliasOf .. => []
  | scalar mark label isPlain text => label.anchor.toList.map (·, scalar mark label isPlain text)
  | sequence mark label items => label.anchor.toList.map (·, sequence mark label items) ++ anchoredItems items
  | mapping mark label entries => label.anchor.toList.map (·, mapping mark label entries) ++ anchoredEntries entries

/-- The nodes with anchors in a sequence. -/
def anchoredItems : List Node → List (Nat × Node)
  | [] => []
  | n :: rest => anchored n ++ anchoredItems rest

/-- The nodes with anchors in a mapping. -/
def anchoredEntries : List (Node × Node) → List (Nat × Node)
  | [] => []
  | (k, v) :: rest => anchored k ++ anchored v ++ anchoredEntries rest

end

mutual

/-- The size of a node: one for a scalar or an alias, two for a collection besides what is in it. -/
def size : Node → Nat
  | aliasOf .. => 1
  | scalar .. => 1
  | sequence _ _ items => 2 + sizeItems items
  | mapping _ _ entries => 2 + sizeEntries entries

/-- The size of the nodes of a sequence. -/
def sizeItems : List Node → Nat
  | [] => 0
  | n :: rest => size n + sizeItems rest

/-- The size of the nodes of a mapping. -/
def sizeEntries : List (Node × Node) → Nat
  | [] => 0
  | (k, v) :: rest => size k + size v + sizeEntries rest

end

end Node

/-- A document; a stream without one has no root. -/
structure Document where
  root : Option Node

namespace Document

/-- The node that an alias stands for: the last one of its number. -/
def target? (d : Document) (number : Nat) : Option Node := do
  let root ← d.root
  ((root.anchored.filter (·.1 == number)).getLast?).map (·.2)

/-- The size of the tree. -/
def size (d : Document) : Nat := (d.root.map Node.size).getD 0

end Document

/-! ## Reading -/

/-- The tokens still to be read, and the names of the anchors met, each with its number, the last one first. -/
structure Rest where
  tokens : List Token
  names : List (Text × Nat)

namespace Rest

/-- The kind of the next token; a stream ends with a token for its end, which nothing takes. -/
def kind (r : Rest) : TokenKind := (r.tokens.head?.map (·.kind)).getD .streamEnd

/-- Where the next token begins. -/
def mark (r : Rest) : Mark := (r.tokens.head?.map (·.mark)).getD Mark.start

/-- Behind the next token. -/
def skip (r : Rest) : Rest := { r with tokens := r.tokens.tail }

/-- Remembers an anchor. Its number is that of the different names before it, so a name that returns shares its new
number with the next new name. -/
def define (r : Rest) (name : Text) : Nat × Rest :=
  let number := (r.names.map (·.1)).eraseDups.length
  (number, { r with names := (name, number) :: r.names })

end Rest

/-- What the handles of tags stand for. -/
abbrev Handles := List (Text × Bytes)

/-- What the tags of the core schema begin with. -/
def coreSchema : Bytes := Utf8.encode "tag:yaml.org,2002:".toList

/-- The handles that every document has. -/
def defaultHandles : Handles := [(['!'], loneMark), (['!', '!'], coreSchema)]

/-- A tag written out; an empty handle stands for nothing. -/
def expandTag (handles : Handles) (handle : Text) (suffix : Bytes) : Option Bytes :=
  if handle.isEmpty then some suffix else (handles.lookup handle).map (· ++ suffix)

/-- The properties in front of a node, in either order, and whether there are any. -/
def label (handles : Handles) (r : Rest) : Option (Label × Bool × Rest) :=
  match r.kind with
  | .anchor name =>
    let (number, r) := r.skip.define name
    match r.kind with
    | .tag handle suffix => do
      let tag ← expandTag handles handle suffix
      some (⟨some number, some tag⟩, true, r.skip)
    | _ => some (⟨some number, none⟩, true, r)
  | .tag handle suffix => do
    let tag ← expandTag handles handle suffix
    let r := r.skip
    match r.kind with
    | .anchor name =>
      let (number, r) := r.skip.define name
      some (⟨some number, some tag⟩, true, r)
    | _ => some (⟨none, some tag⟩, true, r)
  | _ => some (⟨none, none⟩, false, r)

/-- Whether a token ends the entry of a block mapping. -/
def endsBlockEntry (kind : TokenKind) : Bool := kind == .key || kind == .value || kind == .blockEnd

mutual

/-- A node. Block collections may stand where `inBlock` says so, and a sequence without indentation of its own where
`atMargin` does. -/
def node (handles : Handles) (inBlock atMargin : Bool) : Nat → Rest → Option (Node × Rest)
  | 0, _ => none
  | fuel + 1, r => do
    match r.kind with
    | .aliasOf name => some (.aliasOf r.mark (← r.names.lookup name), r.skip)
    | _ =>
      let (label, isLabelled, body) ← label handles r
      match body.kind with
      | .scalar isPlain text => some (.scalar r.mark label isPlain text, body.skip)
      | .flowSequence =>
        let (items, rest) ← flowItems handles true fuel body.skip
        some (.sequence r.mark label items, rest)
      | .flowMapping =>
        let (entries, rest) ← flowEntries handles true fuel body.skip
        some (.mapping r.mark label entries, rest)
      | kind =>
        if atMargin ∧ kind = .blockEntry then
          let (items, rest) ← marginItems handles fuel body
          some (.sequence r.mark label items, rest)
        else if inBlock ∧ kind = .blockSequence then
          let (items, rest) ← blockItems handles fuel body.skip
          some (.sequence r.mark label items, rest)
        else if inBlock ∧ kind = .blockMapping then
          let (entries, rest) ← blockEntries handles fuel body.skip
          some (.mapping r.mark label entries, rest)
        else if isLabelled then some (.scalar r.mark label true [], body)
        else none

/-- The items of a block sequence. -/
def blockItems (handles : Handles) : Nat → Rest → Option (List Node × Rest)
  | 0, _ => none
  | fuel + 1, r =>
    match r.kind with
    | .blockEntry => do
      let (item, r) ←
        if r.skip.kind = .blockEntry ∨ r.skip.kind = .blockEnd then some (.absent r.mark, r.skip)
        else node handles true false fuel r.skip
      let (items, r) ← blockItems handles fuel r
      some (item :: items, r)
    | .blockEnd => some ([], r.skip)
    | _ => none

/-- The items of a block sequence that stands as far left as the mapping around it. -/
def marginItems (handles : Handles) : Nat → Rest → Option (List Node × Rest)
  | 0, _ => none
  | fuel + 1, r =>
    match r.kind with
    | .blockEntry => do
      let (item, r) ←
        if r.skip.kind = .blockEntry ∨ endsBlockEntry r.skip.kind then some (.absent r.mark, r.skip)
        else node handles true false fuel r.skip
      let (items, r) ← marginItems handles fuel r
      some (item :: items, r)
    | _ => some ([], r)

/-- The entries of a block mapping. -/
def blockEntries (handles : Handles) : Nat → Rest → Option (List (Node × Node) × Rest)
  | 0, _ => none
  | fuel + 1, r =>
    match r.kind with
    | .key => do
      let (k, r) ←
        if endsBlockEntry r.skip.kind then some (.absent r.mark, r.skip) else node handles true true fuel r.skip
      let (v, r) ←
        if r.kind ≠ .value then some (.absent r.mark, r)
        else if endsBlockEntry r.skip.kind then some (.absent r.mark, r.skip)
        else node handles true true fuel r.skip
      let (entries, r) ← blockEntries handles fuel r
      some ((k, v) :: entries, r)
    | .blockEnd => some ([], r.skip)
    | _ => none

/-- The items of a flow sequence, the first one without a comma in front. -/
def flowItems (handles : Handles) (isFirst : Bool) : Nat → Rest → Option (List Node × Rest)
  | 0, _ => none
  | fuel + 1, r =>
    if r.kind = .flowSequenceEnd then some ([], r.skip)
    else if !isFirst && r.kind != .flowEntry then none
    else do
      let r := if isFirst then r else r.skip
      if r.kind = .key then
        let (k, v, r') ← flowPair handles fuel r.skip
        let (items, rest) ← flowItems handles false fuel r'
        some (.mapping r.mark ⟨none, none⟩ [(k, v)] :: items, rest)
      else if r.kind = .flowSequenceEnd then some ([], r.skip)
      else
        let (item, r) ← node handles false false fuel r
        let (items, r) ← flowItems handles false fuel r
        some (item :: items, r)

/-- The key and the value of a mapping with one entry inside a flow sequence. Where the key is empty, the token that
shows it is taken for the key. -/
def flowPair (handles : Handles) : Nat → Rest → Option (Node × Node × Rest)
  | 0, _ => none
  | fuel + 1, r => do
    let endsPair (kind : TokenKind) := kind == .flowEntry || kind == .flowSequenceEnd
    let (k, r) ←
      if r.kind = .value ∨ endsPair r.kind then some (.absent r.mark, r.skip)
      else node handles false false fuel r
    if r.kind ≠ .value then some (k, .absent r.mark, r)
    else if endsPair r.skip.kind then some (k, .absent r.mark, r.skip)
    else
      let (v, r) ← node handles false false fuel r.skip
      some (k, v, r)

/-- The entries of a flow mapping, the first one without a comma in front. -/
def flowEntries (handles : Handles) (isFirst : Bool) : Nat → Rest → Option (List (Node × Node) × Rest)
  | 0, _ => none
  | fuel + 1, r =>
    if r.kind = .flowMappingEnd then some ([], r.skip)
    else if !isFirst && r.kind != .flowEntry then none
    else do
      let r := if isFirst then r else r.skip
      let endsEntry (kind : TokenKind) := kind == .flowEntry || kind == .flowMappingEnd
      if r.kind = .key then
        let (k, r) ←
          if r.skip.kind = .value ∨ endsEntry r.skip.kind then some (.absent r.mark, r.skip)
          else node handles false false fuel r.skip
        let (v, r) ←
          if r.kind ≠ .value then some (.absent r.mark, r)
          else if endsEntry r.skip.kind then some (.absent r.mark, r.skip)
          else node handles false false fuel r.skip
        let (entries, r) ← flowEntries handles false fuel r
        some ((k, v) :: entries, r)
      else if r.kind = .flowMappingEnd then some ([], r.skip)
      else
        let (k, r) ← node handles false false fuel r
        let (entries, r') ← flowEntries handles false fuel r
        some ((k, .absent r.mark) :: entries, r')

end

/-- Reads the directives in front of a document: one version of YAML at most, 1.1 or 1.2, and no handle twice. -/
def directives : Option Unit → Handles → List Token → Option (Handles × List Token)
  | version, handles, ⟨.version major minor, _⟩ :: rest =>
    if version.isSome ∨ major ≠ 1 ∨ (minor ≠ 1 ∧ minor ≠ 2) then none
    else directives (some ()) handles rest
  | version, handles, ⟨.tagPrefix handle leading, _⟩ :: rest =>
    if (handles.lookup handle).isSome then none
    else directives version ((handle, leading) :: handles) rest
  | _, handles, rest => some (handles ++ defaultHandles, rest)

/-- The root of a document whose begin has been read, and what follows it. -/
def rootNode (handles : Handles) (tokens : List Token) : Option (Node × Rest) :=
  node handles true false (4 * tokens.length + 4) ⟨tokens, []⟩

/-- Whether nothing but marks of the end of a document is left. -/
def isFinished (tokens : List Token) : Bool :=
  (tokens.dropWhile (·.kind == .documentEnd)).head?.any (·.kind == .streamEnd)

/-- The document of a stream of tokens. -/
def Document.ofTokens? (tokens : List Token) : Option Document := do
  let (handles, rest) ← directives none [] tokens
  let isBare := rest.length = tokens.length
  match rest with
  | ⟨.streamEnd, _⟩ :: _ => if isBare then some ⟨none⟩ else none
  | ⟨.documentStart, _⟩ :: body =>
    let atEnd := match body with
      | ⟨.streamEnd, _⟩ :: _ => true
      | ⟨.documentEnd, _⟩ :: _ => true
      | _ => false
    if atEnd then
      if isFinished body then some ⟨some (.absent (body.head?.map (·.mark) |>.getD Mark.start))⟩ else none
    else
      let (root, rest) ← rootNode handles body
      if isFinished rest.tokens then some ⟨some root⟩ else none
  | body =>
    if isBare then
      let (root, rest) ← rootNode handles body
      if isFinished rest.tokens then some ⟨some root⟩ else none
    else none

/-- **The document of a stream**, if the stream is well formed and holds one document at most. -/
def document? (t : Text) : Option Document := do
  Document.ofTokens? (← tokens? t)

end RuleCap.Yaml
