import GridGauge.Yaml.Node

/-!
# YAML documents

The nodes of a document are made from its tokens. An anchor names a node and
an alias stands for the node of that name. A sequence or mapping has its name
already inside of itself; a name is given once only.

A parser takes the tokens in front of it. It fails where it would have to go
past a fault of the text, and not before. Nodes must not nest deeper than
`nestingLimit`.
-/

namespace GridGauge.Yaml

/-- The nodes of a document and the number of the outermost. -/
structure Document where
  nodes : Nodes
  root : Nat
  deriving Repr, Inhabited

namespace Document

/-- What is left to read, and what there is so far. -/
structure State where
  tokens : Tokens
  nodes : Nodes
  /-- The numbers of the nodes with an anchor, under their names. -/
  anchors : List (Text × Nat)
  /-- What the handles of tags stand for. -/
  handles : List (Text × Text)

/-- A parser of `α`. -/
abbrev Parser (α : Type) := StateT State (Except Error) α

/-- Fails when the condition does not hold. -/
def must (holds : Bool) : Parser Unit := fun s => (require holds).map (·, s)

/-- The token ahead, none at the end. -/
def peek : Parser (Option Token) := do
  let s ← get
  match s.tokens.list, s.tokens.fault with
  | [], some e => throw e
  | ts, _ => return ts.head?

/-- Is one of the given tokens ahead? -/
def isAhead (ts : List Token) : Parser Bool := return (← peek).any ts.contains

/-- Go past the token ahead. -/
def skip : Parser Unit :=
  modify fun s => { s with tokens := { s.tokens with list := s.tokens.list.tail } }

/-- Go past the given token, which must be ahead. -/
def expect (t : Token) : Parser Unit := do
  must (← isAhead [t])
  skip

/-- Go past the given token if it is ahead, and tell whether it is. -/
def pass (t : Token) : Parser Bool := do
  if ← isAhead [t] then skip; return true
  else return false

/-! ## Nodes -/

/-- A new node under a number of its own. -/
def add (n : Node) : Parser Nat :=
  modifyGet fun s => (s.nodes.size, { s with nodes := s.nodes.push n })

/-- Put a node under a number. -/
def put (id : Nat) (n : Node) : Parser Unit := modify fun s => { s with nodes := s.nodes.put id n }

/-- The node that is ahead, unless one of the given tokens is, which leave it empty. -/
def orEmpty (node : Parser Nat) (ends : List Token) : Parser Nat := do
  if ← isAhead ends then add .empty else node

/-- The items of a block sequence, each behind its dash. -/
def blockItems (node : Parser Nat) (ends : List Token) :
    (fuel : Nat) → (before : List Nat) → Parser (List Nat)
  | 0, _ => throw .malformed
  | fuel + 1, before => do
    if ← pass .blockEntry then
      let n ← orEmpty node ends
      blockItems node ends fuel (n :: before)
    else return before.reverse

/-- The tokens that leave the key or value of a block mapping empty. -/
def blockEnds : List Token := [.key, .value, .blockEnd]

/-- The entries of a block mapping. -/
def blockEntries (node : Parser Nat) :
    (fuel : Nat) → (before : List (Nat × Nat)) → Parser (List (Nat × Nat))
  | 0, _ => throw .malformed
  | fuel + 1, before => do
    if ← pass .key then
      let k ← orEmpty node blockEnds
      let v ← if ← pass .value then orEmpty node blockEnds else add .empty
      blockEntries node fuel ((k, v) :: before)
    else
      expect .blockEnd
      return before.reverse

/-- The pair behind a key's token inside of brackets that close with `close`. -/
def flowPair (node : Parser Nat) (close : Token) : Parser (Nat × Nat) := do
  let k ← orEmpty node [.value, .flowEntry, close]
  let v ← if ← pass .value then orEmpty node [.flowEntry, close] else add .empty
  return (k, v)

/-- The items of a sequence in brackets; a pair is a mapping with one entry. -/
def flowItems (node : Parser Nat) : (fuel : Nat) → (before : List Nat) → Parser (List Nat)
  | 0, _ => throw .malformed
  | fuel + 1, before => do
    if ← pass .flowSequenceEnd then return before.reverse
    if !before.isEmpty then expect .flowEntry
    if ← pass .key then
      let id ← add (.mapping none [])
      put id (.mapping none [← flowPair node .flowSequenceEnd])
      flowItems node fuel (id :: before)
    else if ← pass .flowSequenceEnd then return before.reverse
    else
      let n ← node
      flowItems node fuel (n :: before)

/-- The entries of a mapping in braces; a key may lack its value, colon and all. -/
def flowEntries (node : Parser Nat) :
    (fuel : Nat) → (before : List (Nat × Nat)) → Parser (List (Nat × Nat))
  | 0, _ => throw .malformed
  | fuel + 1, before => do
    if ← pass .flowMappingEnd then return before.reverse
    if !before.isEmpty then expect .flowEntry
    if ← pass .key then
      let pair ← flowPair node .flowMappingEnd
      flowEntries node fuel (pair :: before)
    else if ← pass .flowMappingEnd then return before.reverse
    else
      let k ← node
      let v ← add .empty
      flowEntries node fuel ((k, v) :: before)

/-! ## Properties -/

/-- The name that an anchor ahead gives. -/
def anchor? : Parser (Option Text) := do
  match ← peek with
  | some (.anchor a) => skip; return some a
  | _ => return none

/-- The tag ahead. -/
def tag? : Parser (Option WrittenTag) := do
  match ← peek with
  | some (.tag t) => skip; return some t
  | _ => return none

/-- A tag in full. -/
def fullTag (t : WrittenTag) : Parser Text := do
  match t.handle with
  | none => return t.text
  | some h =>
    match (← get).handles.lookup h with
    | some meaning => return meaning ++ t.text
    | none => throw .malformed

/-- The anchor and the tag in front of a node, in either order. -/
def properties : Parser (Option Text × Option Text) := do
  let before ← anchor?
  let tag ← tag?
  let anchor ← if before.isNone && tag.isSome then anchor? else pure before
  return (anchor, ← tag.mapM fullTag)

/-- Give the node of a number its name, if it has one. -/
def give (anchor : Option Text) (id : Nat) : Parser Unit :=
  match anchor with
  | some a => modify fun s => { s with anchors := (a, id) :: s.anchors }
  | none => pure ()

/-- The node that an alias stands for. -/
def named (name : Text) : Parser Nat := do
  match (← get).anchors.lookup name with
  | some id => return id
  | none => throw .malformed

/-- A sequence with the items that are ahead. -/
def sequenceOf (anchor tag : Option Text) (items : Parser (List Nat)) : Parser Nat := do
  let id ← add (.sequence tag [])
  give anchor id
  put id (.sequence tag (← items))
  return id

/-- A mapping with the entries that are ahead. -/
def mappingOf (anchor tag : Option Text) (entries : Parser (List (Nat × Nat))) : Parser Nat := do
  let id ← add (.mapping tag [])
  give anchor id
  put id (.mapping tag (← entries))
  return id

/-- A scalar. -/
def scalarOf (anchor tag : Option Text) (style : ScalarStyle) (t : Text) : Parser Nat := do
  let id ← add (.scalar tag style t)
  give anchor id
  return id

/-- The node ahead, behind its properties. A block sequence need not be indented where `bare`, as it
    need not in a block mapping; `node` parses the nodes inside, bare or not, of which there are
    fewer than `fuel`. -/
def content (fuel : Nat) (node : Bool → Parser Nat) (bare : Bool) (anchor tag : Option Text) :
    Parser Nat := do
  let s ← get
  let t ← peek
  let isDash := match t with
    | some .blockEntry => true
    | _ => false
  let isContent := match t with
    | some (.scalar _ _) | some .flowSequenceStart | some .flowMappingStart => true
    | some .blockSequenceStart | some .blockMappingStart => true
    | _ => bare && isDash
  must (isContent || anchor.isSome || tag.isSome)
  must (!anchor.any fun a => (s.anchors.lookup a).isSome)
  match t with
  | some (.scalar style text) =>
    skip
    scalarOf anchor tag style text
  | some .flowSequenceStart =>
    sequenceOf anchor tag do
      skip
      flowItems (node false) fuel []
  | some .flowMappingStart =>
    mappingOf anchor tag do
      skip
      flowEntries (node false) fuel []
  | some .blockSequenceStart =>
    sequenceOf anchor tag do
      skip
      let items ← blockItems (node false) [.blockEntry, .blockEnd] fuel []
      expect .blockEnd
      return items
  | some .blockMappingStart =>
    mappingOf anchor tag do
      skip
      blockEntries (node true) fuel []
  | _ =>
    if bare && isDash then
      sequenceOf anchor tag
        (blockItems (node false) [.blockEntry, .key, .value, .blockEnd] fuel [])
    else scalarOf anchor tag .plain []

/-- How many nodes can be around each other. A stack of a thousand calls has room for about as many,
    which depends on who asks for the document. -/
def nestingLimit : Nat := 480

/-- The node ahead, with at most `depth` nodes around each other and fewer than `fuel` in each. -/
def node (fuel : Nat) : (depth : Nat) → (bare : Bool) → Parser Nat
  | 0, _ => throw .tooDeep
  | depth + 1, bare => do
    match ← peek with
    | some (.alias name) =>
      skip
      named name
    | _ =>
      let (anchor, tag) ← properties
      content fuel (node fuel depth) bare anchor tag

/-! ## The whole text -/

/-- The handles that have a meaning without a directive. -/
def usualHandles : List (Text × Text) := [("!", "!"), ("!!", "tag:yaml.org,2002:")]

/-- Go past the directives ahead: at most one is of the version, which must be 1, and at most one of
    each handle. The handles that they give a meaning are `handles`. -/
def directives : (fuel : Nat) → (hasVersion : Bool) → (handles : List (Text × Text)) → Parser Unit
  | 0, _, _ => throw .malformed
  | fuel + 1, hasVersion, handles => do
    match ← peek with
    | some (.directive d) =>
      skip
      match d with
      | .version major =>
        must (!hasVersion && major == 1)
        directives fuel true handles
      | .handle h meaning =>
        must (handles.lookup h).isNone
        directives fuel hasVersion ((h, meaning) :: handles)
      | .other => directives fuel hasVersion handles
    | _ => modify fun s => { s with handles := handles ++ usualHandles }

/-- Go past the marks of the end of a document. -/
def documentEnds : (fuel : Nat) → Parser Unit
  | 0 => throw .malformed
  | fuel + 1 => do if ← pass .documentEnd then documentEnds fuel

/-- Is a directive ahead? -/
def isDirectiveAhead : Parser Bool :=
  return match ← peek with
    | some (.directive _) => true
    | _ => false

/-- The number of the outermost node of the one document ahead, if there is any. -/
def whole (fuel : Nat) : Parser (Option Nat) := do
  if (← peek).isNone then return none
  let id ←
    if (← isDirectiveAhead) || (← isAhead [.documentStart]) then
      directives fuel false []
      expect .documentStart
      let isEmpty := (← peek).isNone || (← isDirectiveAhead)
        || (← isAhead [.documentStart, .documentEnd])
      if isEmpty then add .empty else node fuel nestingLimit false
    else node fuel nestingLimit false
  documentEnds fuel
  if (← peek).isSome then
    directives fuel false []
    throw .malformed
  return some id

/-- The document that the tokens make up, if they make up any. -/
def ofTokens (tokens : Tokens) : Except Error (Option Document) := do
  let (id, s) ← (whole (tokens.list.length + 2)).run ⟨tokens, #[], [], usualHandles⟩
  return id.map fun id => ⟨s.nodes, id⟩

end Document

end GridGauge.Yaml
