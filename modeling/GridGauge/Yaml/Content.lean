import GridGauge.Bindings
import GridGauge.Yaml.Merge

/-!
# What the nodes of a document hold

Each node comes to hold a scalar, a sequence, the entries of a mapping, with
one value for each key, or the elements of a set. This is found out level by
level: of a collection all scalars in it are read, and the collections in it
have to wait for their turn. So the fault that is met first need not be the
first in the text.

A node that is not of the kind that its type asks for is found out in its turn,
if the type is that of a collection, and at once, if it is that of a scalar. A
mapping or set takes in what is merged into it when it has its turn.
-/

namespace GridGauge.Yaml

/-- Why no settings can be made of a text. -/
inductive Failure
  /-- The text is no document of the kinds read here. -/
  | malformed
  /-- An escape has a number that no code point has. -/
  | noCodePoint (code : Nat)
  /-- Nodes are nested too deep, or without end. -/
  | tooDeep
  /-- There is no reading on. -/
  | ended
  /-- A scalar that looks like a number, a date or a time is none. -/
  | scalar (e : ScalarError)
  deriving DecidableEq, Repr

/-- What is wrong with a text, as the failure to make settings of it. -/
def Error.failure : Error → Failure
  | .malformed => .malformed
  | .noCodePoint code => .noCodePoint code
  | .tooDeep => .tooDeep
  | .ended => .ended

/-- The scalar that the text of the node `id` is, if it is of this kind. -/
def scalarOfKind (id : Nat) (t : Text) (kind : ScalarKind) : Except Failure Scalar :=
  match scalar? id t kind with
  | .ok (some s) => .ok s
  | .ok none => .error .malformed
  | .error e => .error (.scalar e)

/-- The text of a node that is to be a scalar. A mapping may stand for another node, and `fuel`
    bounds how often. -/
def Nodes.textOf (ns : Nodes) : (fuel : Nat) → (id : Nat) → Except Failure Text
  | 0, _ => .error .tooDeep
  | fuel + 1, id =>
    match ns.node id with
    | .scalar _ _ t => .ok t
    | .sequence _ _ => .error .malformed
    | .mapping _ es =>
      match es.find? fun e => (ns.node e.1).isValueKey with
      | some (_, named) => textOf ns fuel named
      | none => .error .malformed

/-- The scalar that a node is, if it is of this kind. Of a date or time the text must be its own. -/
def Nodes.scalar (ns : Nodes) (id : Nat) (kind : ScalarKind) : Except Failure Scalar := do
  let t ← ns.textOf (ns.size + 1) id
  match ns.node id, kind with
  | .mapping _ _, .moment => throw (.scalar .noText)
  | _, _ => scalarOfKind id t kind

/-! ## Level by level -/

/-- An item of a sequence: a node, or a pair of them. -/
inductive Item
  | node (id : Nat)
  | pair (key value : Nat)
  deriving DecidableEq, Repr

/-- What a node holds; what is in it is given by numbers. -/
inductive Content where
  | scalar (s : Scalar)
  | sequence (items : List Item)
  | mapping (entries : Bindings Scalar Nat)
  | set (elements : List Scalar)
  deriving Repr, Inhabited

/-- What a collection of a type holds before anything in it has been read. -/
def NodeType.emptyContent : NodeType → Content
  | .scalar _ => .scalar .null
  | .sequence | .pairs => .sequence []
  | .mapping => .mapping []
  | .set => .set []

/-- What has been found out. -/
structure Findings where
  nodes : Nodes
  /-- What the nodes hold; a collection whose turn is to come is empty so far. -/
  contents : Array (Option Content)
  /-- The collections that have been come upon, the first first. -/
  collections : Array Nat

namespace Findings

/-- What the node of a number holds, if it is known. -/
def at? (f : Findings) (id : Nat) : Option Content := f.contents.getD id none

/-- The findings with what a node holds. -/
def put (f : Findings) (id : Nat) (c : Content) : Findings :=
  { f with contents := f.contents.setIfInBounds id (some c) }

/-- The findings with a collection that has to wait for its turn. -/
def wait (f : Findings) (id : Nat) (c : Content) : Findings :=
  { f.put id c with collections := f.collections.push id }

/-- The findings after coming upon a node. -/
def reach (f : Findings) (id : Nat) : Except Failure Findings :=
  if (f.at? id).isSome then .ok f
  else match (f.nodes.node id).type? with
    | none | some (.scalar .merge) | some (.scalar .value) => .error .malformed
    | some (.scalar kind) => return f.put id (.scalar (← f.nodes.scalar id kind))
    | some type => .ok (f.wait id type.emptyContent)

/-- The findings after coming upon a node as a key, which must be a scalar, and that scalar. -/
def reachKey (f : Findings) (id : Nat) : Except Failure (Findings × Scalar) := do
  let f ← f.reach id
  match f.at? id with
  | some (.scalar s) => return (f, s)
  | _ => throw .malformed

/-- The findings after coming upon a node that must be a mapping with one entry, and that entry. -/
def reachPair (f : Findings) (id : Nat) : Except Failure (Findings × Item) :=
  match f.nodes.node id with
  | .mapping _ [(k, v)] => do return (← (← f.reach k).reach v, .pair k v)
  | _ => .error .malformed

/-- The findings after coming upon all in a mapping, and its entries. What it names is merged into
    it first. -/
def reachEntries (f : Findings) (id : Nat) : Except Failure (Findings × Bindings Scalar Nat) := do
  let nodes ← (f.nodes.merge id).mapError Error.failure
  let (_, es) ← (nodes.mapping id).mapError Error.failure
  es.foldlM (fun (f, entries) (k, v) => do
      let (f, key) ← reachKey f k
      return (← f.reach v, Bindings.put entries key v))
    ({ f with nodes }, ([] : Bindings Scalar Nat))

/-- The findings after coming upon all pairs of a sequence, and the pairs. -/
def reachPairs (f : Findings) (items : List Nat) : Except Failure (Findings × List Item) :=
  items.foldlM (fun (f, pairs) id => do
      let (f, pair) ← f.reachPair id
      return (f, pairs ++ [pair]))
    (f, [])

/-- The findings after the turn of a collection. -/
def turn (f : Findings) (id : Nat) : Except Failure Findings :=
  match (f.nodes.node id).type?, f.nodes.node id with
  | some .sequence, .sequence _ items =>
    return (← items.foldlM reach f).put id (.sequence (items.map .node))
  | some .pairs, .sequence _ items => do
    let (f, pairs) ← f.reachPairs items
    return f.put id (.sequence pairs)
  | some .mapping, .mapping _ _ => do
    let (f, entries) ← f.reachEntries id
    return f.put id (.mapping entries)
  | some .set, .mapping _ _ => do
    let (f, entries) ← f.reachEntries id
    return f.put id (.set (entries.map Prod.fst))
  | _, _ => .error .malformed

/-- The findings after the turns of all collections from a place in their order on. -/
def finish : (fuel : Nat) → (place : Nat) → Findings → Except Failure Findings
  | 0, _, f => .ok f
  | fuel + 1, place, f =>
    match f.collections[place]? with
    | some id => do finish fuel (place + 1) (← f.turn id)
    | none => .ok f

/-- What the nodes of a document hold. -/
def ofDocument (d : Document) : Except Failure Findings := do
  let f : Findings := ⟨d.nodes, Array.replicate d.nodes.size none, #[]⟩
  finish (d.nodes.size + 1) 0 (← f.reach d.root)

end Findings

end GridGauge.Yaml
