import GridGauge.Settings.Tree
import GridGauge.Yaml.Content

/-!
# Settings in YAML

What a YAML text sets: the outermost node of its document, with all that is
inside. A sequence or mapping that an alias stands for is the same setting in
several places, which the marks tell of it and of what is in it. Where it is
inside of itself, the setting goes round and round, and is unfolded as far as
to the place where it comes again.

Marks are the numbers of nodes above some number that differs from file to
file, and so are the numbers of keys that are the same only as themselves.
-/

namespace GridGauge.Yaml

/-- What a text sets. -/
structure Outcome where
  setting : Setting
  /-- A number above those of all marks. -/
  marks : Nat
  /-- Is something inside of itself? -/
  loops : Bool
  deriving Repr, Inhabited

/-! ## Unfolding -/

/-- In how many places each node is, that of the outermost included. -/
def Findings.places (f : Findings) (root : Nat) : Array Nat :=
  let add (counts : Array Nat) (id : Nat) : Array Nat := counts.modify id (· + 1)
  f.collections.foldl (fun counts id => match f.at? id with
    | some (.sequence items) => items.foldl (fun counts item => match item with
      | .node id => add counts id
      | .pair k v => add (add counts k) v) counts
    | some (.mapping es) => es.foldl (fun counts e => add counts e.2) counts
    | _ => counts) (add (Array.replicate f.contents.size 0) root)

/-- What has been unfolded. -/
structure Unfolded where
  /-- The settings of marked nodes, where nothing around them comes again inside. -/
  settings : Array (Option Setting)
  /-- Has something come again inside of itself? -/
  loops : Bool

/-- The setting of a sequence or mapping, and which of those around it come again inside, `again`
    being those that come again in what is in it. Its mark, if it gets one, is `mark`. -/
def settle (mark : Option Nat) (id : Nat) (again : List Nat) (setting : Option Mark → Setting) :
    StateM Unfolded (Setting × List Nat) := do
  let recurs := again.contains id
  let v := setting (mark.map (⟨·, recurs⟩))
  let again := (again.filter (· != id)).eraseDups
  modify fun u => { u with loops := u.loops || recurs }
  if mark.isSome && again.isEmpty then
    modify fun u => { u with settings := u.settings.setIfInBounds id (some v) }
  return (v, again)

/-- The setting of a node inside the nodes `outer`, of which one is in several places if `isShared`,
    and which of those come again in it. Marks are the numbers of nodes above `first`, and `depth`
    bounds the nodes around each other. -/
def unfold (f : Findings) (places : Array Nat) (first : Nat) :
    (depth : Nat) → (isShared : Bool) → (outer : List Nat) → Nat →
      StateM Unfolded (Setting × List Nat)
  | 0, _, _, _ => return (.scalar .null, [])
  | depth + 1, isShared, outer, id => do
    if let some v := (← get).settings.getD id none then return (v, [])
    let isShared := isShared || 1 < places.getD id 0
    let mark := if isShared then some (first + id) else none
    match f.at? id with
    | none => return (.scalar .null, [])
    | some (.scalar s) => return (.scalar s.asValue, [])
    | some (.set elements) => return (.set (elements.map (Scalar.above first)), [])
    | some (.sequence items) =>
      if outer.contains id then return (.again (first + id) false, [id])
      let items ← items.mapM fun
        | .node id' => unfold f places first depth isShared (id :: outer) id'
        | .pair k v => do
          let (k, again) ← unfold f places first depth isShared (id :: outer) k
          let (v, again') ← unfold f places first depth isShared (id :: outer) v
          return (.pair k v, again ++ again')
      settle mark id (items.flatMap (·.2)) fun mark => .sequence mark (items.map (·.1))
    | some (.mapping es) =>
      if outer.contains id then return (.again (first + id) true, [id])
      let es ← es.mapM fun (k, v) =>
        return (k.above first, ← unfold f places first depth isShared (id :: outer) v)
      settle mark id (es.flatMap (·.2.2)) fun mark => .mapping mark (es.map fun (k, v, _) => (k, v))

/-- What a document sets, with marks from `first` on. -/
def ofDocument (first : Nat) (d : Document) : Except Failure Outcome := do
  let f ← Findings.ofDocument d
  let n := d.nodes.size
  let ((v, _), u) :=
    (unfold f (f.places d.root) first (n + 1) false [] d.root).run ⟨Array.replicate n none, false⟩
  return ⟨v, first + n, u.loops⟩

/-- What a text sets, with marks from `first` on. One that is cut off can be read only as long as
    its end does not matter; an empty one sets a null. -/
def read (first : Nat) (isCut : Bool) (t : Text) : Except Failure Outcome := do
  match ← (Document.ofTokens (Token.scan isCut t)).mapError Error.failure with
  | some d => ofDocument first d
  | none => return ⟨.scalar .null, first, false⟩

end GridGauge.Yaml
