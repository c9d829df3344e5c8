import GridGauge.Yaml.Kind

/-!
# Mappings merged into others

Under the key `<<` a mapping names another one, or a sequence of them, whose
entries it takes in: they come in front of its own, and its own win. Of a
sequence the last mapping comes first.

Merging changes the table of nodes: a mapping loses these keys and gains the
entries, and so do the mappings it names, which may name others in turn, or
the one they are named by. Each of these keys is dealt with once, which bounds
the recursion.
-/

namespace GridGauge.Yaml

namespace Nodes

/-- The tag and the entries of a node that must be a mapping. -/
def mapping (ns : Nodes) (id : Nat) : Except Error (Option Text × List (Nat × Nat)) :=
  match ns.node id with
  | .mapping tag es => .ok (tag, es)
  | _ => .error .malformed

/-- The mappings that a node merges into another, the last first: itself, or those in it. -/
def merged (ns : Nodes) (id : Nat) : List Nat :=
  match ns.node id with
  | .sequence _ items => items.reverse
  | _ => [id]

/-- The nodes after merging into the mapping `id`, to whose own entries `before` is still
    to come. -/
def mergeFrom : (fuel : Nat) → (id : Nat) → (before : List (Nat × Nat)) → Nodes →
    Except Error Nodes
  | 0, _, _, _ => .error .malformed
  | fuel + 1, id, before, ns => do
    let (tag, es) ← ns.mapping id
    match es.span fun e => !(ns.node e.1).isMergeKey with
    | (_, []) =>
      let ns := es.foldl (fun ns e => ns.put e.1 (ns.node e.1).asKey) ns
      return ns.put id (.mapping tag (before ++ es))
    | (front, (_, named) :: behind) =>
      let ns := ns.put id (.mapping tag (front ++ behind))
      let others := ns.merged named
      let ns ← others.reverse.foldlM (fun ns other => mergeFrom fuel other [] ns) ns
      let taken ← others.mapM fun other => return (← ns.mapping other).2
      mergeFrom fuel id (before ++ taken.flatten) ns

/-- The nodes after merging into a mapping what it names. -/
def merge (ns : Nodes) (id : Nat) : Except Error Nodes := mergeFrom (ns.entryCount + 1) id [] ns

end Nodes

end GridGauge.Yaml
