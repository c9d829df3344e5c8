import GridGauge.Yaml.Token

/-!
# The nodes of a YAML document

A document is made of scalars, sequences and mappings. Its nodes stand in a
table, and what is inside a sequence or mapping is told by its place there: a
node can be in several places, and even inside of itself.
-/

namespace GridGauge.Yaml

/-- A node of a document, with its tag if it has one. -/
inductive Node where
  | scalar (tag : Option Text) (style : ScalarStyle) (text : Text)
  | sequence (tag : Option Text) (items : List Nat)
  | mapping (tag : Option Text) (entries : List (Nat × Nat))
  deriving DecidableEq, Repr, Inhabited

/-- The node that nothing is written for. -/
def Node.empty : Node := .scalar none .plain []

/-- The nodes of a document. -/
abbrev Nodes := Array Node

namespace Nodes

/-- The node of a number. -/
def node (ns : Nodes) (id : Nat) : Node := ns.getD id .empty

/-- The nodes with another one under a number. -/
def put (ns : Nodes) (id : Nat) (n : Node) : Nodes := ns.setIfInBounds id n

/-- The number of entries of all mappings. -/
def entryCount (ns : Nodes) : Nat :=
  ns.foldl (fun count n => match n with
    | .mapping _ es => count + es.length
    | _ => count) 0

end Nodes

end GridGauge.Yaml
