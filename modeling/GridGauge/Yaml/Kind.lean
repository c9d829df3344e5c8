import GridGauge.Yaml.Document
import GridGauge.Yaml.Implicit

/-!
# The types of nodes

A node has the type that its tag names, whatever kind of node it is: whether it
can be of that type shows when it is read. Without a tag, or with an
exclamation mark as its tag, a plain scalar has the type that it looks like,
and other nodes have the type of their kind.

Where a mapping is to be a scalar, it stands for the text under its key `=`.
-/

namespace GridGauge.Yaml

/-- The types of nodes. -/
inductive NodeType
  | scalar (kind : ScalarKind)
  | sequence
  /-- A sequence of pairs. -/
  | pairs
  | mapping
  | set
  deriving DecidableEq, Repr

/-- How the tags of the common types start. -/
def commonTagStart : Text := "tag:yaml.org,2002:"

/-- The tag of a text. -/
def textTag : Text := commonTagStart ++ "str"

namespace NodeType

/-- The types by the short names of their tags. -/
def named : List (Text × NodeType) :=
  [("null", .scalar .null), ("bool", .scalar .truth), ("int", .scalar .integer),
    ("float", .scalar .number), ("str", .scalar .text), ("binary", .scalar .bytes),
    ("timestamp", .scalar .moment), ("merge", .scalar .merge), ("value", .scalar .value),
    ("seq", .sequence), ("omap", .pairs), ("pairs", .pairs), ("map", .mapping), ("set", .set)]

/-- The type that a tag names. An exclamation mark leaves it to the node, as no tag does. -/
def ofTag? (own : NodeType) : (tag : Option Text) → Option NodeType
  | none => some own
  | some tag =>
    if tag == "!" then some own
    else if Text.startsWith tag commonTagStart then
      List.lookup (tag.drop commonTagStart.length) named
    else none

end NodeType

namespace Node

/-- The type of the node, if its tag is that of one. -/
def type? : Node → Option NodeType
  | .scalar none .quoted _ => some (.scalar .text)
  | .scalar tag _ t => NodeType.ofTag? (.scalar (kindOf t)) tag
  | .sequence tag _ => NodeType.ofTag? .sequence tag
  | .mapping tag _ => NodeType.ofTag? .mapping tag

/-- The node with another tag. -/
def withTag (tag : Text) : Node → Node
  | .scalar _ style t => .scalar (some tag) style t
  | .sequence _ items => .sequence (some tag) items
  | .mapping _ es => .mapping (some tag) es

/-- Is the node the key under which mappings are merged? -/
def isMergeKey (n : Node) : Bool := n.type? == some (.scalar .merge)

/-- Is the node the key of the text that a mapping stands for? -/
def isValueKey (n : Node) : Bool := n.type? == some (.scalar .value)

/-- The node as a key: the sign of a default value is a text there. -/
def asKey (n : Node) : Node := if n.isValueKey then n.withTag textTag else n

end Node

end GridGauge.Yaml
