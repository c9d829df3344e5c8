import GridGauge.Literal.Number

/-!
# Expressions

An expression as a tree, as far as it matters whether it is a literal. Of all
that is not, only its kind is kept.
-/

namespace GridGauge.Literal

/-- What an expression is that is no part of a literal. -/
inductive OtherKind
  | attribute
  | call
  | andOr
  | binary
  | unary
  | comparison
  | conditional
  | function
  | each
  | eachOfSet
  | eachOfDictionary
  | hand
  | handAll
  | wait
  | fields
  | named
  deriving DecidableEq, Repr

/-- An expression. -/
inductive Node
  | name (t : Text)
  | number (n : Numeral)
  | text
  | octets
  /-- One of the constants with a name. -/
  | constant (name : Text)
  | ellipsis
  | tuple (items : List Node)
  | set (items : List Node)
  /-- A dictionary with its entries. -/
  | dictionary (entries : List Node)
  /-- A key and its value. Where there is no key, the value is another dictionary. -/
  | entry (key value : Node)
  /-- What stands for a key where there is none. -/
  | noKey
  /-- A sign in front. -/
  | signed (x : Node)
  /-- A sum or a difference. -/
  | sum (x y : Node)
  | starred (x : Node)
  /-- The empty set. -/
  | emptySet
  /-- A comparison, with what stands first in it. -/
  | within (x : Node)
  /-- Arguments of a call: how many there are without a name, and whether two stars are among
      those with one. -/
  | arguments (count : Nat) (unpacking : Bool)
  | other (kind : OtherKind)
  deriving Repr

namespace Node

/-- The node in messages. -/
def described : Node → Text
  | name _ => "name"
  | number _ | text | octets => "literal"
  | constant t => t
  | ellipsis => "ellipsis"
  | tuple _ => "tuple"
  | set _ => "set display"
  | dictionary _ => "dict literal"
  | signed _ | sum _ _ => "expression"
  | starred _ => "starred"
  | emptySet => "function call"
  | within _ => "comparison"
  | entry _ _ | noKey | arguments _ _ => ""
  | other kind => match kind with
    | .attribute => "attribute"
    | .call => "function call"
    | .andOr | .binary | .unary => "expression"
    | .comparison => "comparison"
    | .conditional => "conditional expression"
    | .function => "lambda"
    | .each => "generator expression"
    | .eachOfSet => "set comprehension"
    | .eachOfDictionary => "dict comprehension"
    | .hand | .handAll => "yield expression"
    | .wait => "await expression"
    | .fields => "f-string expression"
    | .named => "named expression"

/-- The name of the kind of the node. -/
def kindName : Node → Text
  | name _ => "Name"
  | number _ | text | octets | constant _ | ellipsis => "Constant"
  | tuple _ => "Tuple"
  | set _ => "Set"
  | dictionary _ => "Dict"
  | signed _ => "UnaryOp"
  | sum _ _ => "BinOp"
  | starred _ => "Starred"
  | emptySet => "Call"
  | within _ => "Compare"
  | entry _ _ | noKey | arguments _ _ => "None"
  | other kind => match kind with
    | .attribute => "Attribute"
    | .call => "Call"
    | .andOr => "BoolOp"
    | .binary => "BinOp"
    | .unary => "UnaryOp"
    | .comparison => "Compare"
    | .conditional => "IfExp"
    | .function => "Lambda"
    | .each => "GeneratorExp"
    | .eachOfSet => "SetComp"
    | .eachOfDictionary => "DictComp"
    | .hand => "Yield"
    | .handAll => "YieldFrom"
    | .wait => "Await"
    | .fields => "JoinedStr"
    | .named => "NamedExpr"

mutual

/-- What is in a node that cannot stand for each of some others, if anything. -/
def strayTarget? : Node → Option Node
  | name _ => none
  | tuple items => strayTargetIn? items
  | starred x => strayTarget? x
  | within x => strayTarget? x
  | other .attribute | other .comparison => none
  | x => some x

/-- The same for nodes one after the other. -/
def strayTargetIn? : List Node → Option Node
  | [] => none
  | x :: xs => (strayTarget? x).or (strayTargetIn? xs)

end

end Node

end GridGauge.Literal
