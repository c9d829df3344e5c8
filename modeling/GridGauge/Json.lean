import GridGauge.Bindings
import GridGauge.Number.Binary64

/-!
# JSON values

The values a JSON text stands for. Integers and floating-point numbers are
told apart by how they are written, so `1` and `1.0` are different values. An
object keeps its members in order; the reader never makes one with a key
twice.
-/

namespace GridGauge

/-- A JSON value. -/
inductive Json where
  | null
  | bool (b : Bool)
  | int (n : Int)
  | float (x : Binary64)
  | string (t : Text)
  | array (items : List Json)
  | object (members : List (Text × Json))
  deriving Repr, Inhabited

/-- The members of a JSON object. -/
abbrev Members := Bindings Text Json

namespace Json

/-- The kinds of values, as messages tell them apart. -/
inductive Kind
  | null
  | boolean
  | number
  | string
  | array
  | object
  deriving DecidableEq, Repr

/-- The kind of a value. -/
def kind : Json → Kind
  | .null => .null
  | .bool _ => .boolean
  | .int _ | .float _ => .number
  | .string _ => .string
  | .array _ => .array
  | .object _ => .object

/-- The name of a kind in messages. -/
def Kind.name : Kind → Text
  | .null => "NoneType"
  | .boolean => "boolean"
  | .number => "number"
  | .string => "string"
  | .array => "array"
  | .object => "object"

end Json

end GridGauge
