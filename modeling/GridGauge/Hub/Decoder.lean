import GridGauge.Json
import GridGauge.Timestamp.Reader

/-!
# Decoding the hub's documents

A decoder takes a JSON value to a part of a document. The hub's schema is read
loosely: null stands for the part's empty value, an absent member is a null,
and members nobody asks for do not count. A value of the wrong kind is a
mismatch, which says where the value is and what is wrong with it.

A decoder knows nothing of the place of its value: the decoders of members and
items put their step in front of the place of a mismatch inside them, so the
path is built where the structure is walked (`field`, `Decoder.list`).
-/

namespace GridGauge

namespace Hub

/-- A step from a value to one inside it. -/
inductive Step
  /-- To the member of this name. -/
  | key (name : Text)
  /-- To the item at this position. -/
  | index (i : Nat)
  deriving DecidableEq, Repr

/-- A step in writing. -/
def Step.text : Step → Text
  | .key name => 0x2E :: name
  | .index i => "[" ++ Text.ofNat i ++ "]"

/-- The way from a value to one inside it. -/
abbrev Path := List Step

/-- The path in writing, behind the name of the value it starts from. -/
def Path.text (root : Text) (p : Path) : Text := root ++ p.flatMap Step.text

/-- What a value should be. -/
inductive Expected
  | object
  | array
  | string
  | boolean
  | integer
  | timestamp
  deriving DecidableEq, Repr

/-- The expectation in words. -/
def Expected.name : Expected → Text
  | .object => "object"
  | .array => "array"
  | .string => "string"
  | .boolean => "boolean"
  | .integer => "integer"
  | .timestamp => "timestamp string"

/-- What is wrong with a value. -/
inductive Reason
  /-- It is of another kind. -/
  | kind (expected : Expected) (got : Json.Kind)
  /-- It is a number below zero. -/
  | negative (n : Int)
  /-- It is a text that names no time. -/
  | timestamp (t : Text)
  deriving DecidableEq, Repr

/-- The reason in words. -/
def Reason.message : Reason → Text
  | .kind expected got => "expected " ++ expected.name ++ ", got " ++ got.name
  | .negative n => "expected non-negative integer, got " ++ Text.ofInt n
  | .timestamp t => "invalid timestamp " ++ Text.Quoted.encode t

/-- A value that the schema does not allow where it is. -/
structure Mismatch where
  /-- The way to the value. -/
  path : Path
  /-- What is wrong with it. -/
  reason : Reason
  deriving DecidableEq, Repr

/-- The same mismatch seen from one step further out. -/
def Mismatch.under (s : Step) (m : Mismatch) : Mismatch := { m with path := s :: m.path }

/-- A decoder of values into `α`. -/
abbrev Decoder (α : Type) := Json → Except Mismatch α

/-- The outcome of decoding a value that is no further in than its decoder. -/
def refuse {α : Type} (r : Reason) : Except Mismatch α := .error ⟨[], r⟩

/-- The value of a member, decoded. An absent member is a null. -/
def field {α : Type} (o : Members) (name : Text) (d : Decoder α) :
    Except Mismatch α :=
  (d ((o.find? name).getD .null)).mapError (·.under (.key name))

namespace Decoder

/-- An object. Null is the object without members. -/
def object : Decoder Members
  | .null => .ok []
  | .object o => .ok o
  | v => refuse (.kind .object v.kind)

/-- A text. Null is the empty text. -/
def text : Decoder Text
  | .null => .ok []
  | .string t => .ok t
  | v => refuse (.kind .string v.kind)

/-- A truth value. Null is false. -/
def boolean : Decoder Bool
  | .null => .ok false
  | .bool b => .ok b
  | v => refuse (.kind .boolean v.kind)

/-- An integer that is not negative. Null is zero. -/
def count : Decoder Nat
  | .null => .ok 0
  | .int (.ofNat n) => .ok n
  | .int n => refuse (.negative n)
  | v => refuse (.kind .integer v.kind)

/-- A time. Null is none. -/
def timestamp : Decoder (Option Timestamp)
  | .null => .ok none
  | .string t =>
    match Timestamp.ofText t with
    | .ok d => .ok (some d)
    | .error _ => refuse (.timestamp t)
  | v => refuse (.kind .timestamp v.kind)

/-- An object whose members are kept as they are, or null. -/
def bag : Decoder (Option Members)
  | .null => .ok none
  | .object o => .ok (some o)
  | v => refuse (.kind .object v.kind)

/-- What `d` decodes, or null. -/
def optional {α : Type} (d : Decoder α) : Decoder (Option α)
  | .null => .ok none
  | v => (d v).map some

/-- The items of an array from position `i` on. -/
def items {α : Type} (d : Decoder α) : (i : Nat) → List Json → Except Mismatch (List α)
  | _, [] => .ok []
  | i, v :: rest => do
    let a ← (d v).mapError (·.under (.index i))
    let as ← items d (i + 1) rest
    return a :: as

/-- An array of what `d` decodes. Null is the array without items. -/
def list {α : Type} (d : Decoder α) : Decoder (List α)
  | .null => .ok []
  | .array vs => items d 0 vs
  | v => refuse (.kind .array v.kind)

end Decoder

end Hub

end GridGauge
