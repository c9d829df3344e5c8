import GridGauge.Encoding.Fault
import GridGauge.Number.Shortest
import GridGauge.Timestamp

/-!
# Scalars

The values without parts that a setting can have: beside nothing, truth values,
numbers and texts there are bytes, dates and times.

Scalars are also the keys of mappings. As keys some are the same that are
written in different ways (`Scalar.Identity`): numbers when they are equal,
true and false being one and zero, and times with an offset when they name one
instant. What is not a number is another matter: nothing is equal to it, so
that as a key it is the same only as itself, and there may be several that
differ in nothing but that.
-/

namespace GridGauge

/-- A value without parts. -/
inductive Scalar
  | null
  | bool (b : Bool)
  | int (n : Int)
  | float (x : Binary64)
  | text (t : Text)
  | bytes (bs : Bytes)
  | date (d : Date)
  | dateTime (d : Timestamp)
  /-- What is not a number, as a key that is the same only as itself. -/
  | ownNaN (number : Nat)
  deriving DecidableEq, Repr, Inhabited

namespace Scalar

/-- What a scalar is taken for as a key. -/
inductive Identity
  | number (n : Int)
  /-- A time, in microseconds. -/
  | instant (time : Int)
  | itself (s : Scalar)
  deriving DecidableEq, Repr

/-- What the scalar is taken for as a key. -/
def identity : Scalar → Identity
  | .bool b => .number (if b then 1 else 0)
  | .int n => .number n
  | .float x => (x.toInt?.map .number).getD (.itself (.float x))
  | .dateTime d => (d.instant?.map .instant).getD (.itself (.dateTime d))
  | s => .itself s

/-- Are the scalars the same as keys? -/
def sameKey (a b : Scalar) : Bool := a.identity == b.identity

instance (priority := high) instKeyBEq : BEq Scalar := ⟨sameKey⟩

theorem beq_iff_identity_eq {a b : Scalar} : (a == b) = true ↔ a.identity = b.identity := by
  show (a.identity == b.identity) = true ↔ _
  exact beq_iff_eq

instance : EquivBEq Scalar where
  rfl := beq_iff_identity_eq.2 rfl
  symm h := beq_iff_identity_eq.2 (beq_iff_identity_eq.1 h).symm
  trans hab hbc :=
    beq_iff_identity_eq.2 ((beq_iff_identity_eq.1 hab).trans (beq_iff_identity_eq.1 hbc))

/-- The scalar as a value. What is not a number is all the same there. -/
def asValue : Scalar → Scalar
  | .ownNaN _ => .float .nan
  | s => s

/-- The scalar with its number, if it has one of its own, counted from `first` on. -/
def above (first : Nat) : Scalar → Scalar
  | .ownNaN number => .ownNaN (first + number)
  | s => s

end Scalar

end GridGauge
