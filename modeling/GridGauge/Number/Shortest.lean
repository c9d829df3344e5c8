import GridGauge.Number.Binary64

/-!
# Shortest decimals

The text of a floating-point number is the shortest decimal that reads back
as the number, and of several the nearest to it. `shortest?` looks for it on
grids of one digit, two digits and so on up to seventeen, which always
suffice; on each grid only the two neighbours of the number can read back
unless all points between them do.

How the digits are laid out is a matter of the format: a `Layout` says up to
which exponents the digits are written positionally, and the rest is common.
-/

namespace GridGauge

/-- The number `digits * 10 ^ exponent`. -/
structure Decimal where
  /-- The digits, read as a natural number. -/
  digits : Nat
  /-- The power of ten of the last digit. -/
  exponent : Int
  deriving DecidableEq, Repr, Inhabited

namespace Binary64

variable (x : Binary64)

/-- The power of ten of the first digit of `num / den`, both not zero. Below one, that is minus
    the least `k` with `den / num ≤ 10 ^ k`, which is the number of figures of the quotient,
    rounded up, less one. -/
def leadingPower (num den : Nat) : Int :=
  if den ≤ num then ((Nat.toDigits 10 (num / den)).length : Int) - 1
  else -((Nat.toDigits 10 ((den + num - 1) / num - 1)).length : Int)

/-- The two decimals of `n` digits next to the magnitude of a number that is finite and not
    zero, below and above it. -/
def neighbours (n : Nat) : Decimal × Decimal :=
  let (num, den) := x.ratio
  let exponent := leadingPower num den - (n - 1 : Nat)
  let below := match exponent with
    | .ofNat e => num / (den * Nat.pow 10 e)
    | .negSucc e => num * Nat.pow 10 (e + 1) / den
  let above := if below + 1 = Nat.pow 10 n then ⟨1, exponent + n⟩ else ⟨below + 1, exponent⟩
  (⟨below, exponent⟩, above)

/-- Does the decimal read back as the magnitude of `x`? -/
def readsBack (d : Decimal) : Bool := (ofDecimal false d.digits d.exponent).magnitude == x.magnitude

/-- Is the number nearer to the point `below` of a grid than to the next point of it, or as near
    and that point even? -/
def nearerBelow (d : Decimal) : Bool :=
  let (num, den) := x.ratio
  -- Twice the number against the sum of the two points.
  let (twice, sum) := match d.exponent with
    | .ofNat e => (2 * num, (2 * d.digits + 1) * Nat.pow 10 e * den)
    | .negSucc e => (2 * num * Nat.pow 10 (e + 1), (2 * d.digits + 1) * den)
  twice < sum || (twice == sum && d.digits % 2 == 0)

/-- The decimal of `n` digits that reads back as the magnitude of `x`, the nearest if several do. -/
def withDigits? (n : Nat) : Option Decimal :=
  let (below, above) := x.neighbours n
  match x.readsBack below, x.readsBack above with
  | true, true => some (if x.nearerBelow below then below else above)
  | true, false => some below
  | false, true => some above
  | false, false => none

/-- The magnitude of a finite number written out in full. -/
def exact : Decimal :=
  let (m, e) := x.parts
  if 1074 ≤ e then ⟨m * Nat.pow 2 (e - 1074), 0⟩
  else ⟨m * Nat.pow 5 (1074 - e), (e : Int) - 1074⟩

/-- The shortest decimal that reads back as the magnitude of a finite number. -/
def shortest : Decimal :=
  if x.isZero then ⟨0, 0⟩
  else ((List.range 17).findSome? fun n => x.withDigits? (n + 1)).getD x.exact

end Binary64

/-- Where the digits of a number go: positional notation for the powers of ten of the first
    digit from `least` on and below `limit`, and an exponent for all others. -/
structure Layout where
  /-- The least power of ten written positionally. -/
  least : Int
  /-- The first power of ten written with an exponent again. -/
  limit : Int
  /-- The least number of figures of an exponent. -/
  figures : Nat

namespace Layout

/-- The digits with a point `places` digits from the left, with zeros on either side where
    digits are missing and at least one digit on both sides. -/
def positional (digits : Text) (places : Int) : Text :=
  if places ≤ 0 then "0." ++ Text.repeated (-places).toNat 48 ++ digits
  else if (digits.length : Int) ≤ places then
    digits ++ Text.repeated (places.toNat - digits.length) 48 ++ ".0"
  else digits.take places.toNat ++ "." ++ digits.drop places.toNat

/-- The digits with a point behind the first, if there are more, and the power of ten of the
    first with its sign. -/
def scientific (layout : Layout) (digits : Text) (power : Int) : Text :=
  let mantissa : Text := match digits with
    | first :: second :: rest => first :: 46 :: second :: rest
    | digits => digits
  let sign : Text := if power < 0 then "e-" else "e+"
  mantissa ++ sign ++ Text.ofNatPadded layout.figures power.natAbs

/-- A decimal under the layout. -/
def decimal (layout : Layout) (d : Decimal) : Text :=
  let digits := Text.ofNat d.digits
  let power := d.exponent + digits.length - 1
  if d.digits = 0 then "0.0"
  else if layout.least ≤ power ∧ power < layout.limit then positional digits (power + 1)
  else layout.scientific digits power

/-- A floating-point number under the layout. -/
def number (layout : Layout) (x : Binary64) : Text :=
  if x.isNaN then "nan"
  else
    let sign : Text := if x.negative then "-" else ""
    if x.isInfinite then sign ++ "inf" else sign ++ layout.decimal x.shortest

/-- The plain form of a number: positional from `0.0001` up to sixteen figures, and exponents of
    two figures or more with their sign. -/
def plain : Layout := ⟨-4, 16, 2⟩

/-- The brief form of a number: positional from `0.00001` up to sixteen figures, and exponents
    with their sign and no more figures than needed. -/
def brief : Layout := ⟨-5, 16, 1⟩

end Layout

/-- The text of a floating-point number. -/
def Binary64.toText (x : Binary64) : Text := Layout.plain.number x

end GridGauge
