import GridGauge.Text

/-!
# Binary floating-point numbers

The 64-bit numbers of IEEE 754, as a sign and the 63 bits below it. Read as a
natural number these bits order the magnitudes: first the finite numbers,
zero first, then infinity, then what is not a number. The fraction takes the
low 52 bits, so a rounding that overflows the fraction carries into the
exponent, as it should.

A ratio of natural numbers is rounded exactly, to the nearest number and in a
tie to the one with an even last bit (`ofRatio`); so are decimals
(`ofDecimal`).
-/

namespace GridGauge

/-- A 64-bit floating-point number. -/
structure Binary64 where
  /-- Is the sign bit set? -/
  negative : Bool
  /-- The exponent and fraction bits, as one number below `2 ^ 63`. -/
  magnitude : Nat
  deriving DecidableEq, Repr, Inhabited

namespace Binary64

/-- The number of fractions, which is one more than the greatest. -/
def fractionSize : Nat := Nat.pow 2 52

/-- The magnitude of infinity: exponent bits all set, fraction zero. -/
def infiniteMagnitude : Nat := 2047 * fractionSize

/-- Plus zero. -/
def zero : Binary64 := ⟨false, 0⟩

/-- Infinity of either sign. -/
def infinity (negative : Bool) : Binary64 := ⟨negative, infiniteMagnitude⟩

/-- What is not a number. -/
def nan : Binary64 := ⟨false, infiniteMagnitude + fractionSize / 2⟩

variable (x : Binary64)

/-- Is it a number at all, infinities aside? -/
def isFinite : Bool := x.magnitude < infiniteMagnitude

/-- Is it an infinity? -/
def isInfinite : Bool := x.magnitude == infiniteMagnitude

/-- Is it not a number? -/
def isNaN : Bool := infiniteMagnitude < x.magnitude

/-- Is it a zero, of either sign? -/
def isZero : Bool := x.magnitude == 0

/-- The number with its sign turned. -/
def negate : Binary64 := { x with negative := !x.negative }

/-- The integer `m` and the exponent `e`, at least `-1074`, with `m * 2 ^ e` the magnitude of a
    finite number; the exponent is given as `e + 1074`. -/
def parts : Nat × Nat :=
  let field := x.magnitude / fractionSize
  let fraction := x.magnitude % fractionSize
  if field = 0 then (fraction, 0) else (fractionSize + fraction, field - 1)

/-- The magnitude of a finite number as a ratio of natural numbers. -/
def ratio : Nat × Nat :=
  let (m, e) := x.parts
  if 1074 ≤ e then (m * Nat.pow 2 (e - 1074), 1) else (m, Nat.pow 2 (1074 - e))

/-! ## Rounding -/

/-- The natural number nearest to `num / den`, the even one of two. -/
def roundDiv (num den : Nat) : Nat :=
  let q := num / den
  let r := 2 * (num % den)
  if r < den then q else if den < r then q + 1 else q + q % 2

/-- The biased exponent (that of the last fraction bit, plus `1074`) under which `num / den` is
    rounded: the least with which the quotient takes at most 53 bits. -/
def exponentOfRatio (num den : Nat) : Nat :=
  -- `2 ^ (d - 1) < num / den < 2 ^ (d + 1)` where `d` is the difference of the logarithms.
  let e := num.log2 + 1074 - (den.log2 + 53)
  let scaled :=
    if 1074 ≤ e then num / (den * Nat.pow 2 (e - 1074)) else num * Nat.pow 2 (1074 - e) / den
  if 2 * fractionSize ≤ scaled then e + 1 else e

/-- The magnitude nearest to `num / den`, where `den` is not zero. -/
def magnitudeOfRatio (num den : Nat) : Nat :=
  if num = 0 then 0
  else
    let e := exponentOfRatio num den
    let q :=
      if 1074 ≤ e then roundDiv num (den * Nat.pow 2 (e - 1074))
      else roundDiv (num * Nat.pow 2 (1074 - e)) den
    min (e * fractionSize + q) infiniteMagnitude

/-- The number nearest to `num / den`, with the given sign. -/
def ofRatio (negative : Bool) (num den : Nat) : Binary64 := ⟨negative, magnitudeOfRatio num den⟩

/-- The number nearest to `digits * 10 ^ exponent`. Exponents that cannot matter are not raised
    to a power: past 310 figures before the point every number is infinite, and past 330 zeros
    behind it every number is zero. -/
def ofDecimal (negative : Bool) (digits : Nat) (exponent : Int) : Binary64 :=
  let figures : Int := (Nat.toDigits 10 digits).length
  if digits = 0 then ⟨negative, 0⟩
  else if 310 < figures + exponent then infinity negative
  else if figures + exponent < -330 then ⟨negative, 0⟩
  else match exponent with
    | .ofNat e => ofRatio negative (digits * Nat.pow 10 e) 1
    | .negSucc e => ofRatio negative digits (Nat.pow 10 (e + 1))

/-! ## Arithmetic -/

/-- The numerator `n`, or its negative if the number is negative. -/
def signed (n : Nat) : Int := if x.negative then -n else n

/-- The sum of two numbers, rounded. -/
def add (x y : Binary64) : Binary64 :=
  if x.isNaN || y.isNaN || (x.isInfinite && y.isInfinite && x.negative != y.negative) then nan
  else if x.isInfinite then x
  else if y.isInfinite then y
  else
    let (a, b) := x.ratio
    let (c, d) := y.ratio
    let n := x.signed (a * d) + y.signed (c * b)
    if n = 0 then ⟨x.negative && y.negative, 0⟩ else ofRatio (n < 0) n.natAbs (b * d)

/-- The product of two numbers, rounded. -/
def multiply (x y : Binary64) : Binary64 :=
  let negative := x.negative != y.negative
  if x.isNaN || y.isNaN || (x.isInfinite && y.isZero) || (x.isZero && y.isInfinite) then nan
  else if x.isInfinite || y.isInfinite then infinity negative
  else
    let (a, b) := x.ratio
    let (c, d) := y.ratio
    ofRatio negative (a * c) (b * d)

/-! ## Integers -/

/-- The number nearest to an integer, if it is not too large for any. -/
def ofInt? (n : Int) : Option Binary64 :=
  let x := ofRatio (n < 0) n.natAbs 1
  if x.isFinite then some x else none

/-- A finite number with its fraction cut off. -/
def truncate : Int :=
  let (num, den) := x.ratio
  if x.negative then -(num / den : Nat) else (num / den : Nat)

/-- The integer a finite number is equal to, if it is one. -/
def toInt? : Option Int :=
  let (num, den) := x.ratio
  if x.isFinite && num % den == 0 then some x.truncate else none

end Binary64

end GridGauge
