import GridGauge.Number.Shortest

/-!
# Numbers with a given precision

A floating-point number is written with a given number of places behind the
point, or with a given number of figures and a power of ten, or in whichever
of the two fits its size. Each time the number written is the nearest of its
kind, in a tie the one with an even last digit; the sign is left to the
caller.
-/

namespace GridGauge

/-- How a number is written. -/
inductive Figures
  /-- With this number of places behind the point. -/
  | fixed (places : Nat)
  /-- With a digit before the point, this number of places behind it, and a power of ten. -/
  | scientific (places : Nat)
  /-- With at most this number of figures, and a power of ten where the number is too small or too
      large for them. -/
  | general (figures : Nat)
  deriving DecidableEq, Repr

namespace Figures

/-- The digits before and behind the point. The point stands where there is something behind it or
    where it is asked for. -/
def pointed (keepsPoint : Bool) (whole fraction : Text) : Text :=
  if fraction.isEmpty && !keepsPoint then whole else whole ++ 0x2E :: fraction

/-- The digits without the zeros at their end. -/
def withoutZeros (digits : Text) : Text := Text.dropTrailing 48 digits

/-- The power of ten, with its sign and at least two figures. -/
def powerOfTen (capital : Bool) (power : Int) : Text :=
  (if capital then 0x45 else 0x65) :: (if power < 0 then 0x2D else 0x2B)
    :: Text.ofNatPadded 2 power.natAbs

/-- So many figures of the ratio, rounded, and the power of ten of the first. -/
def leading (num den figures : Nat) : Text × Int :=
  if num = 0 then (Text.repeated figures 48, 0)
  else
    let power := Binary64.leadingPower num den
    let shift := (figures : Int) - 1 - power
    let n := match shift with
      | .ofNat s => Binary64.roundDiv (num * Nat.pow 10 s) den
      | .negSucc s => Binary64.roundDiv num (den * Nat.pow 10 (s + 1))
    -- Rounding up can make one figure more, and then it is a one with zeros behind it.
    if n < Nat.pow 10 figures then (Text.ofNatPadded figures n, power)
    else (Text.ofNatPadded figures (n / 10), power + 1)

/-- A ratio under the figures; with `full`, the point and zeros at the end stay. -/
def ratio (full capital : Bool) (num den : Nat) : Figures → Text
  | fixed places =>
    let digits := Text.ofNatPadded (places + 1) (Binary64.roundDiv (num * Nat.pow 10 places) den)
    let whole := digits.length - places
    pointed full (digits.take whole) (digits.drop whole)
  | scientific places =>
    let (digits, power) := leading num den (places + 1)
    pointed full (digits.take 1) (digits.drop 1) ++ powerOfTen capital power
  | general figures =>
    let figures := max figures 1
    let (digits, power) := leading num den figures
    let trim : Text → Text := fun t => if full then t else withoutZeros t
    if power < -4 || (figures : Int) ≤ power then
      pointed full (digits.take 1) (trim (digits.drop 1)) ++ powerOfTen capital power
    else if power < 0 then
      pointed full "0" (trim (Text.repeated (-power - 1).toNat 48 ++ digits))
    else
      let whole := power.toNat + 1
      pointed full (digits.take whole) (trim (digits.drop whole))

/-- The magnitude of a number under the figures. -/
def magnitude (full capital : Bool) (x : Binary64) (figures : Figures) : Text :=
  if x.isNaN then (if capital then "NAN" else "nan")
  else if x.isInfinite then (if capital then "INF" else "inf")
  else figures.ratio full capital x.ratio.1 x.ratio.2

end Figures

end GridGauge
