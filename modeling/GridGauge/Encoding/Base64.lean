import GridGauge.Encoding.Fault

/-!
# Bytes written in letters

In base 64 a character stands for six bits, four characters for three bytes,
and signs of equality fill up the last four. Read with leniency, whatever is no
such character is passed over, and so is all that stands behind four that have
been filled up (`Base64.decode?`). Only the last four must not be lacking.
-/

namespace GridGauge.Base64

/-- The six bits that a character stands for. -/
def value? (c : CodePoint) : Option Nat :=
  if Text.isUpperLetter c then some (c - 0x41)
  else if Text.isLowerLetter c then some (c - 0x61 + 26)
  else if Text.isDecimalDigit c then some (c - 0x30 + 52)
  else if c = 0x2B then some 62
  else if c = 0x2F then some 63
  else none

/-- The sign that fills up four characters. -/
def filler : CodePoint := 0x3D

/-- The bytes of the rest of a text. Of its four characters `count` have come before it, which hold
    `held` for the next byte, and right before it have come `fillers` signs that fill up. -/
def decodeFrom : (count held fillers : Nat) → Text → Option Bytes
  | count, _, _, [] => if count = 0 then some [] else none
  | count, held, fillers, c :: rest =>
    if c = filler then
      if count < 2 then decodeFrom count held fillers rest
      else if 4 ≤ count + (fillers + 1) then some []
      else decodeFrom count held (fillers + 1) rest
    else
      match value? c, count with
      | none, _ => decodeFrom count held fillers rest
      | some v, 0 => decodeFrom 1 v 0 rest
      | some v, 1 => (decodeFrom 2 (v % 16) 0 rest).map (.ofNat (held * 4 + v / 16) :: ·)
      | some v, 2 => (decodeFrom 3 (v % 4) 0 rest).map (.ofNat (held * 16 + v / 4) :: ·)
      | some v, _ => (decodeFrom 0 0 0 rest).map (.ofNat (held * 64 + v) :: ·)

/-- The bytes that a text of ASCII is written for. -/
def decode? (t : Text) : Option Bytes :=
  if t.all (· < 0x80) then decodeFrom 0 0 0 t else none

end GridGauge.Base64
