import GridGauge.Text

/-!
# Punycode

A text beyond ASCII can be written in ASCII: first its characters of ASCII,
then, behind a hyphen if there are any, the others in increasing order as the
distances from one to the next, over all places of the text (RFC 3492). A
distance is written in digits of 36 values, the least first; each digit but
the last is at or above a threshold, which adapts to the distances so far.
-/

namespace GridGauge.Url.Punycode

/-- The hyphen. -/
def hyphen : CodePoint := 0x2D

/-- The threshold of a digit. The places of digits count in steps of 36, from 36 on. -/
def threshold (place bias : Nat) : Nat :=
  if place ≤ bias then 1 else if bias + 26 ≤ place then 26 else place - bias

theorem threshold_pos (place bias : Nat) : 0 < threshold place bias := by
  unfold threshold
  split
  · omega
  · split <;> omega

/-- The bias that belongs to a scaled distance, on top of `bias`. -/
def biasOf (bias distance : Nat) : Nat :=
  if 455 < distance then biasOf (bias + 36) (distance / 35)
  else bias + 36 * distance / (distance + 38)
termination_by distance
decreasing_by exact Nat.div_lt_self (by omega) (by omega)

/-- The bias behind a distance, the first one or not, when `count` characters are in place. -/
def adapt (first : Bool) (distance count : Nat) : Nat :=
  let scaled := if first then distance / 700 else distance / 2
  biasOf 0 (scaled + scaled / count)

/-! ## Writing -/

/-- The digit of a value below 36. -/
def digit (d : Nat) : CodePoint := if d < 26 then 0x61 + d else 0x30 + (d - 26)

/-- The digits of a distance. -/
def digits (bias place n : Nat) : Text :=
  let t := threshold place bias
  if n < t then [digit n]
  else digit (t + (n - t) % (36 - t)) :: digits bias (place + 36) ((n - t) / (36 - t))
termination_by n
decreasing_by
  have := threshold_pos place bias
  exact Nat.lt_of_le_of_lt (Nat.div_le_self _ _) (by omega)

/-- How far the writing has come. -/
structure Progress where
  written : Text
  /-- The distance since the last character that was written. -/
  distance : Nat
  bias : Nat
  /-- The number of characters that are in place. -/
  count : Nat

/-- The progress at a place of the text, when `c` is being written. -/
def Progress.step (basic : Nat) (c : CodePoint) (p : Progress) (d : CodePoint) : Progress :=
  if d < c then { p with distance := p.distance + 1 }
  else if d = c then
    ⟨p.written ++ digits p.bias 36 p.distance, 0,
      adapt (p.count == basic) p.distance (p.count + 1), p.count + 1⟩
  else p

/-- The least code point of the text that is not below `least`. -/
def leastFrom (least : Nat) (t : Text) : Option CodePoint :=
  t.foldl (fun found d => if least ≤ d && found.all (d < ·) then some d else found) none

/-- The distances of the code points from `least` on, `fuel` bounding how many there are. -/
def distances (t : Text) (basic : Nat) : (fuel least : Nat) → Progress → Text
  | 0, _, p => p.written
  | fuel + 1, least, p =>
    match leastFrom least t with
    | none => p.written
    | some c =>
      let p := { p with distance := p.distance + (c - least) * (p.count + 1) }
      let p := t.foldl (Progress.step basic c) p
      distances t basic fuel (c + 1) { p with distance := p.distance + 1 }

/-- The text in ASCII. -/
def encode (t : Text) : Text :=
  let basic := t.filter (· < 0x80)
  let rest := distances t basic.length t.length 0x80 ⟨[], 0, 72, basic.length⟩
  if basic.isEmpty then rest else basic ++ hyphen :: rest

/-! ## Reading -/

/-- The value of a digit. -/
def digitValue? (c : CodePoint) : Option Nat :=
  if Text.isLowerLetter c then some (c - 0x61)
  else if Text.isUpperLetter c then some (c - 0x41)
  else if Text.isDecimalDigit c then some (c - 0x30 + 26)
  else none

/-- The distance that the text begins with, whose digits from here on count `weight` times, and
    the text behind it. -/
def distance? (bias : Nat) : (place weight sum : Nat) → Text → Option (Nat × Text)
  | _, _, _, [] => none
  | place, weight, sum, c :: rest =>
    (digitValue? c).bind fun d =>
      let t := threshold place bias
      if d < t then some (sum + d * weight, rest)
      else distance? bias (place + 36) (weight * (36 - t)) (sum + d * weight) rest

/-- Puts the code points in place whose distances make up the text. `next` is where the search
    goes on, over all places of all code points from `c` on; `first` says that no distance has been
    read, and `fuel` bounds their number. -/
def insert? : (fuel : Nat) → (first : Bool) → (bias next c : Nat) → Text → Text → Option Text
  | _, _, _, _, _, out, [] => some out
  | 0, _, _, _, _, _, _ :: _ => none
  | fuel + 1, first, bias, next, c, out, t =>
    (distance? bias 36 1 0 t).bind fun (distance, rest) =>
      let count := out.length + 1
      let c := c + (next + distance) / count
      let i := (next + distance) % count
      if 0x110000 ≤ c then none
      else insert? fuel false (adapt first distance count) (i + 1) c (out.insertIdx i c) rest

/-- The text that is written in ASCII. -/
def decode? (t : Text) : Option Text :=
  let rest := (t.reverse.takeWhile (· != hyphen)).reverse
  let basic := t.take (t.length - rest.length - 1)
  insert? t.length true 72 0 0x80 basic rest

end GridGauge.Url.Punycode
