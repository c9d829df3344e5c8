import GridGauge.Settings.Scalar
import GridGauge.Timestamp.Reader

/-!
# Dates and times in YAML

A date is written as year, month and day with hyphens between them. A time of
day may stand behind it, with a `T` or blanks between, and behind that an
offset: a `Z`, or a sign with hours and maybe minutes. Of a fraction the first
six digits count.

The parts are read first, as far as they go, and only then looked at: one that
is out of its range makes the text no date or time, but it looks like one.
-/

namespace GridGauge.Yaml.Moment

open Timestamp (Clock)

/-- A date as it is written, with a time of day if there is one, and an offset in microseconds if
    there is one. -/
structure Written where
  date : Date
  time : Option (Clock × Option Int)
  deriving DecidableEq, Repr

/-- The number in front of a text and what is behind it. Its digits are as many as given, or fewer,
    but not fewer than `least`. -/
def number? (least most : Nat) (t : Text) : Option (Nat × Text) :=
  let (digits, rest) := t.span Text.isDecimalDigit
  if least ≤ digits.length ∧ digits.length ≤ most then some (Text.decimalValue digits, rest)
  else none

/-- The text behind a character that must be in front. -/
def behind? (c : CodePoint) : Text → Option Text
  | [] => none
  | d :: rest => if d = c then some rest else none

/-- May the character stand between the parts? -/
def isSpace (c : CodePoint) : Bool := c == 32 || c == 9

/-- The microseconds of a fraction. Digits behind the first six do not count. -/
def microseconds (digits : Text) : Nat :=
  Text.decimalValue (digits.take 6) * Nat.pow 10 (6 - digits.length)

/-- The fraction in front of a text, in microseconds, and what is behind it. -/
def fraction : Text → Nat × Text
  | 0x2E :: rest =>
    let (digits, rest) := rest.span Text.isDecimalDigit
    (microseconds digits, rest)
  | t => (0, t)

/-- The offset that makes up a text, which must not be empty. -/
def offset? : Text → Option Int
  | 0x5A :: rest => if rest.isEmpty then some 0 else none
  | sign :: rest =>
    if sign = 0x2B ∨ sign = 0x2D then do
      let (hours, rest) ← number? 1 2 rest
      let (minutes, rest) ← match rest with
        | 0x3A :: rest => number? 2 2 rest
        | rest => some (0, rest)
      let offset : Int := ((hours * 60 + minutes) * 60 * 1000000 : Nat)
      if rest.isEmpty then return if sign = 0x2D then -offset else offset else none
    else none
  | [] => none

/-- The time of day that makes up a text, with the offset if there is one. -/
def time? (t : Text) : Option (Clock × Option Int) := do
  let (hour, t) ← number? 1 2 t
  let (minute, t) ← number? 2 2 (← behind? 0x3A t)
  let (second, t) ← number? 2 2 (← behind? 0x3A t)
  let (micro, t) := fraction t
  let offset ← if t.isEmpty then pure none else some <$> offset? (t.dropWhile isSpace)
  return (⟨hour, minute, second, micro⟩, offset)

/-- The text of a time of day, less what stands between it and the date. -/
def timeText? : Text → Option Text
  | c :: rest =>
    if c = 0x54 ∨ c = 0x74 then some rest
    else if isSpace c then some (rest.dropWhile isSpace)
    else none
  | [] => none

/-- The parts of the date or time that makes up a text. -/
def written? (t : Text) : Option Written := do
  let (year, t) ← number? 4 4 t
  let (month, t) ← number? 1 2 (← behind? 0x2D t)
  let (day, t) ← number? 1 2 (← behind? 0x2D t)
  if t.isEmpty then return ⟨⟨year, month, day⟩, none⟩
  return ⟨⟨year, month, day⟩, some (← time? (← timeText? t))⟩

/-- Does a text look like a date or time? A date alone has two digits each for month and day. -/
def isLike (t : Text) : Bool :=
  match written? t with
  | some w => w.time.isSome || t.length == 10
  | none => false

/-- The date or time of the parts given, if each is in its range. -/
def Written.check (w : Written) : Except Timestamp.Error Scalar :=
  match w.time with
  | none => (Timestamp.check ⟨w.date, 0, 0, 0, 0, none⟩).map fun d => .date d.toDate
  | some (clock, offset) =>
    match offset.filter fun o => Timestamp.dayLength ≤ o.natAbs with
    | some o => .error (.offsetTooLarge o)
    | none =>
      (Timestamp.check ⟨w.date, clock.hour, clock.minute, clock.second, clock.microsecond,
        offset⟩).map .dateTime

end GridGauge.Yaml.Moment
