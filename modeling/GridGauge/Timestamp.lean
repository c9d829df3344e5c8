import GridGauge.Text

/-!
# Timestamps

A timestamp is a date of the Gregorian calendar, extended to the years 1 to
9999, with a time of day to the microsecond and, if it has one, an offset
from UTC of less than a day. `Timestamp.IsValid` says when its parts name such
a time; `toText` writes it with a `T` between date and time, the fraction and
the seconds of the offset only where they are not zero. Where there is an
offset, the parts tell an instant (`instant?`).
-/

namespace GridGauge

/-! ## The calendar -/

/-- Does the year have 366 days? -/
def isLeapYear (year : Nat) : Bool := year % 4 == 0 && (year % 100 != 0 || year % 400 == 0)

/-- The number of days of a year. -/
def daysInYear (year : Nat) : Nat := if isLeapYear year then 366 else 365

/-- The number of days of a month, zero for a number that is no month. -/
def daysInMonth (year month : Nat) : Nat :=
  match month with
  | 1 | 3 | 5 | 7 | 8 | 10 | 12 => 31
  | 4 | 6 | 9 | 11 => 30
  | 2 => if isLeapYear year then 29 else 28
  | _ => 0

/-- The number of days before the first of January of a year from 1 on. -/
def daysBeforeYear (year : Nat) : Nat :=
  let y := year - 1
  y * 365 + y / 4 - y / 100 + y / 400

/-- The day of the week of the first of January: zero for Monday. -/
def firstWeekday (year : Nat) : Nat := daysBeforeYear year % 7

/-- Does the year have a week 53? It does when it starts on a Thursday, or on a Wednesday and is
    a leap year. -/
def hasWeek53 (year : Nat) : Bool :=
  firstWeekday year == 3 || (firstWeekday year == 2 && isLeapYear year)

/-- A date by year, month and day. -/
structure Date where
  year : Nat
  month : Nat
  day : Nat
  deriving DecidableEq, Repr, Inhabited

/-- The date that comes `days` days after the first of a month, `months` bounding the months
    that are left in the year. -/
def Date.inYear (year : Nat) : (months : Nat) → (days : Nat) → Date
  | 0, days => ⟨year, 12, days + 1⟩
  | months + 1, days =>
    let month := 12 - months
    let length := daysInMonth year month
    if days < length then ⟨year, month, days + 1⟩ else inYear year months (days - length)

/-- The date of a day of a week. Week 1 is the one with the first Thursday; days are numbered from
    Monday on, which is 1. -/
def Date.ofWeek (year week day : Nat) : Date :=
  let weekday := firstWeekday year
  -- The days from the Monday of week 1 to the first of January, the other way round if negative.
  let before : Int := if weekday ≤ 3 then weekday else (weekday : Int) - 7
  let days : Int := ((week - 1) * 7 + (day - 1) : Nat) - before
  if days < 0 then inYear (year - 1) 12 (days + daysInYear (year - 1)).toNat
  else if days < daysInYear year then inYear year 12 days.toNat
  else inYear (year + 1) 12 (days - daysInYear year).toNat

/-- The number of days before a date from the first of January of the year 1 on. -/
def Date.daysBefore (d : Date) : Nat :=
  let months := (List.range (d.month - 1)).map fun m => daysInMonth d.year (m + 1)
  daysBeforeYear d.year + months.foldr (· + ·) 0 + (d.day - 1)

/-! ## Timestamps -/

/-- A date and a time of day, perhaps with an offset from UTC. -/
structure Timestamp extends Date where
  hour : Nat
  minute : Nat
  second : Nat
  microsecond : Nat
  /-- The offset from UTC in microseconds. -/
  offset : Option Int
  deriving DecidableEq, Repr, Inhabited

namespace Timestamp

/-- The microseconds of a day. -/
def dayLength : Nat := 86400 * 1000000

/-- Does the timestamp name a time? -/
structure IsValid (d : Timestamp) : Prop where
  year : 1 ≤ d.year ∧ d.year ≤ 9999
  month : 1 ≤ d.month ∧ d.month ≤ 12
  day : 1 ≤ d.day ∧ d.day ≤ daysInMonth d.year d.month
  hour : d.hour < 24
  minute : d.minute < 60
  second : d.second < 60
  microsecond : d.microsecond < 1000000
  offset : ∀ o ∈ d.offset, o.natAbs < dayLength

/-- Two digits of a part of the time. -/
def twoDigits (n : Nat) : Text := Text.ofNatPadded 2 n

end Timestamp

/-- The date in writing. -/
def Date.toText (d : Date) : Text :=
  Text.ofNatPadded 4 d.year ++ "-" ++ Timestamp.twoDigits d.month ++ "-" ++ Timestamp.twoDigits d.day

namespace Timestamp

/-- Microseconds behind a point, if there are any. -/
def fractionText (microseconds : Nat) : Text :=
  if microseconds = 0 then [] else "." ++ Text.ofNatPadded 6 microseconds

/-- An offset: sign, hours and minutes, then seconds and their fraction unless they are zero. -/
def offsetText (offset : Int) : Text :=
  let sign : Text := if offset < 0 then "-" else "+"
  let seconds := offset.natAbs / 1000000
  let microseconds := offset.natAbs % 1000000
  let minutes := sign ++ twoDigits (seconds / 3600) ++ ":" ++ twoDigits (seconds / 60 % 60)
  if seconds % 60 = 0 ∧ microseconds = 0 then minutes
  else minutes ++ ":" ++ twoDigits (seconds % 60) ++ fractionText microseconds

/-- The timestamp in writing, with a text between date and time. -/
def toTextWith (between : Text) (d : Timestamp) : Text :=
  let time := twoDigits d.hour ++ ":" ++ twoDigits d.minute ++ ":" ++ twoDigits d.second
  let zone : Text := match d.offset with
    | none => []
    | some offset => offsetText offset
  d.toDate.toText ++ between ++ time ++ fractionText d.microsecond ++ zone

/-- The timestamp in writing. -/
def toText (d : Timestamp) : Text := d.toTextWith "T"

/-- The instant that a timestamp with an offset names, in microseconds. -/
def instant? (d : Timestamp) : Option Int :=
  let seconds := ((d.daysBefore * 24 + d.hour) * 60 + d.minute) * 60 + d.second
  d.offset.map fun offset => (seconds * 1000000 + d.microsecond : Nat) - offset

end Timestamp

end GridGauge
