import GridGauge.Encoding.Utf8
import GridGauge.Text.Blank
import GridGauge.Text.Digit
import GridGauge.Text.Quoted
import GridGauge.Timestamp

/-!
# Reading timestamps

A timestamp is written as RFC 3339 has it, or in one of the wider forms of
ISO 8601: without dashes or colons, as a day of a week, with only the hours or
hours and minutes, with a comma before the fraction, with an offset down to
microseconds. Blanks around it do not count, and a fraction may have more
than six digits, of which the first six are kept (`ofText`).

The forms are read from the octets of the text in UTF-8. Where the date ends
is told from its first octets alone (`dateLength?`); the character behind it
may be any, of as many octets as its first says. The time of day and the
offset are both clocks (`clock?`). An offset puts an end to the time of day
before it even if one octet is left over there; otherwise nothing may be left
over.
-/

namespace GridGauge.Timestamp

/-- Why a text is no timestamp. -/
inductive Error
  /-- It has none of the forms. -/
  | malformed (text : Text)
  /-- The offset, in microseconds, is a day or more. -/
  | offsetTooLarge (offset : Int)
  | yearOutOfRange (year : Nat)
  | monthOutOfRange
  | dayOutOfRange
  | hourOutOfRange
  | minuteOutOfRange
  | secondOutOfRange
  deriving DecidableEq, Repr

/-- A length of time as days, seconds of a day and microseconds of a second, the last two not
    negative; parts that are zero are left out. -/
def durationText (microseconds : Int) : Text :=
  let days := microseconds.fdiv dayLength
  let seconds := (microseconds.fmod dayLength).fdiv 1000000
  let rest := microseconds.fmod 1000000
  let part (name : Text) (n : Int) : List Text :=
    if n = 0 then [] else [name ++ "=" ++ Text.ofInt n]
  let parts := part "days" days ++ part "seconds" seconds ++ part "microseconds" rest
  "datetime.timedelta(" ++ (if parts.isEmpty then [48] else Text.join ", " parts) ++ ")"

/-- The error in words. -/
def Error.message : Error → Text
  | .malformed text => "Invalid isoformat string: " ++ Text.Quoted.encode text
  | .offsetTooLarge offset =>
    "offset must be a timedelta strictly between -timedelta(hours=24) and timedelta(hours=24), not "
      ++ durationText offset ++ "."
  | .yearOutOfRange year => "year " ++ Text.ofNat year ++ " is out of range"
  | .monthOutOfRange => "month must be in 1..12"
  | .dayOutOfRange => "day is out of range for month"
  | .hourOutOfRange => "hour must be in 0..23"
  | .minuteOutOfRange => "minute must be in 0..59"
  | .secondOutOfRange => "second must be in 0..59"

/-! ## Dates -/

/-- The number that is written with the digits given, if they all are digits of ASCII. -/
def number? (digits : Text) : Option Nat :=
  if digits.all Text.isDecimalDigit then some (Text.decimalValue digits) else none

/-- A date as it is written. -/
inductive WrittenDate
  | calendar (year month day : Nat)
  | week (year week day : Nat)
  deriving DecidableEq, Repr

/-- The number of octets of the date in front. Behind a `W` without dashes the digits tell
    whether the last of them belongs to the date: the time has an even number. -/
def dateLength? (t : Text) : Option Nat :=
  if t.length = 7 then some 7
  else if t[4]? = some 0x2D then
    if t[5]? ≠ some 0x57 then some 10
    else if t[8]? ≠ some 0x2D then some 8
    else if t.length = 9 then none
    else if (t[10]?.map Text.isDecimalDigit).getD false then some 8
    else some 10
  else if t[4]? = some 0x57 then
    let digitsEnd := 7 + ((t.drop 7).takeWhile Text.isDecimalDigit).length
    if digitsEnd < 9 then some digitsEnd
    else if digitsEnd % 2 = 0 then some 7
    else some 8
  else some 8

/-- The date that makes up the text. -/
def date? : Text → Option WrittenDate
  | [a, b, c, d, 0x2D, 0x57, v, w] => do
    return .week (← number? [a, b, c, d]) (← number? [v, w]) 1
  | [a, b, c, d, 0x2D, 0x57, v, w, 0x2D, k] => do
    return .week (← number? [a, b, c, d]) (← number? [v, w]) (← number? [k])
  | [a, b, c, d, 0x57, v, w] => do
    return .week (← number? [a, b, c, d]) (← number? [v, w]) 1
  | [a, b, c, d, 0x57, v, w, k] => do
    return .week (← number? [a, b, c, d]) (← number? [v, w]) (← number? [k])
  | [a, b, c, d, 0x2D, m, n, 0x2D, k, l] => do
    return .calendar (← number? [a, b, c, d]) (← number? [m, n]) (← number? [k, l])
  | [a, b, c, d, m, n, k, l] => do
    return .calendar (← number? [a, b, c, d]) (← number? [m, n]) (← number? [k, l])
  | _ => none

/-! ## Clocks -/

/-- Hours, minutes, seconds and microseconds. -/
structure Clock where
  hour : Nat
  minute : Nat
  second : Nat
  microsecond : Nat
  deriving DecidableEq, Repr, Inhabited

/-- What stands behind two digits of a clock. -/
inductive Next
  /-- The clock ends here, completely or with an octet left over. -/
  | stop (complete : Bool)
  /-- Two more digits follow. -/
  | digits (rest : Text)
  /-- A fraction follows. -/
  | fraction (rest : Text)

/-- What stands behind two digits of a clock whose parts are separated by colons, or else are
    not separated. -/
def next? (separated : Bool) : Text → Option Next
  | [] => some (.stop true)
  | [c] => some (.stop (c == 0))
  | c :: rest =>
    if separated && c == 0x3A then some (.digits rest)
    else if c == 0x2E || c == 0x2C then some (.fraction rest)
    else if !separated then some (.digits (c :: rest))
    else none

/-- Two digits, and the text behind them. -/
def twoDigits? : Text → Option (Nat × Text)
  | a :: b :: rest => (number? [a, b]).map (·, rest)
  | _ => none

/-- The microseconds of a fraction, and whether nothing is left over behind it. Six digits count,
    all there are if fewer, and the digits behind them do not. -/
def fraction? (t : Text) : Option (Nat × Bool) := do
  let digits := t.take 6
  let value ← number? digits
  let rest := (t.drop 6).dropWhile Text.isDecimalDigit
  return (value * Nat.pow 10 (6 - digits.length), rest.head?.getD 0 == 0)

/-- The clock that makes up the text, and whether nothing is left over behind it. -/
def clock? (t : Text) : Option (Clock × Bool) := do
  let (hour, rest) ← twoDigits? t
  let separated := rest.head? == some 0x3A
  match ← next? separated rest with
  | .stop complete => return (⟨hour, 0, 0, 0⟩, complete)
  | .fraction rest =>
    let (micro, complete) ← fraction? rest
    return (⟨hour, 0, 0, micro⟩, complete)
  | .digits rest =>
    let (minute, rest) ← twoDigits? rest
    match ← next? separated rest with
    | .stop complete => return (⟨hour, minute, 0, 0⟩, complete)
    | .fraction rest =>
      let (micro, complete) ← fraction? rest
      return (⟨hour, minute, 0, micro⟩, complete)
    | .digits rest =>
      let (second, rest) ← twoDigits? rest
      match ← next? separated rest with
      | .stop complete => return (⟨hour, minute, second, 0⟩, complete)
      | .fraction rest | .digits rest =>
        let (micro, complete) ← fraction? rest
        return (⟨hour, minute, second, micro⟩, complete)

/-- Does an offset start with the character? -/
def startsOffset (c : CodePoint) : Bool := c == 0x2B || c == 0x2D || c == 0x5A

/-- The offset in microseconds that makes up the text. One of no whole second is none. -/
def offset? : Text → Option Int
  | 0x5A :: rest => if rest.head?.getD 0 = 0 then some 0 else none
  | sign :: rest =>
    match clock? rest with
    | some (c, true) =>
      let seconds : Int := ((c.hour * 60 + c.minute) * 60 + c.second : Nat)
      if seconds = 0 then some 0
      else
        let offset := seconds * 1000000 + c.microsecond
        some (if sign = 0x2D then -offset else offset)
    | _ => none
  | [] => none

/-- The time of day that makes up the text, with the offset if there is one. -/
def time? (t : Text) : Option (Clock × Option Int) := do
  match t.span (!startsOffset ·) with
  | (t, []) =>
    let (clock, complete) ← clock? t
    if complete then return (clock, none) else none
  | (t, zone) =>
    let (clock, _) ← clock? t
    return (clock, some (← offset? zone))

/-! ## Timestamps -/

/-- A timestamp as it is written: its parts may be out of range. -/
structure Written where
  date : WrittenDate
  clock : Clock
  offset : Option Int

/-- The text with a surrogate that separates date and time replaced by a `T`. -/
def plainSeparator (t : Text) : Text :=
  match [7, 8, 10].find? fun i => (t[i]?.map Text.isSurrogate).getD false with
  | some i => t.set i 0x54
  | none => t

/-- The octets of a text in UTF-8, as numbers. -/
def octets (t : Text) : List Nat := (Utf8.encode t).map UInt8.toNat

/-- The octets of the character whose first octet is `lead`. -/
def sizeOfLead (lead : Nat) : Nat :=
  if lead < 0x80 then 1 else match lead / 16 with
    | 0xE => 3
    | 0xF => 4
    | _ => 2

/-- The parts of a timestamp, as they are written. -/
def written? (t : Text) : Option Written := do
  let t := plainSeparator t
  guard (7 ≤ t.length ∧ t.all (!Text.isSurrogate ·))
  let octets := octets t
  let n ← dateLength? octets
  let date ← date? (octets.take n)
  match octets.drop n with
  | [] => return ⟨date, ⟨0, 0, 0, 0⟩, none⟩
  | lead :: rest =>
    let (clock, offset) ← time? (rest.drop (sizeOfLead lead - 1))
    return ⟨date, clock, offset⟩

/-- A text of ASCII is its own octets. -/
theorem octets_eq_self {t : Text} (h : ∀ c ∈ t, c < 0x80) : octets t = t := by
  induction t with
  | nil => rfl
  | cons c t ih =>
    have hc : c < 0x80 := h c (by simp)
    have ht := ih fun d hd => h d (by simp [hd])
    have hv : (UInt8.ofNat c).toNat = c := by
      rw [UInt8.toNat_ofNat']
      exact Nat.mod_eq_of_lt (Nat.lt_trans hc (by decide))
    unfold octets Utf8.encode at ht ⊢
    simp only [List.flatMap_cons, Utf8.encodeOne, hc, if_true, List.map_cons, hv,
      List.cons_append, List.nil_append, ht]

/-- The date that is written, unless a week or a day of the week is out of range. There is no
    year zero before whose months a week could lie. -/
def WrittenDate.resolve? : WrittenDate → Option (Except Error Date)
  | .calendar year month day => some (.ok ⟨year, month, day⟩)
  | .week y w d =>
    if 1 ≤ w ∧ (w ≤ 52 ∨ w = 53 ∧ hasWeek53 y) ∧ 1 ≤ d ∧ d ≤ 7 then
      some (if y = 0 then .error .monthOutOfRange else .ok (.ofWeek y w d))
    else none

/-- The timestamp of the parts given, if each is in its range. -/
def check (d : Timestamp) : Except Error Timestamp :=
  if d.year < 1 ∨ 9999 < d.year then .error (.yearOutOfRange d.year)
  else if d.month < 1 ∨ 12 < d.month then .error .monthOutOfRange
  else if d.day < 1 ∨ daysInMonth d.year d.month < d.day then .error .dayOutOfRange
  else if 24 ≤ d.hour then .error .hourOutOfRange
  else if 60 ≤ d.minute then .error .minuteOutOfRange
  else if 60 ≤ d.second then .error .secondOutOfRange
  else .ok d

/-- The timestamp in one of the forms of ISO 8601. -/
def ofIsoText (t : Text) : Except Error Timestamp :=
  match written? t with
  | none => .error (.malformed t)
  | some w =>
    match w.date.resolve? with
    | none => .error (.malformed t)
    | some date =>
      match w.offset.filter fun o => dayLength ≤ o.natAbs with
      | some offset => .error (.offsetTooLarge offset)
      | none =>
        match date with
        | .error e => .error e
        | .ok date =>
          check ⟨date, w.clock.hour, w.clock.minute, w.clock.second, w.clock.microsecond, w.offset⟩

/-- The text with a closing `Z` of either case written as an offset. -/
def spellUtc (t : Text) : Text :=
  match t.getLast? with
  | some c => if c = 0x5A ∨ c = 0x7A then t.dropLast ++ "+00:00" else t
  | none => t

/-- The text with at most six digits behind each point; `seen` says how many digits have come
    since the last point, if there are only digits behind it. -/
def shortenFractions (seen : Option Nat) : Text → Text
  | [] => []
  | c :: rest =>
    if c = 0x2E then c :: shortenFractions (some 0) rest
    else if Text.isDigit c then
      match seen with
      | some 6 => shortenFractions (some 6) rest
      | some n => c :: shortenFractions (some (n + 1)) rest
      | none => c :: shortenFractions none rest
    else c :: shortenFractions none rest

/-- The timestamp that a text holds between blanks. -/
def ofText (t : Text) : Except Error Timestamp :=
  ofIsoText (shortenFractions none (spellUtc t.trim))

end GridGauge.Timestamp
