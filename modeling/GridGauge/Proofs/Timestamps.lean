import GridGauge.Proofs.Digits
import GridGauge.Timestamp.Reader
import Mathlib.Data.List.Basic
import Mathlib.Data.List.TakeDrop
import Mathlib.Data.List.TakeWhile

/-!
# Timestamps are read as they are written

What a text is read as is a timestamp that can be written (`IsReadable`): its
parts are in their ranges, and its offset, if it is not zero, is a second at
least, since a smaller one is read as none. Such a timestamp is written in
digits and five other characters, with all its parts in the places where they
are looked for. Nothing of what is written is changed before it is read
(`IsPlain`), so that the timestamp is read again (`ofText_toText`), and every
text that holds one has a normal form (`normal_form_is_kept`).

The clock of a time of day and that of an offset are written alike
(`Clock.IsWritten`); each of the lemmas on clocks serves for both.
-/

namespace GridGauge

namespace Text

/-- A text that does not begin with a blank has none to be dropped. -/
theorem dropWhile_isBlank {t : Text} (h : ∀ c ∈ t.head?, isBlank c = false) :
    t.dropWhile isBlank = t := by
  cases t with
  | nil => rfl
  | cons c t => rw [List.dropWhile_cons_of_neg (by simp [h c rfl])]

/-- A text without blanks has none at its ends. -/
theorem trim_eq_self {t : Text} (h : ∀ c ∈ t, isBlank c = false) : t.trim = t := by
  rw [trim, trimBy, dropWhile_isBlank fun c hc => h c (List.mem_of_mem_head? hc),
    dropWhile_isBlank fun c hc => h c (List.mem_reverse.1 (List.mem_of_mem_head? hc)),
    List.reverse_reverse]

/-- Blanks on both sides of a text are trimmed, and no more than these if none is at its ends. -/
theorem trim_append {before t after : Text} (hbefore : ∀ c ∈ before, isBlank c = true)
    (hafter : ∀ c ∈ after, isBlank c = true) (ht : t ≠ [])
    (hhead : ∀ c ∈ t.head?, isBlank c = false) (hlast : ∀ c ∈ t.getLast?, isBlank c = false) :
    (before ++ (t ++ after)).trim = t := by
  have hfront : (t ++ after).dropWhile isBlank = t ++ after :=
    dropWhile_isBlank fun c hc => hhead c (by rwa [List.head?_append_of_ne_nil t ht] at hc)
  have hback : (t ++ after).reverse.dropWhile isBlank = t.reverse := by
    rw [List.reverse_append, List.dropWhile_append_of_pos fun c hc =>
      hafter c (List.mem_reverse.1 hc)]
    exact dropWhile_isBlank fun c hc => hlast c (by rwa [List.head?_reverse] at hc)
  rw [trim, trimBy, List.dropWhile_append_of_pos hbefore, hfront, hback, List.reverse_reverse]

/-- The digits of ASCII are digits. -/
theorem isDigit_of_isDecimalDigit {c : Nat} (h : isDecimalDigit c = true) : isDigit c = true := by
  obtain ⟨hlow, hhigh⟩ := isDecimalDigit_iff.1 h
  have hzero : digitZeros.find? (fun first => first ≤ c && c < first + 10) = some 48 := by
    rw [digitZeros, List.find?_cons_of_pos]
    simp only [Bool.and_eq_true, decide_eq_true_eq]
    omega
  rw [isDigit, digitValue?, hzero]
  rfl

end Text

namespace Timestamp

open Text

/-- Can the timestamp be written so that it is read again? -/
structure IsReadable (d : Timestamp) : Prop extends IsValid d where
  wholeOffset : ∀ o ∈ d.offset, o = 0 ∨ 1000000 ≤ o.natAbs

/-! ## Parts in writing -/

theorem number?_ofNatPadded (width n : Nat) : number? (ofNatPadded width n) = some n := by
  rw [number?, if_pos, decimalValue_ofNatPadded]
  exact List.all_eq_true.2 fun c hc => isDecimalDigit_of_mem_ofNatPadded hc

/-- Two digits are two characters, which are read as a number. -/
theorem exists_twoDigits {n : Nat} (h : n < 100) :
    ∃ a b, twoDigits n = [a, b] ∧ number? [a, b] = some n := by
  have hlength : (twoDigits n).length = 2 := length_ofNatPadded (by decide) h
  obtain ⟨a, b, hab⟩ := List.length_eq_two.1 hlength
  exact ⟨a, b, hab, hab ▸ number?_ofNatPadded 2 n⟩

theorem twoDigits?_twoDigits {n : Nat} (h : n < 100) (rest : Text) :
    twoDigits? (twoDigits n ++ rest) = some (n, rest) := by
  obtain ⟨a, b, hab, hn⟩ := exists_twoDigits h
  rw [hab]
  simp [twoDigits?, hn]

theorem twoDigits_ne_nil (n : Nat) : twoDigits n ≠ [] := ofNatPadded_ne_nil 2 n

theorem twoDigits_append_ne_nil (n : Nat) (rest : Text) : twoDigits n ++ rest ≠ [] :=
  List.append_ne_nil_of_left_ne_nil (twoDigits_ne_nil n) rest

/-- The text is nothing, for zero, or a point with up to six digits behind it, for the value that
    these have with zeros behind them to make up six. -/
inductive IsFraction : Nat → Text → Prop
  | absent : IsFraction 0 []
  | digits {ds : Text} : ds ≠ [] → (∀ c ∈ ds, isDecimalDigit c = true) → ds.length ≤ 6 →
      IsFraction (decimalValue (ds ++ repeated (6 - ds.length) 48)) (0x2E :: ds)

/-- Microseconds are written in six digits, or not at all if there are none. -/
theorem isFraction_fractionText {n : Nat} (h : n < 1000000) : IsFraction n (fractionText n) := by
  rw [fractionText]
  split
  · next hzero =>
    rw [hzero]
    exact .absent
  · have hlength : (ofNatPadded 6 n).length = 6 := length_ofNatPadded (by decide) h
    have hdigits := IsFraction.digits (ofNatPadded_ne_nil 6 n)
      (fun c hc => isDecimalDigit_of_mem_ofNatPadded hc) (Nat.le_of_eq hlength)
    rw [hlength, Nat.sub_self, repeated, List.replicate_zero, List.append_nil,
      decimalValue_ofNatPadded] at hdigits
    exact hdigits

/-- Up to six digits are read as if zeros stood behind them. -/
theorem fraction?_digits {ds : Text} (h : ∀ c ∈ ds, isDecimalDigit c = true)
    (hlength : ds.length ≤ 6) :
    fraction? ds = some (decimalValue (ds ++ repeated (6 - ds.length) 48), true) := by
  have htake : ds.take 6 = ds := List.take_of_length_le hlength
  have hdrop : ds.drop 6 = [] := List.drop_of_length_le hlength
  rw [fraction?, htake, hdrop, number?, if_pos (List.all_eq_true.2 h), decimalValue_append_zeros]
  rfl

/-! ## Clocks -/

/-- The clock in writing as far as to its minutes. -/
def Clock.minutesText (c : Clock) : Text := twoDigits c.hour ++ 0x3A :: twoDigits c.minute

/-- The clock in writing as far as to its seconds. -/
def Clock.secondsText (c : Clock) : Text := c.minutesText ++ 0x3A :: twoDigits c.second

/-- The clock in writing. -/
def Clock.text (c : Clock) : Text := c.secondsText ++ fractionText c.microsecond

/-- The parts of the clock have no more digits than they are given. -/
structure Clock.Fits (c : Clock) : Prop where
  hour : c.hour < 100
  minute : c.minute < 100
  second : c.second < 100
  microsecond : c.microsecond < 1000000

/-- The text is the clock in writing, its fraction in as many digits as it has, and perhaps
    without seconds if there are none. -/
inductive Clock.IsWritten (c : Clock) : Text → Prop
  | full {t : Text} : IsFraction c.microsecond t → c.IsWritten (c.secondsText ++ t)
  | short : c.second = 0 → c.microsecond = 0 → c.IsWritten c.minutesText

theorem Clock.Fits.isWritten_text {c : Clock} (h : c.Fits) : c.IsWritten c.text :=
  .full (isFraction_fractionText h.microsecond)

/-- Behind a colon two more digits follow, if anything does. -/
theorem next?_colon {rest : Text} (h : rest ≠ []) :
    next? true (0x3A :: rest) = some (.digits rest) := by
  cases rest with
  | nil => exact absurd rfl h
  | cons c rest => rfl

/-- Behind a point a fraction follows, if anything does. -/
theorem next?_point {rest : Text} (h : rest ≠ []) :
    next? true (0x2E :: rest) = some (.fraction rest) := by
  cases rest with
  | nil => exact absurd rfl h
  | cons c rest => rfl

/-- A clock is read from its writing, and nothing is left over. -/
theorem Clock.IsWritten.clock? {c : Clock} {t : Text} (h : c.IsWritten t) (hc : c.Fits) :
    clock? t = some (c, true) := by
  cases h with
  | full ht =>
    obtain ⟨hour, minute, second, microsecond⟩ := c
    rw [Timestamp.clock?, Clock.secondsText, Clock.minutesText, List.append_assoc,
      List.append_assoc, twoDigits?_twoDigits hc.hour]
    simp only [Option.bind_eq_bind, Option.bind_some, List.head?_cons, beq_self_eq_true,
      List.cons_append]
    rw [next?_colon (twoDigits_append_ne_nil _ _)]
    simp only [Option.bind_some, twoDigits?_twoDigits hc.minute]
    rw [next?_colon (twoDigits_append_ne_nil _ _)]
    simp only [Option.bind_some, twoDigits?_twoDigits hc.second]
    cases ht with
    | absent => rfl
    | digits hne hds hlength =>
      rw [next?_point hne]
      simp only [Option.bind_some, fraction?_digits hds hlength]
      rfl
  | short hsecond hmicrosecond =>
    obtain ⟨hour, minute, second, microsecond⟩ := c
    subst hsecond hmicrosecond
    have hend := twoDigits?_twoDigits hc.minute []
    rw [List.append_nil] at hend
    rw [Timestamp.clock?, Clock.minutesText, twoDigits?_twoDigits hc.hour]
    simp only [Option.bind_eq_bind, Option.bind_some, List.head?_cons, beq_self_eq_true]
    rw [next?_colon (twoDigits_ne_nil minute)]
    simp only [Option.bind_some, hend]
    rfl

/-! ## Offsets -/

/-- The hours, minutes, seconds and microseconds of an offset. -/
def clockOfOffset (offset : Int) : Clock where
  hour := offset.natAbs / 1000000 / 3600
  minute := offset.natAbs / 1000000 / 60 % 60
  second := offset.natAbs / 1000000 % 60
  microsecond := offset.natAbs % 1000000

theorem fits_clockOfOffset {offset : Int} (h : offset.natAbs < dayLength) :
    (clockOfOffset offset).Fits := by
  have hday : dayLength = 86400000000 := rfl
  constructor <;> simp only [clockOfOffset] <;> omega

/-- An offset in writing is a sign with a clock behind it. -/
theorem exists_offsetText (offset : Int) :
    ∃ t, offsetText offset = (if offset < 0 then 0x2D else 0x2B) :: t ∧
      (clockOfOffset offset).IsWritten t := by
  have hsign : (if offset < 0 then Text.ofString "-" else Text.ofString "+")
      = [if offset < 0 then 0x2D else 0x2B] := by
    split <;> rfl
  rw [offsetText, hsign]
  by_cases h : offset.natAbs / 1000000 % 60 = 0 ∧ offset.natAbs % 1000000 = 0
  · refine ⟨_, ?_, .short h.1 h.2⟩
    rw [if_pos h]
    simp [clockOfOffset, Clock.minutesText, Text.ofString]
  · have hmicrosecond : offset.natAbs % 1000000 < 1000000 := Nat.mod_lt _ (by decide)
    refine ⟨_, ?_, .full (isFraction_fractionText hmicrosecond)⟩
    rw [if_neg h]
    simp [clockOfOffset, Clock.secondsText, Clock.minutesText, Text.ofString]

/-- The microseconds of a clock. -/
def Clock.total (c : Clock) : Nat :=
  ((c.hour * 60 + c.minute) * 60 + c.second) * 1000000 + c.microsecond

/-- What a clock with a sign in front of it is read as, unless it has no whole second. -/
theorem offset?_clock {c : Clock} {t : Text} (ht : c.IsWritten t) (hc : c.Fits)
    (hwhole : c.total = 0 ∨ 1000000 ≤ c.total) (behind : Prop) [Decidable behind] :
    offset? ((if behind then 0x2D else 0x2B) :: t)
      = some (if behind then -(c.total : Int) else c.total) := by
  have hread := ht.clock? hc
  have hmicrosecond := hc.microsecond
  rw [Clock.total] at hwhole ⊢
  by_cases hbehind : behind
  · rw [if_pos hbehind, if_pos hbehind]
    simp only [offset?, hread, if_true]
    split <;> exact congrArg some (by omega)
  · rw [if_neg hbehind, if_neg hbehind]
    simp only [offset?, hread]
    split
    · exact congrArg some (by omega)
    · rw [if_neg (by decide)]
      exact congrArg some (by omega)

theorem total_clockOfOffset (offset : Int) : (clockOfOffset offset).total = offset.natAbs := by
  simp only [Clock.total, clockOfOffset]
  omega

/-- An offset of whole seconds, or none, is read from its writing. -/
theorem offset?_offsetText {offset : Int} (hday : offset.natAbs < dayLength)
    (hwhole : offset = 0 ∨ 1000000 ≤ offset.natAbs) :
    offset? (offsetText offset) = some offset := by
  obtain ⟨t, ht, hclock⟩ := exists_offsetText offset
  have htotal := total_clockOfOffset offset
  rw [ht, offset?_clock hclock (fits_clockOfOffset hday) (by omega), htotal]
  split <;> exact congrArg some (by omega)

/-! ## Characters -/

/-- Is a clock written with the character? -/
def isClockCharacter (c : Nat) : Bool := isDecimalDigit c || c == 0x2E || c == 0x3A

/-- Is a timestamp written with the character? -/
def isStampCharacter (c : Nat) : Bool := isClockCharacter c || c == 0x2B || c == 0x2D || c == 0x54

theorem lt_of_isStampCharacter {c : Nat} (h : isStampCharacter c = true) : c < 0x80 := by
  simp only [isStampCharacter, isClockCharacter, isDecimalDigit_iff, Bool.or_eq_true,
    beq_iff_eq] at h
  omega

/-- The characters of timestamps are neither blanks nor surrogates, and none of them is a `Z`. -/
theorem isStampCharacter_plain {c : Nat} (h : isStampCharacter c = true) :
    isBlank c = false ∧ isSurrogate c = false ∧ c ≠ 0x5A ∧ c ≠ 0x7A := by
  have hall : ∀ c < 0x80, isStampCharacter c = true →
      isBlank c = false ∧ isSurrogate c = false ∧ c ≠ 0x5A ∧ c ≠ 0x7A := by decide
  exact hall c (lt_of_isStampCharacter h) h

theorem isStampCharacter_of_isClockCharacter {c : Nat} (h : isClockCharacter c = true) :
    isStampCharacter c = true := by
  simp [isStampCharacter, h]

/-- No offset starts inside a clock. -/
theorem not_startsOffset {c : Nat} (h : isClockCharacter c = true) : startsOffset c = false := by
  have hall : ∀ c < 0x80, isClockCharacter c = true → startsOffset c = false := by decide
  exact hall c (lt_of_isStampCharacter (isStampCharacter_of_isClockCharacter h)) h

theorem all_ofNatPadded (width n : Nat) : (ofNatPadded width n).all isClockCharacter = true :=
  List.all_eq_true.2 fun c hc => by
    simp [isClockCharacter, isDecimalDigit_of_mem_ofNatPadded hc]

theorem all_twoDigits (n : Nat) : (twoDigits n).all isClockCharacter = true := all_ofNatPadded 2 n

theorem IsFraction.all {n : Nat} {t : Text} (h : IsFraction n t) :
    t.all isClockCharacter = true := by
  cases h with
  | absent => rfl
  | digits _ hds _ =>
    refine List.all_eq_true.2 fun c hc => ?_
    rcases List.mem_cons.1 hc with rfl | hc
    · rfl
    · simp [isClockCharacter, hds c hc]

theorem Clock.IsWritten.all {c : Clock} {t : Text} (h : c.IsWritten t) :
    t.all isClockCharacter = true := by
  have hcolon : isClockCharacter 0x3A = true := by decide
  have hminutes : c.minutesText.all isClockCharacter = true := by
    simp [Clock.minutesText, all_twoDigits, hcolon]
  cases h with
  | full ht => simp [Clock.secondsText, hminutes, all_twoDigits, ht.all, hcolon]
  | short => exact hminutes

/-! ## Dates and times -/

/-- What is written behind the clock. -/
def zoneText : Option Int → Text
  | none => []
  | some offset => offsetText offset

/-- A time of day ends at the first character with which an offset can start. -/
theorem time?_append {t zone : Text} {c : Clock} {sign : CodePoint} {o : Int} (ht : c.IsWritten t)
    (hc : c.Fits) (hsign : startsOffset sign = true) (hoffset : offset? (sign :: zone) = some o) :
    time? (t ++ sign :: zone) = some (c, some o) := by
  have hclock : ∀ x ∈ t, (!startsOffset x) = true := fun x hx => by
    simp [not_startsOffset (List.all_eq_true.1 ht.all x hx)]
  rw [time?, List.span_eq_takeWhile_dropWhile, List.takeWhile_append_of_pos hclock,
    List.dropWhile_append_of_pos hclock, List.takeWhile_cons_of_neg (by simp [hsign]),
    List.dropWhile_cons_of_neg (by simp [hsign]), List.append_nil]
  simp only [ht.clock? hc, Option.bind_eq_bind, Option.bind_some, hoffset]
  rfl

/-- A time of day and its offset are told apart by the sign of the offset. -/
theorem time?_text {c : Clock} {offset : Option Int} (hc : c.Fits)
    (hday : ∀ o ∈ offset, o.natAbs < dayLength)
    (hwhole : ∀ o ∈ offset, o = 0 ∨ 1000000 ≤ o.natAbs) :
    time? (c.text ++ zoneText offset) = some (c, offset) := by
  have hclock := hc.isWritten_text
  cases offset with
  | none =>
    have hplain : ∀ x ∈ c.text, (!startsOffset x) = true := fun x hx => by
      simp [not_startsOffset (List.all_eq_true.1 hclock.all x hx)]
    rw [zoneText, List.append_nil, time?, List.span_eq_takeWhile_dropWhile,
      List.takeWhile_eq_self_iff.2 hplain, List.dropWhile_eq_nil_iff.2 hplain]
    simp [hclock.clock? hc]
  | some o =>
    obtain ⟨t, ht, -⟩ := exists_offsetText o
    have hoffset := offset?_offsetText (hday o rfl) (hwhole o rfl)
    have hsign : startsOffset (if o < 0 then 0x2D else 0x2B) = true := by split <;> rfl
    rw [ht] at hoffset
    rw [zoneText, ht]
    exact time?_append hclock hc hsign hoffset

/-- A date in writing. -/
def dateText (d : Date) : Text :=
  ofNatPadded 4 d.year ++ 0x2D :: (twoDigits d.month ++ 0x2D :: twoDigits d.day)

/-- The time of day of a timestamp. -/
def clock (d : Timestamp) : Clock := ⟨d.hour, d.minute, d.second, d.microsecond⟩

theorem IsValid.fits_clock {d : Timestamp} (h : d.IsValid) : d.clock.Fits :=
  ⟨Nat.lt_trans h.hour (by decide), Nat.lt_trans h.minute (by decide),
    Nat.lt_trans h.second (by decide), h.microsecond⟩

theorem toText_eq (d : Timestamp) :
    d.toText = dateText d.toDate ++ 0x54 :: (d.clock.text ++ zoneText d.offset) := by
  cases h : d.offset <;>
    simp [toText, toTextWith, Date.toText, dateText, Clock.text, Clock.secondsText,
      Clock.minutesText, clock, zoneText, h,
      Text.ofString]

/-- The text of each part of a timestamp is of the characters of timestamps. -/
theorem isStampCharacter_of_all {t : Text} (h : t.all isClockCharacter = true) {c : Nat}
    (hc : c ∈ t) : isStampCharacter c = true :=
  isStampCharacter_of_isClockCharacter (List.all_eq_true.1 h c hc)

theorem isStampCharacter_of_mem_zoneText {offset : Option Int} {c : Nat}
    (hc : c ∈ zoneText offset) : isStampCharacter c = true := by
  cases offset with
  | none => cases hc
  | some o =>
    obtain ⟨t, ht, hclock⟩ := exists_offsetText o
    rw [zoneText, ht] at hc
    rcases List.mem_cons.1 hc with rfl | hc
    · split <;> rfl
    · exact isStampCharacter_of_all hclock.all hc

theorem isStampCharacter_of_mem_dateText {d : Date} {c : Nat} (hc : c ∈ dateText d) :
    isStampCharacter c = true := by
  have hdash : isStampCharacter 0x2D = true := rfl
  simp only [dateText, List.mem_append, List.mem_cons] at hc
  rcases hc with hc | rfl | hc | rfl | hc
  · exact isStampCharacter_of_all (all_ofNatPadded _ _) hc
  · exact hdash
  · exact isStampCharacter_of_all (all_twoDigits _) hc
  · exact hdash
  · exact isStampCharacter_of_all (all_twoDigits _) hc

theorem isStampCharacter_of_mem_toText {d : Timestamp} (h : d.IsValid) {c : Nat}
    (hc : c ∈ d.toText) : isStampCharacter c = true := by
  rw [toText_eq] at hc
  rcases List.mem_append.1 hc with hc | hc
  · exact isStampCharacter_of_mem_dateText hc
  rcases List.mem_cons.1 hc with rfl | hc
  · rfl
  rcases List.mem_append.1 hc with hc | hc
  · exact isStampCharacter_of_all h.fits_clock.isWritten_text.all hc
  · exact isStampCharacter_of_mem_zoneText hc

/-- The ten characters of a date, of which the sixth is a digit. -/
theorem exists_dateText {d : Date} (hyear : d.year < 10000) (hmonth : d.month < 100)
    (hday : d.day < 100) :
    ∃ a b c e m n k l : CodePoint, dateText d = [a, b, c, e, 0x2D, m, n, 0x2D, k, l] ∧
      m ≠ 0x57 ∧ date? (dateText d) = some (.calendar d.year d.month d.day) := by
  have hlength : (ofNatPadded 4 d.year).length = 4 := length_ofNatPadded (by decide) hyear
  obtain ⟨a, b, c, e, hy⟩ := List.length_eq_four.1 hlength
  have hy' : number? [a, b, c, e] = some d.year := hy ▸ number?_ofNatPadded 4 d.year
  obtain ⟨m, n, hm, hm'⟩ := exists_twoDigits hmonth
  obtain ⟨k, l, hk, hk'⟩ := exists_twoDigits hday
  -- A `W` in this place would make it the date of a week.
  have hdigit : m ≠ 0x57 := by
    rintro rfl
    have hmem : 0x57 ∈ twoDigits d.month := hm ▸ List.mem_cons_self
    exact absurd (isDecimalDigit_of_mem_ofNatPadded hmem) (by decide)
  have htext : dateText d = [a, b, c, e, 0x2D, m, n, 0x2D, k, l] := by
    rw [dateText, hy, hm, hk]
    rfl
  refine ⟨a, b, c, e, m, n, k, l, htext, hdigit, ?_⟩
  rw [htext, date?, hy', hm', hk']
  · rfl
  · exact fun h => absurd h hdigit

theorem daysInMonth_le (year month : Nat) : daysInMonth year month ≤ 31 := by
  unfold daysInMonth
  repeat' split
  all_goals omega

theorem IsValid.date_lt {d : Timestamp} (h : d.IsValid) :
    d.year < 10000 ∧ d.month < 100 ∧ d.day < 100 := by
  obtain ⟨⟨-, hyear⟩, ⟨-, hmonth⟩, ⟨-, hday⟩, -⟩ := h
  have hdays := daysInMonth_le d.year d.month
  omega

/-- A date is told from the time behind it by its length, whatever stands between them. -/
theorem written?_append {d : Date} (hyear : d.year < 10000) (hmonth : d.month < 100)
    (hday : d.day < 100) {separator : CodePoint} {t : Text} (hseparator : separator < 0x80)
    (ht : ∀ c ∈ t, c < 0x80) {c : Clock} {offset : Option Int}
    (htime : time? t = some (c, offset)) :
    written? (dateText d ++ separator :: t)
      = some ⟨.calendar d.year d.month d.day, c, offset⟩ := by
  have hascii : ∀ c ∈ dateText d ++ separator :: t, c < 0x80 := by
    simp only [List.mem_append, List.mem_cons]
    rintro c (hc | rfl | hc)
    · exact lt_of_isStampCharacter (isStampCharacter_of_mem_dateText hc)
    · exact hseparator
    · exact ht c hc
  have hsurrogate : ∀ c ∈ dateText d ++ separator :: t, isSurrogate c = false := fun c hc => by
    have hlt : c < 0x80 := hascii c hc
    simp only [isSurrogate, Bool.and_eq_false_iff, decide_eq_false_iff_not]
    exact .inl (Nat.not_le_of_lt (Nat.lt_trans hlt (by decide)))
  have hplain : plainSeparator (dateText d ++ separator :: t) = dateText d ++ separator :: t := by
    have hfind : [7, 8, 10].find? (fun i =>
        ((dateText d ++ separator :: t)[i]?.map isSurrogate).getD false) = none := by
      refine List.find?_eq_none.2 fun i _ => ?_
      cases hi : (dateText d ++ separator :: t)[i]? with
      | none => simp
      | some c => simp [hsurrogate c (List.mem_of_getElem? hi)]
    rw [plainSeparator, hfind]
  obtain ⟨a, b, c', e, m, n, k, l, hdate, hm, hread⟩ := exists_dateText hyear hmonth hday
  have hguard : 7 ≤ (dateText d ++ separator :: t).length ∧
      (dateText d ++ separator :: t).all (!isSurrogate ·) = true := by
    refine ⟨?_, List.all_eq_true.2 fun c hc => by simp [hsurrogate c hc]⟩
    rw [hdate]
    simp
  rw [written?, hplain, octets_eq_self hascii, guard, if_pos hguard, hdate]
  have hlength :
      dateLength? ([a, b, c', e, 0x2D, m, n, 0x2D, k, l] ++ separator :: t) = some 10 := by
    simp [dateLength?, hm]
  have hsize : sizeOfLead separator - 1 = 0 := by rw [sizeOfLead, if_pos hseparator]
  rw [hdate] at hread
  simp only [pure_bind, Option.bind_eq_bind, hlength, Option.bind_some]
  -- What is behind the date is its separator, and behind that the time.
  rw [show List.take 10 ([a, b, c', e, 0x2D, m, n, 0x2D, k, l] ++ separator :: t)
      = [a, b, c', e, 0x2D, m, n, 0x2D, k, l] from rfl,
    show List.drop 10 ([a, b, c', e, 0x2D, m, n, 0x2D, k, l] ++ separator :: t)
      = separator :: t from rfl, hread]
  simp only [Option.bind_some, hsize, List.drop_zero, htime]
  rfl

/-- The parts of a timestamp are found in its writing. -/
theorem written?_toText {d : Timestamp} (h : d.IsReadable) :
    written? d.toText = some ⟨.calendar d.year d.month d.day, d.clock, d.offset⟩ := by
  obtain ⟨hyear, hmonth, hday⟩ := h.date_lt
  have htime := time?_text h.fits_clock h.offset h.wholeOffset
  have hstamp : ∀ c ∈ d.clock.text ++ zoneText d.offset, c < 0x80 := fun c hc =>
    lt_of_isStampCharacter (isStampCharacter_of_mem_toText h.toIsValid
      (by rw [toText_eq]; exact List.mem_append_right _ (List.mem_cons_of_mem _ hc)))
  rw [toText_eq]
  exact written?_append hyear hmonth hday (by decide) hstamp htime

theorem check_eq_ok {d : Timestamp} (h : d.IsValid) : check d = .ok d := by
  obtain ⟨⟨hyear, hyear'⟩, ⟨hmonth, hmonth'⟩, ⟨hday, hday'⟩, hhour, hminute, hsecond, -, -⟩ := h
  rw [check, if_neg (by omega), if_neg (by omega), if_neg (by omega), if_neg (by omega),
    if_neg (by omega), if_neg (by omega)]

/-- Parts that are found in a text are read if they are in their ranges. -/
theorem ofIsoText_of_written {t : Text} {d : Timestamp} (h : d.IsValid)
    (hwritten : written? t = some ⟨.calendar d.year d.month d.day, d.clock, d.offset⟩) :
    ofIsoText t = .ok d := by
  have hoffset : d.offset.filter (fun o => dayLength ≤ o.natAbs) = none := by
    refine Option.filter_eq_none_iff.2 fun o ho => ?_
    simpa using h.offset o ho
  rw [ofIsoText, hwritten]
  simp only [WrittenDate.resolve?, hoffset]
  exact check_eq_ok h

/-! ## Fractions -/

/-- Where there is no point, there is no fraction to be made shorter. -/
theorem shortenFractions_append {t : Text} (h : 0x2E ∉ t) (rest : Text) :
    shortenFractions none (t ++ rest) = t ++ shortenFractions none rest := by
  induction t with
  | nil => rfl
  | cons c t ih =>
    rw [List.mem_cons, not_or] at h
    rw [List.cons_append, shortenFractions, if_neg (Ne.symm h.1), ih h.2]
    split <;> rfl

/-- How many digits there have been is forgotten where there is no digit. -/
theorem shortenFractions_some {rest : Text} (h : ∀ c ∈ rest.head?, isDigit c = false)
    (seen : Nat) : shortenFractions (some seen) rest = shortenFractions none rest := by
  cases rest with
  | nil => rfl
  | cons c rest =>
    have hc : ¬isDigit c = true := by simp [h c rfl]
    simp only [shortenFractions.eq_def _ (c :: rest), if_neg hc]

/-- Of the digits behind a point the first six are kept. -/
theorem shortenFractions_digits {digits : Text} (h : ∀ c ∈ digits, isDecimalDigit c = true)
    {rest : Text} (hrest : ∀ c ∈ rest.head?, isDigit c = false) :
    ∀ seen ≤ 6, shortenFractions (some seen) (digits ++ rest)
      = digits.take (6 - seen) ++ shortenFractions none rest := by
  induction digits with
  | nil => exact fun seen _ => by simp [shortenFractions_some hrest]
  | cons c digits ih =>
    intro seen hseen
    have hc : isDigit c = true := isDigit_of_isDecimalDigit (h c List.mem_cons_self)
    have hpoint : c ≠ 0x2E := by
      rintro rfl
      exact absurd hc (by decide)
    have ih := ih fun d hd => h d (List.mem_cons_of_mem _ hd)
    -- When six have been seen, this one is dropped, and so are all behind it.
    obtain rfl | hlt := Nat.eq_or_lt_of_le hseen
    · rw [List.cons_append, shortenFractions, if_neg hpoint, if_pos hc]
      exact ih 6 hseen
    · rw [List.cons_append, shortenFractions, if_neg hpoint, if_pos hc]
      · rw [ih (seen + 1) hlt, ← List.cons_append, ← List.take_succ_cons,
          show 6 - (seen + 1) + 1 = 6 - seen by omega]
      · omega

/-- A point with digits behind it is kept with the first six, whatever comes next but a digit. -/
theorem shortenFractions_point {digits : Text} (h : ∀ c ∈ digits, isDecimalDigit c = true)
    {rest : Text} (hrest : ∀ c ∈ rest.head?, isDigit c = false) :
    shortenFractions none (0x2E :: digits ++ rest)
      = 0x2E :: digits.take 6 ++ shortenFractions none rest := by
  rw [List.cons_append, shortenFractions, if_pos rfl,
    shortenFractions_digits h hrest 0 (Nat.zero_le 6), Nat.sub_zero, List.cons_append]

/-- A fraction of up to six digits is short enough. -/
theorem IsFraction.shortenFractions {n : Nat} {t : Text} (h : IsFraction n t) {rest : Text}
    (hrest : ∀ c ∈ rest.head?, isDigit c = false) :
    shortenFractions none (t ++ rest) = t ++ Timestamp.shortenFractions none rest := by
  cases h with
  | absent => rfl
  | digits _ hds hlength => rw [shortenFractions_point hds hrest, List.take_of_length_le hlength]

theorem point_notMem_twoDigits (n : Nat) : 0x2E ∉ twoDigits n :=
  fun h => absurd (isDecimalDigit_of_mem_ofNatPadded h) (by decide)

theorem point_notMem_minutesText (c : Clock) : 0x2E ∉ c.minutesText := by
  simp [Clock.minutesText, point_notMem_twoDigits]

theorem point_notMem_secondsText (c : Clock) : 0x2E ∉ c.secondsText := by
  simp [Clock.secondsText, point_notMem_minutesText, point_notMem_twoDigits]

theorem point_notMem_dateText (d : Date) : 0x2E ∉ dateText d := by
  have hyear : 0x2E ∉ ofNatPadded 4 d.year :=
    fun h => absurd (isDecimalDigit_of_mem_ofNatPadded h) (by decide)
  simp [dateText, hyear, point_notMem_twoDigits]

/-- A clock in writing has no fraction that is too long. -/
theorem Clock.IsWritten.shortenFractions {c : Clock} {t : Text} (h : c.IsWritten t) {rest : Text}
    (hrest : ∀ c ∈ rest.head?, isDigit c = false) :
    shortenFractions none (t ++ rest) = t ++ Timestamp.shortenFractions none rest := by
  cases h with
  | full ht =>
    rw [List.append_assoc, shortenFractions_append (point_notMem_secondsText c),
      ht.shortenFractions hrest, List.append_assoc]
  | short => exact shortenFractions_append (point_notMem_minutesText c) rest

theorem shortenFractions_zoneText (offset : Option Int) :
    shortenFractions none (zoneText offset) = zoneText offset := by
  cases offset with
  | none => rfl
  | some o =>
    obtain ⟨t, ht, hclock⟩ := exists_offsetText o
    have hshort : shortenFractions none (t ++ []) = t ++ [] :=
      hclock.shortenFractions (by simp)
    rw [List.append_nil] at hshort
    have hsign : 0x2E ∉ [if o < 0 then 0x2D else 0x2B] := by split <;> decide
    have happend := shortenFractions_append hsign t
    rw [List.singleton_append] at happend
    rw [zoneText, ht, happend, hshort, List.singleton_append]

theorem shortenFractions_toText {d : Timestamp} (h : d.IsValid) :
    shortenFractions none d.toText = d.toText := by
  have hfront : 0x2E ∉ dateText d.toDate ++ [0x54] := by simp [point_notMem_dateText]
  have hzone : ∀ c ∈ (zoneText d.offset).head?, isDigit c = false := by
    cases d.offset with
    | none => exact fun _ h => by cases h
    | some o =>
      obtain ⟨t, ht, -⟩ := exists_offsetText o
      rw [zoneText, ht]
      rintro _ ⟨⟩
      split <;> rfl
  have htext : d.toText = (dateText d.toDate ++ [0x54]) ++ (d.clock.text ++ zoneText d.offset) := by
    rw [toText_eq, List.append_assoc, List.singleton_append]
  rw [htext, shortenFractions_append hfront,
    h.fits_clock.isWritten_text.shortenFractions hzone, shortenFractions_zoneText]

/-! ## Reading what is written -/

/-- The text is read as it stands: there is no blank at its ends, no `Z` behind it and no fraction
    that is too long. -/
structure IsPlain (t : Text) : Prop where
  trim : t.trim = t
  spellUtc : spellUtc t = t
  shortenFractions : shortenFractions none t = t

theorem IsPlain.ofText {t : Text} (h : IsPlain t) : ofText t = ofIsoText t := by
  rw [Timestamp.ofText, h.trim, h.spellUtc, h.shortenFractions]

/-- What does not end in a `Z` stays. -/
theorem spellUtc_eq_self {t : Text} (h : ∀ c ∈ t.getLast?, c ≠ 0x5A ∧ c ≠ 0x7A) :
    spellUtc t = t := by
  rw [spellUtc]
  split
  · next c hc => rw [if_neg (not_or.2 (h c hc))]
  · rfl

theorem isPlain_toText {d : Timestamp} (h : d.IsValid) : IsPlain d.toText := by
  have hplain : ∀ c ∈ d.toText, _ := fun c hc =>
    isStampCharacter_plain (isStampCharacter_of_mem_toText h hc)
  exact ⟨trim_eq_self fun c hc => (hplain c hc).1,
    spellUtc_eq_self fun c hc => (hplain c (List.mem_of_getLast? hc)).2.2,
    shortenFractions_toText h⟩

/-- A timestamp of some text is read again from its writing. -/
theorem ofText_toText {d : Timestamp} (h : d.IsReadable) : ofText d.toText = .ok d := by
  rw [(isPlain_toText h.toIsValid).ofText, ofIsoText_of_written h.toIsValid (written?_toText h)]

/-! ## What is read -/

theorem fraction?_lt {t : Text} {n : Nat} {complete : Bool} (h : fraction? t = some (n, complete)) :
    n < 1000000 := by
  obtain ⟨value, hvalue, h⟩ := Option.bind_eq_some_iff.1 h
  cases h
  rw [number?] at hvalue
  split at hvalue
  · next hdigits =>
    cases hvalue
    have hlt := decimalValue_lt (List.all_eq_true.1 hdigits)
    have hlength : (t.take 6).length ≤ 6 := List.length_take_le 6 t
    have hpow : Nat.pow 10 (t.take 6).length * Nat.pow 10 (6 - (t.take 6).length) = 1000000 := by
      have hadd := Nat.pow_add 10 (t.take 6).length (6 - (t.take 6).length)
      rw [Nat.add_sub_cancel' hlength] at hadd
      exact hadd.symm
    rw [← hpow]
    exact Nat.mul_lt_mul_of_pos_right hlt (Nat.pow_pos (by decide))
  · cases hvalue

theorem clock?_microsecond {t : Text} {c : Clock} {complete : Bool}
    (h : clock? t = some (c, complete)) : c.microsecond < 1000000 := by
  have hzero : 0 < 1000000 := by decide
  -- It is a fraction that sets the microsecond, and there may be one behind each of the parts.
  obtain ⟨⟨hour, rest⟩, -, h⟩ := Option.bind_eq_some_iff.1 h
  obtain ⟨next, -, h⟩ := Option.bind_eq_some_iff.1 h
  cases next with
  | stop _ =>
    cases h
    exact hzero
  | fraction rest =>
    obtain ⟨⟨micro, _⟩, hmicro, h⟩ := Option.bind_eq_some_iff.1 h
    cases h
    exact fraction?_lt hmicro
  | digits rest =>
    obtain ⟨⟨minute, rest⟩, -, h⟩ := Option.bind_eq_some_iff.1 h
    obtain ⟨next, -, h⟩ := Option.bind_eq_some_iff.1 h
    cases next with
    | stop _ =>
      cases h
      exact hzero
    | fraction rest =>
      obtain ⟨⟨micro, _⟩, hmicro, h⟩ := Option.bind_eq_some_iff.1 h
      cases h
      exact fraction?_lt hmicro
    | digits rest =>
      obtain ⟨⟨second, rest⟩, -, h⟩ := Option.bind_eq_some_iff.1 h
      obtain ⟨next, -, h⟩ := Option.bind_eq_some_iff.1 h
      cases next with
      | stop _ =>
        cases h
        exact hzero
      | fraction rest | digits rest =>
        obtain ⟨⟨micro, _⟩, hmicro, h⟩ := Option.bind_eq_some_iff.1 h
        cases h
        exact fraction?_lt hmicro

theorem offset?_whole {t : Text} {o : Int} (h : offset? t = some o) :
    o = 0 ∨ 1000000 ≤ o.natAbs := by
  unfold offset? at h
  split at h
  · split at h <;> cases h
    exact .inl rfl
  · split at h
    · next c hc =>
      -- What has no whole second is taken for no offset, whatever its fraction.
      by_cases hzero : (((c.hour * 60 + c.minute) * 60 + c.second : Nat) : Int) = 0
      · rw [if_pos hzero, Option.some.injEq] at h
        exact .inl h.symm
      · rw [if_neg hzero, Option.some.injEq] at h
        refine .inr ?_
        split at h <;> omega
    · cases h
  · cases h

theorem time?_parts {t : Text} {c : Clock} {offset : Option Int} (h : time? t = some (c, offset)) :
    c.microsecond < 1000000 ∧ ∀ o ∈ offset, o = 0 ∨ 1000000 ≤ o.natAbs := by
  unfold time? at h
  split at h
  · obtain ⟨⟨clock, complete⟩, hclock, h⟩ := Option.bind_eq_some_iff.1 h
    simp only at h
    split at h
    · cases h
      exact ⟨clock?_microsecond hclock, nofun⟩
    · cases h
  · obtain ⟨⟨clock, complete⟩, hclock, h⟩ := Option.bind_eq_some_iff.1 h
    obtain ⟨o, ho, h⟩ := Option.bind_eq_some_iff.1 h
    cases h
    refine ⟨clock?_microsecond hclock, ?_⟩
    rintro _ ⟨⟩
    exact offset?_whole ho

theorem written?_parts {t : Text} {w : Written} (h : written? t = some w) :
    w.clock.microsecond < 1000000 ∧ ∀ o ∈ w.offset, o = 0 ∨ 1000000 ≤ o.natAbs := by
  obtain ⟨_, -, h⟩ := Option.bind_eq_some_iff.1 h
  obtain ⟨n, -, h⟩ := Option.bind_eq_some_iff.1 h
  obtain ⟨date, -, h⟩ := Option.bind_eq_some_iff.1 h
  split at h
  · cases h
    exact ⟨Nat.succ_pos _, nofun⟩
  · obtain ⟨⟨clock, offset⟩, htime, h⟩ := Option.bind_eq_some_iff.1 h
    cases h
    exact time?_parts htime

/-- Of the timestamps whose parts are small enough where this is not checked, those in range
    pass. -/
theorem isReadable_of_check {d e : Timestamp} (h : check d = .ok e)
    (hmicro : d.microsecond < 1000000) (hday : ∀ o ∈ d.offset, o.natAbs < dayLength)
    (hwhole : ∀ o ∈ d.offset, o = 0 ∨ 1000000 ≤ o.natAbs) : e.IsReadable := by
  unfold check at h
  repeat' split at h
  all_goals cases h
  exact { year := by omega, month := by omega, day := by omega, hour := by omega,
          minute := by omega, second := by omega, microsecond := hmicro, offset := hday,
          wholeOffset := hwhole }

/-- What a text is read as can be written and read again. -/
theorem isReadable_of_ofText {t : Text} {d : Timestamp} (h : ofText t = .ok d) : d.IsReadable := by
  rw [ofText, ofIsoText] at h
  split at h
  · cases h
  · next w hw =>
    obtain ⟨hmicro, hwhole⟩ := written?_parts hw
    split at h
    · cases h
    · split at h
      · cases h
      · next hday =>
        split at h
        · cases h
        · refine isReadable_of_check h hmicro (fun o ho => ?_) hwhole
          have := Option.filter_eq_none_iff.1 hday o ho
          simpa using this

/-- The timestamps that texts are read as are those that can be written and read again. -/
theorem isReadable_iff {d : Timestamp} : d.IsReadable ↔ ∃ t, ofText t = .ok d :=
  ⟨fun h => ⟨_, ofText_toText h⟩, fun ⟨_, h⟩ => isReadable_of_ofText h⟩

/-! ## Normal forms -/

/-- The timestamp that a text holds, in writing. -/
def normalize (t : Text) : Except Error Text := (ofText t).map toText

theorem normalize_of_ofText {t : Text} {d : Timestamp} (h : ofText t = .ok d) :
    normalize t = .ok d.toText := by
  rw [normalize, h]
  rfl

/-- The timestamps that are read are those that can be written and read again. In whatever form a
    text holds one of them, it is kept in all its parts when it is written and read again, it is
    written in a form that is read as it stands, and nothing changes when the same is done with
    that. -/
theorem normal_form_is_kept :
    (∀ d : Timestamp, (∃ t, ofText t = .ok d) ↔ d.IsReadable) ∧
      (∀ t d, ofText t = .ok d → IsPlain d.toText ∧ ofText d.toText = .ok d) ∧
      ∀ t, (normalize t >>= normalize) = normalize t := by
  -- However it was written, what has been read can be written so that it is read again.
  have hkept : ∀ t d, ofText t = .ok d → ofText d.toText = .ok d := fun t d h =>
    ofText_toText (isReadable_of_ofText h)
  refine ⟨fun d => isReadable_iff.symm, fun t d h => ⟨?_, hkept t d h⟩, fun t => ?_⟩
  · exact isPlain_toText (isReadable_of_ofText h).toIsValid
  · cases h : ofText t with
    | error e =>
      rw [normalize, h]
      rfl
    | ok d =>
      rw [normalize_of_ofText h]
      exact (pure_bind (m := Except Error) d.toText normalize).trans
        (normalize_of_ofText (hkept t d h))

/-- A day of the last week of a year that has 53, without dashes, is normalized to a day of the
    next year; the fraction behind its hour is one of seconds, and the minutes of its offset are
    more than an hour. -/
theorem week_date_is_normalized :
    let t : Text := "\t2020W537_01,5-00:99:30.25\n"
    let normal : Text := "2021-01-03T01:00:00.500000-01:39:30.250000"
    let d : Timestamp := ⟨⟨2021, 1, 3⟩, 1, 0, 0, 500000, some (-5970250000)⟩
    ofText t = .ok d ∧ d.toText = normal ∧ ofText normal = .ok d ∧
      (normalize t >>= normalize) = .ok normal := by
  intro t normal d
  have hread : ofText t = .ok d := by decide +kernel
  have hwritten : d.toText = normal := by decide +kernel
  obtain ⟨-, hkept, hfixed⟩ := normal_form_is_kept
  exact ⟨hread, hwritten, hwritten ▸ (hkept t d hread).2,
    (hfixed t).trans ((normalize_of_ofText hread).trans (congrArg Except.ok hwritten))⟩

end Timestamp

end GridGauge
