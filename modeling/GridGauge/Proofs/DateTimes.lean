import GridGauge.Proofs.Timestamps

/-!
# Date-times are read as what they say

A date-time of RFC 3339 (`DateTime`) is a day of the calendar with a time of
day, whose fraction may have any number of digits, and an offset in hours and
minutes or a `Z` that stands for one of zero. Which days the calendar has
(`Date.IsCalendar`) and what a fraction is worth (`microseconds`) is said here
without regard to how they are read.

Before a text is read its `Z` is spelled out as an offset and its fraction is
cut. What comes out is the text of a date-time too, a brief one
(`DateTime.brief`), of which the parts are found by their places
(`DateTime.written?_brief`). They are the ones that the date-time says: the
digits that were cut had no part in the millionths of a second.
-/

namespace GridGauge

/-! ## The calendar -/

/-- The calendar has the day. -/
inductive Date.IsCalendar : Date → Prop
  | long {year month day : Nat} : month ∈ [1, 3, 5, 7, 8, 10, 12] → 1 ≤ day → day ≤ 31 →
      IsCalendar ⟨year, month, day⟩
  | short {year month day : Nat} : month ∈ [4, 6, 9, 11] → 1 ≤ day → day ≤ 30 →
      IsCalendar ⟨year, month, day⟩
  | february {year day : Nat} : 1 ≤ day → day ≤ 28 → IsCalendar ⟨year, 2, day⟩
  | leapDay {year : Nat} : 4 ∣ year → (100 ∣ year → 400 ∣ year) → IsCalendar ⟨year, 2, 29⟩

/-- A year is leap if four divides it, except for the centuries that 400 does not divide. -/
theorem isLeapYear_iff {year : Nat} :
    isLeapYear year = true ↔ 4 ∣ year ∧ (100 ∣ year → 400 ∣ year) := by
  simp only [isLeapYear, Bool.and_eq_true, Bool.or_eq_true, beq_iff_eq, bne_iff_ne]
  omega

/-- The days of the calendar are those that the lengths of its months allow. -/
theorem Date.isCalendar_iff {d : Date} :
    d.IsCalendar ↔
      (1 ≤ d.month ∧ d.month ≤ 12) ∧ 1 ≤ d.day ∧ d.day ≤ daysInMonth d.year d.month := by
  constructor
  · intro h
    cases h with
    | @long year month day hmonth hlow hhigh =>
      have hrange : ∀ m ∈ [1, 3, 5, 7, 8, 10, 12], 1 ≤ m ∧ m ≤ 12 := by decide
      have hlength : ∀ m ∈ [1, 3, 5, 7, 8, 10, 12], daysInMonth year m = 31 := by simp [daysInMonth]
      exact ⟨hrange month hmonth, hlow, hhigh.trans (hlength month hmonth).ge⟩
    | @short year month day hmonth hlow hhigh =>
      have hrange : ∀ m ∈ [4, 6, 9, 11], 1 ≤ m ∧ m ≤ 12 := by decide
      have hlength : ∀ m ∈ [4, 6, 9, 11], daysInMonth year m = 30 := by simp [daysInMonth]
      exact ⟨hrange month hmonth, hlow, hhigh.trans (hlength month hmonth).ge⟩
    | february hlow hhigh =>
      refine ⟨by simp, hlow, ?_⟩
      simp only [daysInMonth]
      split <;> omega
    | leapDay hfour hcentury =>
      refine ⟨by simp, by simp, ?_⟩
      simp only [daysInMonth, if_pos (isLeapYear_iff.2 ⟨hfour, hcentury⟩), Nat.le_refl]
  · obtain ⟨year, month, day⟩ := d
    rintro ⟨-, hlow, hhigh⟩
    simp only [daysInMonth] at hlow hhigh
    -- The cases are the months, in the order in which their lengths are listed.
    split at hhigh
    iterate 7 exact .long (by decide) hlow hhigh
    iterate 4 exact .short (by decide) hlow hhigh
    · split at hhigh
      · next hleap =>
        obtain ⟨hfour, hcentury⟩ := isLeapYear_iff.1 hleap
        obtain hday | rfl := Nat.lt_or_eq_of_le hhigh
        · exact .february hlow (Nat.le_of_lt_succ hday)
        · exact .leapDay hfour hcentury
      · exact .february hlow hhigh
    · omega

namespace Timestamp

open Text

/-! ## Fractions -/

/-- The millionths that the first six of the digits behind a point stand for, with zeros for the
    digits that are missing. -/
def microseconds (digits : List (Fin 10)) : Nat :=
  ((digits ++ List.replicate 6 0).take 6).foldl (fun n (d : Fin 10) => 10 * n + d.val) 0

/-- Digits in writing. -/
def digitText (digits : List (Fin 10)) : Text := digits.map fun d => 48 + d.val

/-- The digits behind a point, if there are any. -/
def pointText (digits : List (Fin 10)) : Text :=
  if digits = [] then [] else 0x2E :: digitText digits

theorem isDecimalDigit_of_mem_digitText {digits : List (Fin 10)} {c : CodePoint}
    (hc : c ∈ digitText digits) : isDecimalDigit c = true := by
  obtain ⟨d, -, rfl⟩ := List.mem_map.1 hc
  exact isDecimalDigit_iff.2 (by omega)

theorem decimalValue_digitText (digits : List (Fin 10)) :
    decimalValue (digitText digits) = digits.foldl (fun n (d : Fin 10) => 10 * n + d.val) 0 := by
  simp only [decimalValue, digitText, List.foldl_map, Nat.add_sub_cancel_left]

theorem microseconds_lt (digits : List (Fin 10)) : microseconds digits < 1000000 := by
  have hdigits : ∀ c ∈ digitText ((digits ++ List.replicate 6 0).take 6), isDecimalDigit c = true :=
    fun c hc => isDecimalDigit_of_mem_digitText hc
  have hlength : (digitText ((digits ++ List.replicate 6 0).take 6)).length = 6 := by
    simp [digitText]
  have hlt := decimalValue_lt hdigits
  rwa [decimalValue_digitText, hlength] at hlt

/-- Digits from the seventh on count for nothing. -/
theorem microseconds_take (digits : List (Fin 10)) :
    microseconds (digits.take 6) = microseconds digits := by
  have htake : (digits.take 6 ++ List.replicate 6 0).take 6
      = (digits ++ List.replicate 6 0).take 6 := by
    rw [List.take_append, List.take_append, List.take_take, Nat.min_self, List.length_take]
    congr 2
    omega
  rw [microseconds, microseconds, htake]

/-- Up to six digits behind a point are read as the millionths they stand for. -/
theorem isFraction_pointText {digits : List (Fin 10)} (h : digits.length ≤ 6) :
    IsFraction (microseconds digits) (pointText digits) := by
  rw [pointText]
  split
  · next hnone =>
    rw [hnone]
    exact .absent
  · next hsome =>
    have hne : digitText digits ≠ [] := fun hnil => hsome (List.map_eq_nil_iff.1 hnil)
    have hlength : (digitText digits).length = digits.length := List.length_map _
    have hzeros : digitText digits ++ repeated (6 - digits.length) 48
        = digitText ((digits ++ List.replicate 6 0).take 6) := by
      rw [List.take_append, List.take_of_length_le h, List.take_replicate,
        Nat.min_eq_left (Nat.sub_le 6 _), digitText, digitText, List.map_append,
        List.map_replicate]
      rfl
    have hdigits := IsFraction.digits hne (fun c hc => isDecimalDigit_of_mem_digitText hc)
      (by rwa [hlength])
    rwa [hlength, hzeros, decimalValue_digitText] at hdigits

/-- Of a fraction in writing the first six digits are kept. -/
theorem shortenFractions_pointText (digits : List (Fin 10)) {rest : Text}
    (hrest : ∀ c ∈ rest.head?, isDigit c = false) :
    shortenFractions none (pointText digits ++ rest)
      = pointText (digits.take 6) ++ shortenFractions none rest := by
  rw [pointText, pointText]
  by_cases h : digits = []
  · rw [h]
    rfl
  · have htake : digits.take 6 ≠ [] := by simp [h]
    rw [if_neg h, if_neg htake,
      shortenFractions_point (fun c hc => isDecimalDigit_of_mem_digitText hc) hrest, digitText,
      digitText, List.map_take]

/-! ## Zones -/

/-- Where a time of day holds: at UTC, which a `Z` of either case stands for, or a number of hours
    and minutes ahead of it or behind it. -/
inductive Zone
  | utc (lower : Bool)
  | shifted (behind : Bool) (hour : Fin 24) (minute : Fin 60)

namespace Zone

/-- The hours and minutes between a zone and UTC, as a clock. -/
def shiftClock (hour : Fin 24) (minute : Fin 60) : Clock := ⟨hour, minute, 0, 0⟩

/-- The zone in writing. -/
def text : Zone → Text
  | utc lower => [if lower then 0x7A else 0x5A]
  | shifted behind hour minute =>
    (if behind then 0x2D else 0x2B) :: (shiftClock hour minute).minutesText

/-- The offset of the zone from UTC in microseconds. -/
def offset : Zone → Int
  | utc _ => 0
  | shifted behind hour minute =>
    let shift : Int := (60 * hour.val + minute.val) * 60 * 1000000
    if behind then -shift else shift

/-- The zone with UTC as an offset. -/
def spelled : Zone → Zone
  | utc _ => shifted false 0 0
  | zone => zone

theorem exists_spelled (zone : Zone) :
    ∃ behind hour minute, zone.spelled = shifted behind hour minute := by
  cases zone with
  | utc => exact ⟨false, 0, 0, rfl⟩
  | shifted behind hour minute => exact ⟨behind, hour, minute, rfl⟩

theorem offset_spelled (zone : Zone) : zone.spelled.offset = zone.offset := by
  cases zone <;> rfl

theorem fits_shiftClock (hour : Fin 24) (minute : Fin 60) : (shiftClock hour minute).Fits :=
  ⟨Nat.lt_trans hour.isLt (by decide), Nat.lt_trans minute.isLt (by decide), Nat.succ_pos _,
    Nat.succ_pos _⟩

theorem isWritten_shiftClock (hour : Fin 24) (minute : Fin 60) :
    (shiftClock hour minute).IsWritten (shiftClock hour minute).minutesText := .short rfl rfl

theorem natAbs_offset_lt (zone : Zone) : zone.offset.natAbs < dayLength := by
  have hday : dayLength = 86400000000 := rfl
  cases zone with
  | utc => exact Nat.succ_pos _
  | shifted behind hour minute =>
    simp only [offset]
    split <;> omega

/-- An offset of hours and minutes is read from its writing. -/
theorem offset?_shifted (behind : Bool) (hour : Fin 24) (minute : Fin 60) :
    offset? (shifted behind hour minute).text = some (shifted behind hour minute).offset := by
  have htotal : (shiftClock hour minute).total = (60 * hour.val + minute.val) * 60 * 1000000 := by
    simp only [Clock.total, shiftClock]
    omega
  rw [text, offset?_clock (isWritten_shiftClock hour minute) (fits_shiftClock hour minute)
    (by omega), htotal]
  rfl

theorem isStampCharacter_of_mem_shifted {behind : Bool} {hour : Fin 24} {minute : Fin 60}
    {c : CodePoint} (hc : c ∈ (shifted behind hour minute).text) : isStampCharacter c = true := by
  rcases List.mem_cons.1 hc with rfl | hc
  · cases behind <;> rfl
  · exact isStampCharacter_of_all (isWritten_shiftClock hour minute).all hc

theorem text_ne_nil (zone : Zone) : zone.text ≠ [] := by
  cases zone <;> exact List.cons_ne_nil _ _

/-- The last character of a text that ends in a zone is one of the zone. -/
theorem mem_of_getLast?_append {zone : Zone} {t : Text} {c : CodePoint}
    (hc : c ∈ (t ++ zone.text).getLast?) : c ∈ zone.text := by
  rw [List.getLast?_append_of_ne_nil t zone.text_ne_nil] at hc
  exact List.mem_of_getLast? hc

theorem isBlank_of_mem_text {zone : Zone} {c : CodePoint} (hc : c ∈ zone.text) :
    isBlank c = false := by
  cases zone with
  | utc lower =>
    rw [List.mem_singleton.1 hc]
    cases lower <;> rfl
  | shifted => exact (isStampCharacter_plain (isStampCharacter_of_mem_shifted hc)).1

/-- A `Z` behind a text is spelled out, and an offset stays. -/
theorem spellUtc_append (t : Text) (zone : Zone) :
    spellUtc (t ++ zone.text) = t ++ zone.spelled.text := by
  cases zone with
  | utc lower =>
    have hmark : (if lower then 0x7A else 0x5A) = 0x5A ∨ (if lower then 0x7A else 0x5A) = 0x7A := by
      cases lower <;> decide
    rw [spellUtc, text, List.getLast?_concat]
    simp only [if_pos hmark, List.dropLast_concat]
    rfl
  | shifted behind hour minute =>
    exact spellUtc_eq_self fun c hc =>
      (isStampCharacter_plain (isStampCharacter_of_mem_shifted (mem_of_getLast?_append hc))).2.2

/-- There is nothing to be shortened in an offset of hours and minutes. -/
theorem shortenFractions_shifted (behind : Bool) (hour : Fin 24) (minute : Fin 60) :
    shortenFractions none (shifted behind hour minute).text
      = (shifted behind hour minute).text := by
  have hpoint : 0x2E ∉ (shifted behind hour minute).text := by
    intro hc
    rcases List.mem_cons.1 hc with hc | hc
    · cases behind <;> cases hc
    · exact point_notMem_minutesText _ hc
  have happend := shortenFractions_append hpoint []
  rwa [List.append_nil, shortenFractions, List.append_nil] at happend

end Zone

/-! ## Date-times -/

/-- What stands between date and time. -/
inductive Separator
  | upper
  | lower
  | blank

/-- The character that separates: `T`, `t` or a space. -/
def Separator.code : Separator → CodePoint
  | upper => 0x54
  | lower => 0x74
  | blank => 0x20

/-- A date and a time of day with the zone where it holds, the seconds with a fraction of any
    number of digits. -/
structure DateTime extends Date where
  isCalendar : toDate.IsCalendar
  year_pos : 1 ≤ year
  year_le : year ≤ 9999
  separator : Separator
  hour : Fin 24
  minute : Fin 60
  second : Fin 60
  fraction : List (Fin 10)
  zone : Zone

namespace DateTime

/-- The time of day, as far as to its millionths of a second. -/
def clock (d : DateTime) : Clock := ⟨d.hour, d.minute, d.second, microseconds d.fraction⟩

/-- The date-time in writing as far as to its seconds. -/
def secondsText (d : DateTime) : Text :=
  dateText d.toDate ++ d.separator.code :: d.clock.secondsText

/-- The date-time in writing, with all the digits of its fraction. -/
def text (d : DateTime) : Text := d.secondsText ++ pointText d.fraction ++ d.zone.text

/-- The time that the date-time names. -/
def timestamp (d : DateTime) : Timestamp where
  toDate := d.toDate
  hour := d.hour
  minute := d.minute
  second := d.second
  microsecond := microseconds d.fraction
  offset := some d.zone.offset

/-- The date-time with an offset, and with no more than six digits to its fraction. -/
def brief (d : DateTime) : DateTime :=
  { d with fraction := d.fraction.take 6, zone := d.zone.spelled }

theorem fits_clock (d : DateTime) : d.clock.Fits :=
  ⟨Nat.lt_trans d.hour.isLt (by decide), Nat.lt_trans d.minute.isLt (by decide),
    Nat.lt_trans d.second.isLt (by decide), microseconds_lt _⟩

/-- What a date-time names is a time. -/
theorem isValid_timestamp (d : DateTime) : d.timestamp.IsValid := by
  obtain ⟨hmonth, hday⟩ := Date.isCalendar_iff.1 d.isCalendar
  exact { year := ⟨d.year_pos, d.year_le⟩, month := hmonth, day := hday, hour := d.hour.isLt,
          minute := d.minute.isLt, second := d.second.isLt, microsecond := microseconds_lt _,
          offset := by rintro _ ⟨⟩; exact d.zone.natAbs_offset_lt }

/-! ### What is done before a date-time is read -/

theorem secondsText_ne_nil (d : DateTime) : d.secondsText ≠ [] :=
  List.append_ne_nil_of_right_ne_nil _ (List.cons_ne_nil _ _)

/-- A date-time begins with a digit. -/
theorem isBlank_of_mem_head? {d : DateTime} {c : CodePoint} (hc : c ∈ d.text.head?) :
    isBlank c = false := by
  have hdate : dateText d.toDate ≠ [] :=
    List.append_ne_nil_of_left_ne_nil (ofNatPadded_ne_nil 4 _) _
  rw [text, List.append_assoc, List.head?_append_of_ne_nil _ d.secondsText_ne_nil, secondsText,
    List.head?_append_of_ne_nil _ hdate] at hc
  exact (isStampCharacter_plain (isStampCharacter_of_mem_dateText (List.mem_of_mem_head? hc))).1

/-- Blanks around a date-time are trimmed, and the date-time stays whole. -/
theorem trim_text (d : DateTime) {before after : Text} (hbefore : ∀ c ∈ before, isBlank c = true)
    (hafter : ∀ c ∈ after, isBlank c = true) : (before ++ (d.text ++ after)).trim = d.text := by
  have hne : d.text ≠ [] := List.append_ne_nil_of_right_ne_nil _ d.zone.text_ne_nil
  exact trim_append hbefore hafter hne (fun c hc => isBlank_of_mem_head? hc) fun c hc =>
    Zone.isBlank_of_mem_text (Zone.mem_of_getLast?_append hc)

theorem point_notMem_secondsText (d : DateTime) : 0x2E ∉ d.secondsText := by
  have hseparator : 0x2E ≠ d.separator.code := by cases d.separator <;> decide
  simp [secondsText, point_notMem_dateText, hseparator, Timestamp.point_notMem_secondsText]

/-- What is left of a date-time to be read is the brief one. -/
theorem shortenFractions_text (d : DateTime) :
    shortenFractions none (spellUtc d.text) = d.brief.text := by
  obtain ⟨behind, hour, minute, hzone⟩ := d.zone.exists_spelled
  -- Behind the fraction comes the sign of an offset, so that its digits end there.
  have hsign : ∀ c ∈ (Zone.shifted behind hour minute).text.head?, isDigit c = false := by
    rintro _ ⟨⟩
    cases behind <;> rfl
  have hbrief : d.brief.text
      = d.secondsText ++ pointText (d.fraction.take 6) ++ (Zone.shifted behind hour minute).text :=
    congrArg (fun zone => _ ++ Zone.text zone) hzone
  rw [hbrief, text, Zone.spellUtc_append, hzone, List.append_assoc,
    shortenFractions_append d.point_notMem_secondsText, shortenFractions_pointText _ hsign,
    Zone.shortenFractions_shifted, List.append_assoc]

/-! ### Reading -/

/-- The clock of a date-time is written with as much of its fraction as the brief one has. -/
theorem isWritten_clock (d : DateTime) :
    d.clock.IsWritten (d.clock.secondsText ++ pointText (d.fraction.take 6)) := by
  have hfraction := isFraction_pointText (List.length_take_le 6 d.fraction)
  rw [microseconds_take] at hfraction
  exact .full hfraction

/-- The parts of a brief date-time are found by their places. -/
theorem written?_brief (d : DateTime) :
    written? d.brief.text
      = some ⟨.calendar d.year d.month d.day, d.clock, some d.zone.offset⟩ := by
  obtain ⟨behind, hour, minute, hzone⟩ := d.zone.exists_spelled
  have htext : d.brief.text = dateText d.toDate ++ d.separator.code ::
      (d.clock.secondsText ++ pointText (d.fraction.take 6)
        ++ (Zone.shifted behind hour minute).text) := by
    rw [← hzone]
    simp only [text, secondsText, List.append_assoc, List.cons_append]
    rfl
  -- The time of day ends where the sign of the offset is, and all of it is ASCII.
  have hsign : startsOffset (if behind then 0x2D else 0x2B) = true := by cases behind <;> rfl
  have htime := time?_append d.isWritten_clock d.fits_clock hsign
    (Zone.offset?_shifted behind hour minute)
  rw [← hzone, Zone.offset_spelled] at htime
  have hascii : ∀ c ∈ d.clock.secondsText ++ pointText (d.fraction.take 6)
      ++ (Zone.shifted behind hour minute).text, c < 0x80 := fun c hc => by
    rcases List.mem_append.1 hc with hc | hc
    · exact lt_of_isStampCharacter (isStampCharacter_of_all d.isWritten_clock.all hc)
    · exact lt_of_isStampCharacter (Zone.isStampCharacter_of_mem_shifted hc)
  have hseparator : d.separator.code < 0x80 := by cases d.separator <;> decide
  obtain ⟨hyear, hmonth, hday⟩ := d.isValid_timestamp.date_lt
  rw [htext]
  exact written?_append hyear hmonth hday hseparator hascii htime

/-- Every date-time is read, whatever blanks are around it: its date and its time to the second are
    what they are written as, its fraction is cut to six digits, and its offset is the one of its
    zone. -/
theorem date_time_is_read (d : DateTime) {before after : Text}
    (hbefore : ∀ c ∈ before, isBlank c = true) (hafter : ∀ c ∈ after, isBlank c = true) :
    ofText (before ++ (d.text ++ after)) = .ok d.timestamp := by
  rw [ofText, d.trim_text hbefore hafter, d.shortenFractions_text]
  exact ofIsoText_of_written d.isValid_timestamp d.written?_brief

/-- A leap day of a century, with nine digits of a second that would be rounded up to the next one,
    is read as it stands, between blanks beyond ASCII. -/
theorem leap_day_is_read :
    ofText ([0x3000] ++ (Text.ofString "2000-02-29t23:59:59.999999999-00:30" ++ [0x85, 0x0A]))
      = .ok ⟨⟨2000, 2, 29⟩, 23, 59, 59, 999999, some (-1800000000)⟩ := by
  let d : DateTime :=
    { year := 2000, month := 2, day := 29, isCalendar := .leapDay (by decide) (by decide),
      year_pos := by decide, year_le := by decide, separator := .lower, hour := 23, minute := 59,
      second := 59, fraction := List.replicate 9 9, zone := .shifted true 0 30 }
  have htext : d.text = Text.ofString "2000-02-29t23:59:59.999999999-00:30" := by decide +kernel
  have hread : ofText ([0x3000] ++ (d.text ++ [0x85, 0x0A])) = .ok d.timestamp :=
    date_time_is_read d (by decide) (by decide)
  rw [htext] at hread
  exact hread

end DateTime

end Timestamp

end GridGauge
