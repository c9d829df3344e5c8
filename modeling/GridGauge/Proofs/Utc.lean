import GridGauge.Proofs.Encodings
import GridGauge.Proofs.Timestamps

/-!
# Timestamps that end in Z

A closing `Z` of either case is written as the offset `+00:00` before the text
is read, and the character between date and time may be any. So where only a
date stands in front of the `Z`, the sign is taken for that character: the
rest of the offset is the time of day, midnight, and there is no offset. A
text whose own zone ends with a fraction and a NUL keeps this zone, since
nothing behind the NUL is read.

Every other text has the offset zero (`closing_z_is_utc`): the characters of a
date are neither signs nor points, so the sign is not read with the date
(`date?_all`), and no clock gets past it unless a NUL ends its fraction
(`zero_mem_of_clock?`).
-/

namespace GridGauge.Timestamp

open Text

/-- The offset that a closing `Z` stands for. -/
def utcText : Text := 0x2B :: "00:00"

theorem spellUtc_closing (t : Text) {z : CodePoint} (hz : z = 0x5A ∨ z = 0x7A) :
    spellUtc (t ++ [z]) = t ++ utcText := by
  rw [spellUtc, List.getLast?_concat, List.dropLast_concat]
  exact if_pos hz

theorem shortenFractions_append_utcText (seen : Option Nat) (t : Text) :
    shortenFractions seen (t ++ utcText) = shortenFractions seen t ++ utcText := by
  fun_induction shortenFractions seen t with
  | case1 seen => rfl
  | case2 seen rest ih => simp [shortenFractions.eq_def _ (_ :: _), ih]
  | case3 c rest hpoint hdigit ih | case5 c rest hpoint hdigit ih =>
    simp [shortenFractions.eq_def _ (c :: _), hpoint, hdigit, ih]
  | case4 c rest hpoint hdigit n _ ih =>
    simp [shortenFractions.eq_def _ (c :: _), hpoint, hdigit, ih]
  | case6 seen c rest hpoint hdigit ih =>
    simp [shortenFractions.eq_def _ (c :: _), hpoint, hdigit, ih]

/-- Only digits are left out. -/
theorem shortenFractions_sublist (seen : Option Nat) (t : Text) :
    (shortenFractions seen t).Sublist t := by
  fun_induction shortenFractions seen t with
  | case1 => exact .refl []
  | case2 _ _ ih | case4 _ _ _ _ _ _ ih | case5 _ _ _ _ ih | case6 _ _ _ _ _ ih => exact ih.cons_cons _
  | case3 c rest hpoint hdigit ih => exact ih.cons _

theorem point_mem_shortenFractions {seen : Option Nat} {t : Text} (h : 0x2E ∈ t) :
    0x2E ∈ shortenFractions seen t := by
  fun_induction shortenFractions seen t with
  | case1 => exact h
  | case2 => exact List.mem_cons_self
  | case3 c rest hpoint _ ih => exact ih ((List.mem_cons.1 h).resolve_left (Ne.symm hpoint))
  | case4 c rest hpoint _ _ _ ih | case5 c rest hpoint _ ih | case6 _ c rest hpoint _ ih =>
    exact .tail _ (ih ((List.mem_cons.1 h).resolve_left (Ne.symm hpoint)))

/-- What has no points has not been shortened. -/
theorem eq_of_point_notMem {t : Text} (h : 0x2E ∉ shortenFractions none t) :
    shortenFractions none t = t := by
  have ht : 0x2E ∉ t := fun hmem => h (point_mem_shortenFractions hmem)
  have happend := shortenFractions_append ht []
  rwa [List.append_nil, shortenFractions, List.append_nil] at happend

/-! ## Dates -/

/-- The characters of a date. -/
def isDateCharacter (c : Nat) : Bool := isDecimalDigit c || c == 0x2D || c == 0x57

theorem number?_all {t : Text} {n : Nat} (h : number? t = some n) :
    ∀ c ∈ t, isDecimalDigit c = true := by
  rw [number?] at h
  split at h
  · next hall => exact List.all_eq_true.1 hall
  · cases h

/-- The text has one of the forms of a date. -/
inductive IsDateForm : Text → Prop
  | dashedWeek {a b c d v w : CodePoint} : (∀ x ∈ [a, b, c, d, v, w], isDecimalDigit x = true) →
      IsDateForm [a, b, c, d, 0x2D, 0x57, v, w]
  | dashedWeekday {a b c d v w k : CodePoint} :
      (∀ x ∈ [a, b, c, d, v, w, k], isDecimalDigit x = true) →
      IsDateForm [a, b, c, d, 0x2D, 0x57, v, w, 0x2D, k]
  | week {a b c d v w : CodePoint} : (∀ x ∈ [a, b, c, d, v, w], isDecimalDigit x = true) →
      IsDateForm [a, b, c, d, 0x57, v, w]
  | weekday {a b c d v w k : CodePoint} :
      (∀ x ∈ [a, b, c, d, v, w, k], isDecimalDigit x = true) →
      IsDateForm [a, b, c, d, 0x57, v, w, k]
  | dashedDay {a b c d m n k l : CodePoint} :
      (∀ x ∈ [a, b, c, d, m, n, k, l], isDecimalDigit x = true) →
      IsDateForm [a, b, c, d, 0x2D, m, n, 0x2D, k, l]
  | day {a b c d m n k l : CodePoint} :
      (∀ x ∈ [a, b, c, d, m, n, k, l], isDecimalDigit x = true) →
      IsDateForm [a, b, c, d, m, n, k, l]

theorem all_of_two {s t : Text} {f : Nat → Nat → WrittenDate} {w : WrittenDate}
    (h : (do return f (← number? s) (← number? t)) = some w) :
    ∀ c ∈ s ++ t, isDecimalDigit c = true := by
  obtain ⟨_, hs, h⟩ := Option.bind_eq_some_iff.1 h
  obtain ⟨_, ht, -⟩ := Option.bind_eq_some_iff.1 h
  exact List.forall_mem_append.2 ⟨number?_all hs, number?_all ht⟩

theorem all_of_three {s t u : Text} {f : Nat → Nat → Nat → WrittenDate} {w : WrittenDate}
    (h : (do return f (← number? s) (← number? t) (← number? u)) = some w) :
    ∀ c ∈ s ++ (t ++ u), isDecimalDigit c = true := by
  obtain ⟨_, hs, h⟩ := Option.bind_eq_some_iff.1 h
  exact List.forall_mem_append.2 ⟨number?_all hs, all_of_two h⟩

theorem isDateForm_of_date? {t : Text} {w : WrittenDate} (h : date? t = some w) : IsDateForm t := by
  unfold date? at h
  split at h
  · exact .dashedWeek (all_of_two (f := fun y w => .week y w 1) h)
  · exact .dashedWeekday (all_of_three h)
  · exact .week (all_of_two (f := fun y w => .week y w 1) h)
  · exact .weekday (all_of_three h)
  · exact .dashedDay (all_of_three h)
  · exact .day (all_of_three h)
  · cases h

theorem IsDateForm.all {t : Text} (h : IsDateForm t) : ∀ c ∈ t, isDateCharacter c = true := by
  have hdigit {c : CodePoint} (h : isDecimalDigit c = true) : isDateCharacter c = true := by
    simp [isDateCharacter, h]
  have hdash : isDateCharacter 0x2D = true := rfl
  have hweek : isDateCharacter 0x57 = true := rfl
  cases h <;> simp_all

theorem lt_of_isDateCharacter {c : Nat} (h : isDateCharacter c = true) : c < 0x80 := by
  simp only [isDateCharacter, isDecimalDigit_iff, Bool.or_eq_true, beq_iff_eq] at h
  omega

theorem IsDateForm.lt {t : Text} (h : IsDateForm t) : ∀ c ∈ t, c < 0x80 := fun c hc =>
  lt_of_isDateCharacter (h.all c hc)

theorem ne_of_isDecimalDigit {c d : CodePoint} (hc : isDecimalDigit c = true)
    (hd : isDecimalDigit d = false) : c ≠ d := by
  rintro rfl
  rw [hc] at hd
  cases hd

/-- Where the date ends is told in front of an offset as well. -/
theorem IsDateForm.dateLength? {t : Text} (h : IsDateForm t) :
    dateLength? (t ++ utcText) = some t.length := by
  cases h with
  | dashedWeek | dashedWeekday | week => rfl
  | @weekday a b c d v w k h =>
    have hk : isDecimalDigit k = true := h k (by simp)
    have hdigits : (k :: utcText).takeWhile isDecimalDigit = [k] := by
      rw [List.takeWhile_cons_of_pos hk]
      rfl
    simp [Timestamp.dateLength?, hdigits]
  | @dashedDay a b c d m n k l h =>
    have hm : m ≠ 0x57 := ne_of_isDecimalDigit (h m (by simp)) rfl
    simp [Timestamp.dateLength?, hm]
  | @day a b c d m n k l h =>
    have hm : isDecimalDigit m = true := h m (by simp)
    have hdash : m ≠ 0x2D := ne_of_isDecimalDigit hm rfl
    have hweek : m ≠ 0x57 := ne_of_isDecimalDigit hm rfl
    simp [Timestamp.dateLength?, hdash, hweek]

/-- Where a surrogate is found there is a character. -/
theorem lt_length_of_find? {t : Text} {places : List Nat} {i : Nat}
    (h : places.find? (fun i => ((t[i]?).map isSurrogate).getD false) = some i) : i < t.length := by
  refine Nat.lt_of_not_le fun hle => ?_
  have hfound := List.find?_some h
  rw [List.getElem?_eq_none hle] at hfound
  cases hfound

/-- What is no surrogate behind a text is not replaced. -/
theorem plainSeparator_append {t after : Text} (h : ∀ c ∈ after, isSurrogate c = false) :
    plainSeparator (t ++ after) = plainSeparator t ++ after := by
  have hsame : ∀ i : Nat, (((t ++ after)[i]?).map isSurrogate).getD false
      = ((t[i]?).map isSurrogate).getD false := fun i => by
    rcases Nat.lt_or_ge i t.length with hi | hi
    · rw [List.getElem?_append_left hi]
    · rw [List.getElem?_append_right hi, List.getElem?_eq_none hi]
      cases hc : after[i - t.length]? with
      | none => rfl
      | some c => exact h c (List.mem_of_getElem? hc)
  rw [plainSeparator, plainSeparator, funext hsame]
  split
  · next i hi => exact List.set_append_left i 0x54 (lt_length_of_find? hi)
  · rfl

/-- A surrogate is replaced by a character that no date has. -/
theorem plainSeparator_eq_self {t : Text} (h : ∀ c ∈ plainSeparator t, isDateCharacter c = true) :
    plainSeparator t = t := by
  rw [plainSeparator] at h ⊢
  split at h
  · next i hi =>
    have hseparator := h 0x54 (List.mem_set (lt_length_of_find? hi) 0x54)
    cases hseparator
  · rfl

/-! ## Octets -/

theorem octets_append (s t : Text) : octets (s ++ t) = octets s ++ octets t := by
  simp [octets, Utf8.encode]

theorem exists_octets_cons {c : CodePoint} {t : Text} (h : IsScalar (c :: t)) :
    ∃ a more, Utf8.IsSequence c (a :: more) ∧
      octets (c :: t) = a.toNat :: more.map UInt8.toNat ++ octets t := by
  obtain ⟨a, more, hone, hseq⟩ := Utf8.exists_encodeOne (isScalar_cons.1 h).1
  exact ⟨a, more, hseq, by simp [octets, Utf8.encode, hone]⟩

/-- The octets of ASCII in front of a text are its first characters. -/
theorem exists_of_octets {front rest : List Nat} (hfront : ∀ c ∈ front, c < 0x80) {t : Text}
    (ht : t.IsScalar) (h : octets t = front ++ rest) :
    ∃ after, t = front ++ after ∧ octets after = rest := by
  induction front generalizing t with
  | nil => exact ⟨t, rfl, h⟩
  | cons d front ih =>
    rw [List.forall_mem_cons] at hfront
    cases t with
    | nil => cases h
    | cons c t =>
      obtain ⟨a, more, hseq, hoctets⟩ := exists_octets_cons ht
      rw [hoctets, List.cons_append, List.cons_append, List.cons.injEq] at h
      obtain ⟨rfl, h⟩ := h
      have hlow := hfront.1
      cases hseq with
      | one _ hc =>
        obtain ⟨after, rfl, hafter⟩ := ih hfront.2 (isScalar_cons.1 ht).2 h
        exact ⟨after, by rw [← hc]; rfl, hafter⟩
      | two | three | four => omega

/-- The first octet of a character says how many there are. -/
theorem sizeOfLead_eq {c : CodePoint} {a : UInt8} {more : Bytes}
    (h : Utf8.IsSequence c (a :: more)) : sizeOfLead a.toNat = more.length + 1 := by
  cases h with
  | one hlow => exact if_pos hlow
  | two hlow hhigh =>
    have hlead : a.toNat / 16 = 0xC ∨ a.toNat / 16 = 0xD := by omega
    rw [sizeOfLead, if_neg (by omega)]
    rcases hlead with h | h <;> rw [h] <;> rfl
  | three hlow hhigh =>
    have hlead : a.toNat / 16 = 0xE := by omega
    rw [sizeOfLead, if_neg (by omega), hlead]
    rfl
  | four hlow hhigh =>
    have hlead : a.toNat / 16 = 0xF := by omega
    rw [sizeOfLead, if_neg (by omega), hlead]
    rfl

/-- Only NUL has an octet of zero. -/
theorem zero_notMem_of_isSequence {c : CodePoint} {bytes : Bytes} (h : Utf8.IsSequence c bytes)
    (hc : c ≠ 0) : 0 ∉ bytes.map UInt8.toNat := by
  have htail {b : UInt8} (h : Utf8.isTail b = true) : b.toNat ≠ 0 := by
    have hlow := (Utf8.isTail_iff.1 h).1
    omega
  have hnext {a b : UInt8} (h : Utf8.mayFollow a b = true) : b.toNat ≠ 0 :=
    htail (Utf8.mayFollow_iff.1 h).1
  cases h with
  | one _ ha => simpa [ha] using hc.symm
  | two hlow _ hb => simp [(htail hb).symm]; omega
  | three hlow _ hb hd => simp [(hnext hb).symm, (htail hd).symm]; omega
  | four hlow _ hb hd he => simp [(hnext hb).symm, (htail hd).symm, (htail he).symm]; omega

theorem zero_mem_of_octets {t : Text} (ht : t.IsScalar) (h : 0 ∈ octets t) : 0 ∈ t := by
  induction t with
  | nil => exact h
  | cons c t ih =>
    obtain ⟨a, more, hseq, hoctets⟩ := exists_octets_cons ht
    rw [hoctets, List.mem_append] at h
    rcases h with h | h
    · have hc : c = 0 := by_contra fun hc => zero_notMem_of_isSequence hseq hc h
      exact hc ▸ List.mem_cons_self
    · exact .tail _ (ih (isScalar_cons.1 ht).2 h)

/-! ## Clocks in front of the offset -/

variable {v rest : Text}

theorem sign_mem_take {n : Nat} (h : v.length < n) : 0x2B ∈ (v ++ utcText).take n := by
  obtain ⟨k, hk⟩ := Nat.exists_eq_add_of_lt h
  rw [List.take_append, show n - v.length = k + 1 by omega]
  exact List.mem_append_right _ List.mem_cons_self

theorem twoDigits?_utcText {n : Nat} (h : twoDigits? (v ++ utcText) = some (n, rest)) :
    ∃ v', v' <:+ v ∧ rest = v' ++ utcText := by
  match v with
  | [] => cases h
  | [a] =>
    obtain ⟨m, hm, -⟩ := Option.map_eq_some_iff.1 h
    have hsign := number?_all hm 0x2B (by simp)
    cases hsign
  | a :: b :: v' =>
    obtain ⟨m, hm, heq⟩ := Option.map_eq_some_iff.1 h
    cases heq
    exact ⟨v', ⟨[a, b], rfl⟩, rfl⟩

/-- What follows two digits is neither the end nor a last character. -/
theorem next?_utcText {separated : Bool} {next : Next}
    (h : next? separated (v ++ utcText) = some next) :
    ∃ v', v' <:+ v ∧ (next = .digits (v' ++ utcText) ∨ next = .fraction (v' ++ utcText)) := by
  match v with
  | [] =>
    cases separated with
    | false =>
      cases h
      exact ⟨[], List.suffix_rfl, .inl rfl⟩
    | true => cases h
  | c :: v' =>
    obtain ⟨d, w, hrest⟩ : ∃ d w, v' ++ utcText = d :: w :=
      List.exists_cons_of_ne_nil (List.append_ne_nil_of_right_ne_nil v' nofun)
    rw [List.cons_append, hrest, next?] at h
    split at h
    · cases h
      exact ⟨v', ⟨[c], rfl⟩, .inl (by rw [hrest])⟩
    · split at h
      · cases h
        exact ⟨v', ⟨[c], rfl⟩, .inr (by rw [hrest])⟩
      · split at h <;> cases h
        exact ⟨c :: v', List.suffix_rfl, .inl (by rw [List.cons_append, hrest])⟩
    all_goals nofun

/-- The sign is not among the digits of a fraction, and only NUL ends it before the sign. -/
theorem fraction?_utcText {n : Nat} (h : fraction? (v ++ utcText) = some (n, true)) : 0 ∈ v := by
  obtain ⟨value, hvalue, h⟩ := Option.bind_eq_some_iff.1 h
  have hsix : 6 ≤ v.length := by
    refine Nat.le_of_not_lt fun hlt => ?_
    have hsign := number?_all hvalue 0x2B (sign_mem_take hlt)
    cases hsign
  rw [List.drop_append_of_le_length hsix, List.dropWhile_append] at h
  split at h
  · cases h
  · next hne =>
    obtain ⟨c, w, hdrop⟩ := List.exists_cons_of_ne_nil (mt List.isEmpty_iff.2 hne)
    have hmem : c ∈ v :=
      List.mem_of_mem_drop ((List.dropWhile_suffix _).mem (hdrop ▸ List.mem_cons_self))
    rw [hdrop] at h
    have hc : c = 0 := by simpa using (Prod.mk.inj (Option.some.inj h)).2
    exact hc ▸ hmem

/-- No clock is read past the sign unless a NUL ends its fraction. -/
theorem zero_mem_of_clock? {c : Clock} (h : clock? (v ++ utcText) = some (c, true)) : 0 ∈ v := by
  obtain ⟨⟨hour, rest⟩, hhour, h⟩ := Option.bind_eq_some_iff.1 h
  obtain ⟨v₁, hv₁, hrest⟩ := twoDigits?_utcText hhour
  subst hrest
  obtain ⟨next, hnext, h⟩ := Option.bind_eq_some_iff.1 h
  obtain ⟨v₂, hv₂, rfl | rfl⟩ := next?_utcText hnext
  · obtain ⟨⟨minute, rest⟩, hminute, h⟩ := Option.bind_eq_some_iff.1 h
    obtain ⟨v₃, hv₃, hrest⟩ := twoDigits?_utcText hminute
    subst hrest
    obtain ⟨next, hnext, h⟩ := Option.bind_eq_some_iff.1 h
    obtain ⟨v₄, hv₄, rfl | rfl⟩ := next?_utcText hnext
    · obtain ⟨⟨second, rest⟩, hsecond, h⟩ := Option.bind_eq_some_iff.1 h
      obtain ⟨v₅, hv₅, hrest⟩ := twoDigits?_utcText hsecond
      subst hrest
      obtain ⟨next, hnext, h⟩ := Option.bind_eq_some_iff.1 h
      obtain ⟨v₆, hv₆, rfl | rfl⟩ := next?_utcText hnext
      all_goals
        obtain ⟨⟨micro, _⟩, hmicro, h⟩ := Option.bind_eq_some_iff.1 h
        cases h
        have hzero := fraction?_utcText hmicro
        exact hv₁.mem (hv₂.mem (hv₃.mem (hv₄.mem (hv₅.mem (hv₆.mem hzero)))))
    · obtain ⟨⟨micro, _⟩, hmicro, h⟩ := Option.bind_eq_some_iff.1 h
      cases h
      exact hv₁.mem (hv₂.mem (hv₃.mem (hv₄.mem (fraction?_utcText hmicro))))
  · obtain ⟨⟨micro, _⟩, hmicro, h⟩ := Option.bind_eq_some_iff.1 h
    cases h
    exact hv₁.mem (hv₂.mem (fraction?_utcText hmicro))

theorem offset?_utcText {o : Int} (h : offset? (v ++ utcText) = some o) : o = 0 ∨ 0 ∈ v := by
  cases v with
  | nil =>
    cases h
    exact .inl rfl
  | cons sign v =>
    rw [List.cons_append] at h
    unfold offset? at h
    split at h
    · split at h <;> cases h
      exact .inl rfl
    · next heq =>
      cases heq
      split at h
      · next hclock => exact .inr (.tail _ (zero_mem_of_clock? hclock))
      · cases h
    · cases h

/-- Where the offset is looked for, the one behind is found, or there is another in front of it. -/
theorem span_utcText (v : Text) :
    ∃ front zone, (v ++ utcText).span (!startsOffset ·) = (front, zone ++ utcText) ∧ zone <:+ v := by
  refine ⟨(v ++ utcText).takeWhile (!startsOffset ·), v.dropWhile (!startsOffset ·), ?_,
    List.dropWhile_suffix _⟩
  rw [List.span_eq_takeWhile_dropWhile, List.dropWhile_append]
  split
  · next hempty =>
    rw [List.isEmpty_iff.1 hempty]
    rfl
  · rfl

/-- There is an offset, and it is zero unless a NUL ends another one in front. -/
theorem time?_utcText {c : Clock} {offset : Option Int}
    (h : time? (v ++ utcText) = some (c, offset)) : ∃ o, offset = some o ∧ (o = 0 ∨ 0 ∈ v) := by
  obtain ⟨front, zone, hspan, hzone⟩ := span_utcText v
  rw [time?, hspan] at h
  split at h
  · next heq =>
    have hnil := (Prod.mk.inj heq).2
    cases List.append_eq_nil_iff.1 hnil |>.2
  · next heq =>
    cases heq
    obtain ⟨_, _, h⟩ := Option.bind_eq_some_iff.1 h
    obtain ⟨o, ho, h⟩ := Option.bind_eq_some_iff.1 h
    cases h
    exact ⟨o, rfl, (offset?_utcText ho).imp_right fun h => hzone.mem h⟩

/-! ## Timestamps -/

theorem IsDateForm.plainSeparator {t : Text} (h : IsDateForm t) : plainSeparator t = t := by
  have hsurrogate : ∀ c ∈ t, isSurrogate c = false := fun c hc => by
    have hall : ∀ c < 0x80, isSurrogate c = false := by decide
    exact hall c (h.lt c hc)
  exact plainSeparator_append (t := []) hsurrogate

theorem IsDateForm.octets {t : Text} (h : IsDateForm t) : octets t = t := octets_eq_self h.lt

theorem mem_of_mem_plainSeparator {t : Text} {c : CodePoint} (h : c ∈ plainSeparator t) :
    c = 0x54 ∨ c ∈ t := by
  rw [plainSeparator] at h
  split at h
  · exact (List.mem_or_eq_of_mem_set h).symm
  · exact .inr h

theorem isValidChar_of_not_surrogate {c : Nat} (hlt : c < 0x110000) (h : isSurrogate c = false) :
    c.isValidChar := by
  simp only [isSurrogate, Bool.and_eq_false_iff, decide_eq_false_iff_not] at h
  rcases h with h | h
  · exact .inl (Nat.lt_of_not_le h)
  · exact .inr ⟨Nat.lt_of_not_le h, hlt⟩

/-- Only a text of scalar values gets past the check. -/
theorem isScalar_of_guard {t : Text} (ht : ∀ c ∈ t, c < 0x110000) {a : Unit}
    (h : guard (f := Option) (7 ≤ (plainSeparator t ++ utcText).length ∧
      (plainSeparator t ++ utcText).all (!isSurrogate ·)) = some a) : (plainSeparator t).IsScalar := by
  have hall : (plainSeparator t ++ utcText).all (!isSurrogate ·) = true := by
    rw [guard] at h
    split at h
    · next hguard => exact hguard.2
    · cases h
  intro c hc
  have hsurrogate := List.all_eq_true.1 hall c (List.mem_append_left _ hc)
  refine isValidChar_of_not_surrogate ?_ (by simpa using hsurrogate)
  rcases mem_of_mem_plainSeparator hc with rfl | hc
  · decide
  · exact ht c hc

/-- What stands in front of the offset: a date, or a date, a character and a time of day. -/
inductive IsFront (w : Written) (t : Text) : Prop
  | date : date? t = some w.date → w.offset = none → IsFront w t
  | dateTime {front after : Text} {c : CodePoint} : t = front ++ c :: after →
      dateLength? (octets t ++ utcText) = some front.length → IsScalar after →
      time? (octets after ++ utcText) = some (w.clock, w.offset) → IsFront w t

theorem isFront_of_written? {t : Text} {w : Written} (ht : ∀ c ∈ t, c < 0x110000)
    (h : written? (t ++ utcText) = some w) : IsFront w (plainSeparator t) := by
  have hutc : ∀ c ∈ utcText, isSurrogate c = false := by decide
  rw [written?, plainSeparator_append hutc] at h
  obtain ⟨_, hguard, h⟩ := Option.bind_eq_some_iff.1 h
  have hscalar : (plainSeparator t).IsScalar := isScalar_of_guard ht hguard
  have hoctets : octets (plainSeparator t ++ utcText) = octets (plainSeparator t) ++ utcText := by
    rw [octets_append, octets_eq_self (t := utcText) (by decide)]
  simp only [hoctets] at h
  obtain ⟨n, hn, h⟩ := Option.bind_eq_some_iff.1 h
  obtain ⟨date, hdate, h⟩ := Option.bind_eq_some_iff.1 h
  -- The sign is no character of a date, so the date ends in front of it.
  have hlength : n ≤ (octets (plainSeparator t)).length := by
    refine Nat.le_of_not_lt fun hlt => ?_
    have hsign := (isDateForm_of_date? hdate).all 0x2B (sign_mem_take hlt)
    cases hsign
  rw [List.take_append_of_le_length hlength] at hdate
  rw [List.drop_append_of_le_length hlength] at h
  obtain ⟨after, hp, hafter⟩ := exists_of_octets (isDateForm_of_date? hdate).lt hscalar
    (List.take_append_drop n (octets (plainSeparator t))).symm
  rw [← hafter] at h
  cases after with
  | nil =>
    cases h
    rw [List.append_nil] at hp
    rw [← hp] at hdate
    exact .date hdate rfl
  | cons c after =>
    rw [hp] at hscalar
    obtain ⟨-, hscalar⟩ := isScalar_append.1 hscalar
    obtain ⟨a, more, hseq, hcons⟩ := exists_octets_cons hscalar
    rw [hcons, List.cons_append, List.cons_append] at h
    have hdrop : (more.map UInt8.toNat ++ octets after ++ utcText).drop (sizeOfLead a.toNat - 1)
        = octets after ++ utcText := by
      rw [sizeOfLead_eq hseq, Nat.add_sub_cancel, List.append_assoc]
      exact List.drop_left' (List.length_map _)
    obtain ⟨⟨clock, offset⟩, htime, h⟩ := Option.bind_eq_some_iff.1 h
    rw [hdrop] at htime
    cases h
    rw [← List.length_take_of_le hlength] at hn
    exact .dateTime hp hn (isScalar_cons.1 hscalar).2 htime

theorem date?_plainSeparator {t : Text} {date : WrittenDate} :
    date? (plainSeparator t) = some date ↔ date? t = some date :=
  ⟨fun h => plainSeparator_eq_self (isDateForm_of_date? h).all ▸ h,
    fun h => (isDateForm_of_date? h).plainSeparator.symm ▸ h⟩

/-- A date alone takes up the sign, and behind a time of day there is an offset. -/
theorem written?_utcText {t : Text} {w : Written} (ht : ∀ c ∈ t, c < 0x110000)
    (h : written? (t ++ utcText) = some w) :
    (w.offset = none ↔ ∃ date, date? t = some date) ∧ ∀ o ∈ w.offset, o = 0 ∨ 0 ∈ t := by
  cases isFront_of_written? ht h with
  | date hdate hnone =>
    rw [hnone]
    exact ⟨iff_of_true rfl ⟨w.date, date?_plainSeparator.1 hdate⟩, nofun⟩
  | @dateTime front after c hp hn hscalar htime =>
    obtain ⟨o, hsome, ho⟩ := time?_utcText htime
    rw [hsome]
    refine ⟨iff_of_false nofun ?_, ?_⟩
    · -- If the whole text is a date, then it is the date that has been read.
      rintro ⟨date, hdate⟩
      have hform := isDateForm_of_date? hdate
      rw [hform.plainSeparator] at hn hp
      rw [hform.octets, hform.dateLength?, Option.some.injEq, hp] at hn
      simp at hn
    · rintro _ ⟨⟩
      refine ho.imp_right fun hzero => ?_
      have hmem : 0 ∈ plainSeparator t := by
        rw [hp]
        exact List.mem_append_right _ (.tail c (zero_mem_of_octets hscalar hzero))
      exact (mem_of_mem_plainSeparator hmem).resolve_left nofun

theorem exists_written_of_ofIsoText {t : Text} {d : Timestamp} (h : ofIsoText t = .ok d) :
    ∃ w, written? t = some w ∧ d.offset = w.offset := by
  rw [ofIsoText] at h
  split at h
  · cases h
  · next w hw =>
    refine ⟨w, hw, ?_⟩
    repeat' split at h
    all_goals try cases h
    rw [check] at h
    repeat' split at h
    all_goals cases h
    rfl

theorem mem_of_mem_trim {t : Text} {c : CodePoint} (h : c ∈ t.trim) : c ∈ t := by
  have hmid := (List.dropWhile_sublist _).mem (List.mem_reverse.1 h)
  exact (List.dropWhile_sublist _).mem (List.mem_reverse.1 hmid)

/-- A date has no point, so nothing of it is left out and it is not what has been left. -/
theorem date?_shortenFractions {t : Text} {date : WrittenDate} :
    date? (shortenFractions none t) = some date ↔ date? t = some date := by
  have hpoint {s : Text} (h : date? s = some date) : 0x2E ∉ s := fun hmem => by
    have hdate := (isDateForm_of_date? h).all 0x2E hmem
    cases hdate
  constructor
  · intro h
    rwa [eq_of_point_notMem (hpoint h)] at h
  · intro h
    have happend := shortenFractions_append (hpoint h) []
    rw [List.append_nil, shortenFractions, List.append_nil] at happend
    rwa [happend]

/-- A text that ends in a `Z` has an offset unless it is a date up to there, and the offset is zero
    unless there is a NUL in front. -/
theorem closing_z_is_utc {t body : Text} {z : CodePoint} {d : Timestamp}
    (ht : ∀ c ∈ t, c < 0x110000) (hz : z = 0x5A ∨ z = 0x7A) (hbody : t.trim = body ++ [z])
    (h : ofText t = .ok d) :
    (d.offset = none ↔ ∃ date, date? body = some date) ∧ ∀ o ∈ d.offset, o = 0 ∨ 0 ∈ body := by
  rw [ofText, hbody, spellUtc_closing body hz, shortenFractions_append_utcText] at h
  obtain ⟨w, hw, hoffset⟩ := exists_written_of_ofIsoText h
  have hmem : ∀ c ∈ shortenFractions none body, c ∈ body := fun c hc =>
    (shortenFractions_sublist none body).mem hc
  have hshort : ∀ c ∈ shortenFractions none body, c < 0x110000 := fun c hc =>
    ht c (mem_of_mem_trim (hbody ▸ List.mem_append_left [z] (hmem c hc)))
  obtain ⟨hnone, hzero⟩ := written?_utcText hshort hw
  simp only [date?_shortenFractions] at hnone
  rw [hoffset]
  exact ⟨hnone, fun o ho => (hzero o ho).imp_right (hmem 0)⟩

/-- A day of a week with a comma in front of the fraction and a small `z` is in UTC. -/
theorem week_date_is_utc :
    let t : Text := "\t2024-W09-5 10:15:30,25z"
    let body : Text := "2024-W09-5 10:15:30,25"
    let d : Timestamp := ⟨⟨2024, 3, 1⟩, 10, 15, 30, 250000, some 0⟩
    (∀ c ∈ t, c < 0x110000) ∧ t.trim = body ++ [0x7A] ∧ ofText t = .ok d ∧
      (d.offset = none ↔ ∃ date, date? body = some date) ∧ ∀ o ∈ d.offset, o = 0 ∨ 0 ∈ body := by
  intro t body d
  have ht : ∀ c ∈ t, c < 0x110000 := fun c hc => lt_of_isValidChar (isScalar_ofString _ c hc)
  have hbody : t.trim = body ++ [0x7A] := rfl
  have h : ofText t = .ok d := by decide +kernel
  exact ⟨ht, hbody, h, closing_z_is_utc ht (.inr rfl) hbody h⟩

/-- A date in front of a `Z` is read as a time without an offset. -/
theorem date_alone_has_no_offset :
    let t : Text := "2024-03-01Z"
    let body : Text := "2024-03-01"
    t.trim = body ++ [0x5A] ∧ ofText t = .ok ⟨⟨2024, 3, 1⟩, 0, 0, 0, 0, none⟩ :=
  ⟨rfl, rfl⟩

/-- Behind a NUL the `Z` does not count. -/
example : ofText ("2024-03-01T10:15:00+02:00:00.500000" ++ ([0, 0x5A] : Text))
    = .ok ⟨⟨2024, 3, 1⟩, 10, 15, 0, 0, some 7200500000⟩ := rfl

end GridGauge.Timestamp
