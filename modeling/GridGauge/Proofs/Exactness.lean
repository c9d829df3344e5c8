import GridGauge.Number.Shortest
import GridGauge.Proofs.Rounding

/-!
# Natural numbers of 53 bits

A natural number of at most 53 bits is a floating-point number itself
(`ratio_ofNat`), and no other natural number is rounded to the same
(`magnitude_inj`). So a decimal without places behind the point reads back as
it only if it has its value, and the search for the shortest decimal comes to
such a one, as it does not go past the grid of all digits of the number, on
which the number itself lies (`shortest_ofNat`).
-/

namespace GridGauge.Binary64

/-- The bound below which all natural numbers are floating-point numbers. -/
def exactBound : Nat := Nat.pow 2 53

/-- The number nearest to a natural number. -/
def ofNat (n : Nat) : Binary64 := ofRatio false n 1

variable {n : Nat}

/-! ## What it is as a floating-point number -/

/-- The bits of a number of at most 53 bits are shifted to the left until there are 53. -/
theorem shifted_bounds (hn : n ≠ 0) (h : n < exactBound) :
    fractionSize ≤ n * Nat.pow 2 (52 - n.log2) ∧ n * Nat.pow 2 (52 - n.log2) < 2 * fractionSize := by
  have hlog : n.log2 < 53 := (Nat.log2_lt hn).2 h
  have hsplit : fractionSize = Nat.pow 2 n.log2 * Nat.pow 2 (52 - n.log2) := pow_split (by omega)
  rw [hsplit, ← Nat.mul_assoc]
  exact ⟨Nat.mul_le_mul_right _ (Nat.log2_self_le hn),
    Nat.mul_lt_mul_of_pos_right (lt_pow_log2 n) (pow_pos _)⟩

/-- A natural number of at most 53 bits is not rounded. -/
theorem magnitude_of_lt (hn : n ≠ 0) (h : n < exactBound) :
    magnitudeOfRatio n 1 = (n.log2 + 1022) * fractionSize + n * Nat.pow 2 (52 - n.log2) := by
  have hlog : n.log2 < 53 := (Nat.log2_lt hn).2 h
  have hhigh := (shifted_bounds hn h).2
  have hexp : (n.log2 + 1022) * fractionSize ≤ 1074 * fractionSize :=
    Nat.mul_le_mul_right fractionSize (by omega)
  have hinf : infiniteMagnitude = 2047 * fractionSize := rfl
  rw [magnitudeOfRatio, if_neg hn, exponentOfRatio_one hn]
  have hround : (if 1074 ≤ n.log2 + 1022
      then roundDiv n (1 * Nat.pow 2 (n.log2 + 1022 - 1074))
      else roundDiv (n * Nat.pow 2 (1074 - (n.log2 + 1022))) 1) = n * Nat.pow 2 (52 - n.log2) := by
    split
    · next hfull =>
      rw [show n.log2 + 1022 - 1074 = 0 by omega, show 52 - n.log2 = 0 by omega]
      exact (roundDiv_one n).trans (Nat.mul_one n).symm
    · rw [roundDiv_one, show 1074 - (n.log2 + 1022) = 52 - n.log2 by omega]
  simp only [hround]
  omega

theorem magnitude_ofNat_lt (h : n < exactBound) : (ofNat n).magnitude < infiniteMagnitude :=
  (magnitude_lt_iff n).2 (Nat.lt_trans h (by decide +kernel))

theorem ofInt?_ofNat (h : n < exactBound) : ofInt? (n : Nat) = some (ofNat n) := by
  have hsign : decide ((n : Int) < 0) = false := decide_eq_false (Int.not_lt.2 (Int.natCast_nonneg n))
  have hfinite : (ofNat n).isFinite = true := decide_eq_true (magnitude_ofNat_lt h)
  rw [ofInt?, hsign, Int.natAbs_natCast]
  exact if_pos hfinite

theorem parts_ofNat (hn : n ≠ 0) (h : n < exactBound) :
    (ofNat n).parts = (n * Nat.pow 2 (52 - n.log2), n.log2 + 1022) := by
  obtain ⟨hlow, hhigh⟩ := shifted_bounds hn h
  have hsize : fractionSize = 4503599627370496 := rfl
  rw [parts, ofNat, ofRatio, magnitude_of_lt hn h]
  generalize n * Nat.pow 2 (52 - n.log2) = q at *
  rw [hsize] at *
  have hfield : ((n.log2 + 1022) * 4503599627370496 + q) / 4503599627370496 = n.log2 + 1023 := by
    omega
  have hfraction : 4503599627370496
      + ((n.log2 + 1022) * 4503599627370496 + q) % 4503599627370496 = q := by omega
  simp only [hfield, hfraction]
  rfl

/-- A natural number of at most 53 bits is a floating-point number. -/
theorem ratio_ofNat (hn : n ≠ 0) (h : n < exactBound) :
    ∃ den, 0 < den ∧ (ofNat n).ratio = (n * den, den) := by
  have hlog : n.log2 < 53 := (Nat.log2_lt hn).2 h
  rw [ratio, parts_ofNat hn h]
  simp only
  split
  · refine ⟨1, Nat.one_pos, ?_⟩
    rw [show n.log2 + 1022 - 1074 = 0 by omega, show 52 - n.log2 = 0 by omega]
    simp only [Nat.pow_eq, Nat.pow_zero, Nat.mul_one]
  · refine ⟨Nat.pow 2 (52 - n.log2), pow_pos _, ?_⟩
    rw [show 1074 - (n.log2 + 1022) = 52 - n.log2 by omega]

/-- No other natural number is rounded to the same. -/
theorem magnitude_inj {p : Nat} (hn : n ≠ 0) (h : n < exactBound) :
    magnitudeOfRatio p 1 = magnitudeOfRatio n 1 ↔ p = n := by
  refine ⟨fun heq => ?_, fun heq => by rw [heq]⟩
  have hsize : 0 < fractionSize := pow_pos 52
  have hlow := (shifted_bounds hn h).1
  have hhigh := (shifted_bounds hn h).2
  have hmagnitude := magnitude_of_lt hn h
  by_cases hp : p = 0
  · rw [hp, magnitudeOfRatio, if_pos rfl] at heq
    omega
  by_cases hbound : p < exactBound
  · have hsame : ofNat p = ofNat n := congrArg (Binary64.mk false) heq
    obtain ⟨d, hd, hratio⟩ := ratio_ofNat hn h
    obtain ⟨d', _, hratio'⟩ := ratio_ofNat hp hbound
    rw [hsame, hratio] at hratio'
    obtain ⟨hnum, rfl⟩ := Prod.mk.inj hratio'
    exact (Nat.eq_of_mul_eq_mul_right hd hnum).symm
  · -- With more bits it is above the others also when it is rounded.
    have hlog : n.log2 < 53 := (Nat.log2_lt hn).2 h
    have hlog' : 53 ≤ p.log2 := (Nat.le_log2 hp).2 (Nat.le_of_not_lt hbound)
    obtain ⟨q, hq, hlow', -⟩ := magnitude_of_ne_zero hp
    have hexp : (n.log2 + 1022) * fractionSize ≤ 1074 * fractionSize :=
      Nat.mul_le_mul_right fractionSize (by omega)
    have hexp' : 1075 * fractionSize ≤ (p.log2 + 1022) * fractionSize :=
      Nat.mul_le_mul_right fractionSize (by omega)
    have hinf : 1076 * fractionSize ≤ infiniteMagnitude := Nat.mul_le_mul_right _ (by decide)
    rw [hmagnitude, hq] at heq
    exact absurd heq (Nat.ne_of_gt (Nat.lt_min.2 ⟨by omega, by omega⟩))

/-! ## Which decimals read back as it -/

theorem pow_ten_le {a b : Nat} (h : a ≤ b) : Nat.pow 10 a ≤ Nat.pow 10 b :=
  Nat.pow_le_pow_right (by decide) h

/-- The number of decimal digits. -/
def figures (n : Nat) : Nat := (Nat.toDigits 10 n).length

theorem figures_pos (n : Nat) : 0 < figures n := Nat.length_toDigits_pos

/-- A number is not below the power of ten of its first digit. -/
theorem pow_ten_le_self (hn : n ≠ 0) : Nat.pow 10 (figures n - 1) ≤ n := by
  rcases Nat.eq_zero_or_pos (figures n - 1) with hzero | hpos
  · rw [hzero]
    exact Nat.pos_of_ne_zero hn
  · refine Nat.le_of_not_lt fun hlt => ?_
    have hfew : figures n ≤ figures n - 1 := (Nat.length_toDigits_le_iff (by decide) hpos).2 hlt
    have := figures_pos n
    omega

theorem exactBound_lt : exactBound < Nat.pow 10 16 := by decide

/-- Numbers of at most 53 bits have at most sixteen digits. -/
theorem figures_le (h : n < exactBound) : figures n ≤ 16 :=
  (Nat.length_toDigits_le_iff (by decide) (by decide)).2 (Nat.lt_trans h exactBound_lt)

/-- A decimal without places behind the point reads back as a number of at most 53 bits exactly
    when it has its value. -/
theorem readsBack_ofNat (hn : n ≠ 0) (h : n < exactBound) (digits e : Nat) :
    (ofNat n).readsBack ⟨digits, e⟩ = true ↔ digits * Nat.pow 10 e = n := by
  have hsize : 0 < fractionSize := pow_pos 52
  have hhigh := (shifted_bounds hn h).2
  have hmagnitude := magnitude_of_lt hn h
  have hlog : n.log2 < 53 := (Nat.log2_lt hn).2 h
  have hexp : (n.log2 + 1022) * fractionSize ≤ 1074 * fractionSize :=
    Nat.mul_le_mul_right fractionSize (by omega)
  rw [readsBack, beq_iff_eq, show (ofNat n).magnitude = magnitudeOfRatio n 1 from rfl]
  simp only [ofDecimal]
  by_cases hdigits : digits = 0
  · have hlow := (shifted_bounds hn h).1
    rw [if_pos hdigits, hdigits, Nat.zero_mul]
    simp only
    omega
  rw [if_neg hdigits]
  split
  · -- So many digits are past infinity, and far past 53 bits.
    next hmany =>
    have hfirst : Nat.pow 10 (figures digits - 1) * Nat.pow 10 e ≤ digits * Nat.pow 10 e :=
      Nat.mul_le_mul_right _ (pow_ten_le_self hdigits)
    have hsplit : Nat.pow 10 (figures digits - 1) * Nat.pow 10 e
        = Nat.pow 10 (figures digits - 1 + e) := (Nat.pow_add 10 _ _).symm
    have hfigures : figures digits = (Nat.toDigits 10 digits).length := rfl
    have hpow : Nat.pow 10 16 ≤ Nat.pow 10 (figures digits - 1 + e) := pow_ten_le (by omega)
    have hinf : (infinity false).magnitude = 2047 * fractionSize := rfl
    have hbound := exactBound_lt
    omega
  · rw [if_neg (by omega)]
    exact magnitude_inj hn h

/-! ## The shortest decimal of it -/

theorem leadingPower_ofNat {den : Nat} (hn : n ≠ 0) (hden : 0 < den) :
    leadingPower (n * den) den = figures n - 1 := by
  rw [leadingPower, if_pos (Nat.le_mul_of_pos_left den (Nat.pos_of_ne_zero hn)),
    Nat.mul_div_cancel n hden]
  rfl

/-- On a grid of no more digits than the number has, its neighbours have no places behind the
    point. -/
theorem neighbours_ofNat {k e : Nat} (hn : n ≠ 0) (h : n < exactBound)
    (hk : figures n = k + 1 + e) :
    ∃ above, ((ofNat n).neighbours (k + 1)) = (⟨n / Nat.pow 10 e, e⟩, above) ∧
      ∃ e' : Nat, above.exponent = e' := by
  obtain ⟨den, hden, hratio⟩ := ratio_ofNat hn h
  have hexponent : leadingPower (n * den) den - ((k + 1 - 1 : Nat) : Int) = (e : Int) := by
    rw [leadingPower_ofNat hn hden]
    omega
  have hbelow : n * den / (den * Nat.pow 10 e) = n / Nat.pow 10 e := by
    rw [Nat.mul_comm n, Nat.mul_div_mul_left _ _ hden]
  rw [neighbours, hratio]
  simp only [hexponent, hbelow]
  refine ⟨_, rfl, ?_⟩
  split
  · exact ⟨e + (k + 1), rfl⟩
  · exact ⟨e, rfl⟩

/-- What is found on a grid is one of the neighbours, and reads back. -/
theorem readsBack_of_withDigits? {x : Binary64} {k : Nat} {d : Decimal}
    (h : x.withDigits? k = some d) :
    x.readsBack d = true ∧ (d = (x.neighbours k).1 ∨ d = (x.neighbours k).2) := by
  unfold withDigits? at h
  simp only at h
  split at h
  · next hbelow habove =>
    cases h
    split
    · exact ⟨hbelow, .inl rfl⟩
    · exact ⟨habove, .inr rfl⟩
  · next hbelow _ =>
    cases h
    exact ⟨hbelow, .inl rfl⟩
  · next _ habove =>
    cases h
    exact ⟨habove, .inr rfl⟩
  · cases h

/-- What is found on a grid of no more digits than the number has is the number. -/
theorem withDigits?_ofNat {k : Nat} {d : Decimal} (hn : n ≠ 0) (h : n < exactBound)
    (hk : k < figures n) (hd : (ofNat n).withDigits? (k + 1) = some d) :
    ∃ e : Nat, d.exponent = e ∧ d.digits * Nat.pow 10 e = n := by
  obtain ⟨e, he⟩ : ∃ e, figures n = k + 1 + e := ⟨figures n - (k + 1), by omega⟩
  obtain ⟨above, hneighbours, e', he'⟩ := neighbours_ofNat hn h he
  obtain ⟨hback, hd'⟩ := readsBack_of_withDigits? hd
  -- Neither neighbour has places behind the point, and then reading back leaves no choice.
  rw [hneighbours] at hd'
  obtain ⟨digits, exponent⟩ := d
  rcases hd' with hd' | hd'
  · cases hd'
    exact ⟨e, rfl, (readsBack_ofNat hn h _ _).1 hback⟩
  · cases hd'
    cases he'
    exact ⟨e', rfl, (readsBack_ofNat hn h _ _).1 hback⟩

/-- On the grid of all its digits, the number is found. -/
theorem withDigits?_figures (hn : n ≠ 0) (h : n < exactBound) :
    ((ofNat n).withDigits? (figures n)).isSome = true := by
  obtain ⟨k, hk⟩ : ∃ k, figures n = k + 1 := ⟨figures n - 1, by have := figures_pos n; omega⟩
  obtain ⟨above, hneighbours, -⟩ := neighbours_ofNat (e := 0) hn h hk
  have hback : (ofNat n).readsBack ⟨n / Nat.pow 10 0, (0 : Nat)⟩ = true :=
    (readsBack_ofNat hn h _ _).2 (by simp)
  rw [hk, withDigits?, hneighbours]
  simp only [hback]
  cases (ofNat n).readsBack above <;> rfl

/-- The shortest decimal of a natural number of at most 53 bits has no places behind the point, and
    has its value. -/
theorem shortest_ofNat (h : n < exactBound) :
    ∃ e : Nat, (ofNat n).shortest.exponent = e ∧ (ofNat n).shortest.digits * Nat.pow 10 e = n := by
  by_cases hn : n = 0
  · subst hn
    exact ⟨0, rfl, rfl⟩
  have hzero : (ofNat n).isZero = false := by
    have hsize : 0 < fractionSize := pow_pos 52
    have hmagnitude := magnitude_of_lt hn h
    have hlow := (shifted_bounds hn h).1
    rw [isZero, show (ofNat n).magnitude = magnitudeOfRatio n 1 from rfl, beq_eq_false_iff_ne]
    omega
  -- The grids after that of all digits are not looked at.
  have hrange : List.range 17
      = List.range (figures n) ++ (List.range (17 - figures n)).map (figures n + ·) := by
    rw [← List.range_add]
    have := figures_le h
    congr 1
    omega
  obtain ⟨d, hd⟩ : ∃ d, (List.range (figures n)).findSome?
      (fun k => (ofNat n).withDigits? (k + 1)) = some d := by
    rw [← Option.isSome_iff_exists, List.findSome?_isSome_iff]
    have hpos := figures_pos n
    refine ⟨figures n - 1, List.mem_range.2 (by omega), ?_⟩
    rw [Nat.sub_add_cancel hpos]
    exact withDigits?_figures hn h
  obtain ⟨k, hk, hfound⟩ := List.exists_of_findSome?_eq_some hd
  have hshortest : (ofNat n).shortest = d := by
    rw [shortest, hzero, hrange, List.findSome?_append, hd]
    rfl
  rw [hshortest]
  exact withDigits?_ofNat hn h (List.mem_range.1 hk) hfound

end GridGauge.Binary64
