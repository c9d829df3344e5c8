import GridGauge.Proofs.Exactness
import GridGauge.Proofs.Layouts
import GridGauge.Proofs.Ratios
import Mathlib.Algebra.Order.Ring.Rat
import Mathlib.Tactic.Positivity

/-!
# Numbers nearest to a decimal

Decimals of the same value are read as the same number (`ofDecimal_congr`),
however their digits and their powers of ten are shared out. The bounds past
which no power of ten is raised make no difference to that, as the place of the
first digit depends on the value, too.

So a finite number is read again from the shortest of its decimals, also where
the search for that would come to nothing and the number is written out in full
(`ofDecimal_shortest`).
-/

namespace GridGauge

/-! ## Decimals of the same value -/

namespace Decimal

open Binary64 (figures)

variable {d d' : Decimal}

theorem ten_ne_zero : (10 : ℚ) ≠ 0 := by norm_num

theorem ten_zpow_pos (k : Int) : (0 : ℚ) < 10 ^ k := zpow_pos (by norm_num) k

theorem value_eq_zero_iff : d.value = 0 ↔ d.digits = 0 := by
  rw [value, mul_eq_zero, or_iff_left (ten_zpow_pos d.exponent).ne', Nat.cast_eq_zero]

theorem lt_pow_figures (n : Nat) : n < Nat.pow 10 (figures n) :=
  (Nat.length_toDigits_le_iff (by decide) (Binary64.figures_pos n)).1 (Nat.le_refl _)

/-- A decimal is not below the power of ten of its first digit. -/
theorem pow_le_value (h : d.digits ≠ 0) :
    (10 : ℚ) ^ ((figures d.digits : Int) + d.exponent - 1) ≤ d.value := by
  have hpos := Binary64.figures_pos d.digits
  have hsplit : (figures d.digits : Int) + d.exponent - 1
      = (figures d.digits - 1 : Nat) + d.exponent := by omega
  have hdigits : (10 : ℚ) ^ (figures d.digits - 1) ≤ d.digits := by
    exact_mod_cast Binary64.pow_ten_le_self h
  rw [hsplit, zpow_add₀ ten_ne_zero, zpow_natCast, value]
  exact mul_le_mul_of_nonneg_right hdigits (ten_zpow_pos d.exponent).le

/-- It is below the next power of ten. -/
theorem value_lt_pow (d : Decimal) :
    d.value < (10 : ℚ) ^ ((figures d.digits : Int) + d.exponent) := by
  have hdigits : (d.digits : ℚ) < (10 : ℚ) ^ figures d.digits := by
    exact_mod_cast lt_pow_figures d.digits
  rw [zpow_add₀ ten_ne_zero, zpow_natCast, value]
  exact mul_lt_mul_of_pos_right hdigits (ten_zpow_pos d.exponent)

/-- Decimals of the same value have their first digits in the same place. -/
theorem place_le_of_value_eq (h : d.digits ≠ 0) (hvalue : d.value = d'.value) :
    (figures d.digits : Int) + d.exponent ≤ figures d'.digits + d'.exponent := by
  have hlt := (pow_le_value h).trans_lt (hvalue ▸ value_lt_pow d')
  have := (zpow_lt_zpow_iff_right₀ (by norm_num : (1 : ℚ) < 10)).1 hlt
  omega

/-- A decimal below a power of ten has no more figures before the point. -/
theorem place_le_of_value_lt {k : Nat} (h : d.digits ≠ 0) (hvalue : d.value < (10 : ℚ) ^ k) :
    (figures d.digits : Int) + d.exponent ≤ k := by
  have hlt := (pow_le_value h).trans_lt hvalue
  rw [← zpow_natCast] at hlt
  have := (zpow_lt_zpow_iff_right₀ (by norm_num : (1 : ℚ) < 10)).1 hlt
  omega

/-- A decimal not below a negative power of ten has fewer zeros behind the point. -/
theorem lt_place_of_le_value {k : Nat} (hvalue : ((10 : ℚ) ^ k)⁻¹ ≤ d.value) :
    -(k : Int) < (figures d.digits : Int) + d.exponent := by
  have hlt := hvalue.trans_lt (value_lt_pow d)
  rw [← zpow_natCast, ← zpow_neg] at hlt
  exact (zpow_lt_zpow_iff_right₀ (by norm_num : (1 : ℚ) < 10)).1 hlt

/-- The value of a decimal as a ratio of natural numbers. -/
theorem exists_ratio (d : Decimal) :
    ∃ num den : Nat, den ≠ 0 ∧ d.value = (num : ℚ) / den := by
  obtain ⟨digits, e | e⟩ := d
  · refine ⟨digits * Nat.pow 10 e, 1, Nat.one_ne_zero, ?_⟩
    rw [value, Int.ofNat_eq_natCast, zpow_natCast, Nat.cast_one, div_one, Nat.pow_eq]
    push_cast
    rfl
  · refine ⟨digits, Nat.pow 10 (e + 1), (Nat.pow_pos (by decide)).ne', ?_⟩
    rw [value, zpow_negSucc, div_eq_mul_inv, Nat.pow_eq]
    push_cast
    rfl

end Decimal

namespace Binary64

variable {digits : Nat} {exponent : Int}

/-- The sign of a decimal has no part in how it is rounded. -/
theorem ofDecimal_eq (negative : Bool) (digits : Nat) (exponent : Int) :
    ofDecimal negative digits exponent
      = ⟨negative, (ofDecimal false digits exponent).magnitude⟩ := by
  simp only [ofDecimal]
  split
  · rfl
  · split
    · rfl
    · split
      · rfl
      · cases exponent <;> rfl

theorem ofDecimal_of_zero (negative : Bool) (exponent : Int) :
    ofDecimal negative 0 exponent = ⟨negative, 0⟩ := by
  simp only [ofDecimal, if_true]

/-- Past the bounds of what is raised to a power, a decimal is infinite or zero. -/
theorem ofDecimal_of_high (negative : Bool) (hdigits : digits ≠ 0)
    (hhigh : 310 < (figures digits : Int) + exponent) :
    ofDecimal negative digits exponent = infinity negative := by
  rw [figures] at hhigh
  simp only [ofDecimal, if_neg hdigits, if_pos hhigh]

theorem ofDecimal_of_low (negative : Bool) (hdigits : digits ≠ 0)
    (hlow : (figures digits : Int) + exponent < -330) :
    ofDecimal negative digits exponent = ⟨negative, 0⟩ := by
  rw [figures] at hlow
  have hhigh : ¬310 < ((Nat.toDigits 10 digits).length : Int) + exponent := by omega
  simp only [ofDecimal, if_neg hdigits, if_neg hhigh, if_pos hlow]

/-- Within the bounds it is rounded as the ratio it is. -/
theorem ofDecimal_of_value {num den : Nat} (negative : Bool) (hdigits : digits ≠ 0)
    (hhigh : (figures digits : Int) + exponent ≤ 310)
    (hlow : -330 ≤ (figures digits : Int) + exponent) (hden : den ≠ 0)
    (hvalue : (⟨digits, exponent⟩ : Decimal).value = (num : ℚ) / den) :
    ofDecimal negative digits exponent = ofRatio negative num den := by
  have hden' : (den : ℚ) ≠ 0 := by exact_mod_cast hden
  rw [figures] at hhigh hlow
  simp only [ofDecimal]
  rw [if_neg hdigits, if_neg (by omega), if_neg (by omega)]
  rw [Decimal.value] at hvalue
  cases exponent with
  | ofNat e =>
    refine congrArg (Binary64.mk negative) (magnitudeOfRatio_congr Nat.one_ne_zero hden ?_)
    rw [Int.ofNat_eq_natCast, zpow_natCast, eq_div_iff hden'] at hvalue
    rw [Nat.mul_one, Nat.pow_eq]
    exact_mod_cast hvalue
  | negSucc e =>
    have hpow : Nat.pow 10 (e + 1) ≠ 0 := (Nat.pow_pos (by decide)).ne'
    refine congrArg (Binary64.mk negative) (magnitudeOfRatio_congr hpow hden ?_)
    rw [zpow_negSucc, ← div_eq_mul_inv, div_eq_div_iff (by positivity) hden'] at hvalue
    rw [Nat.pow_eq]
    exact_mod_cast hvalue

/-- The number nearest to a decimal depends on the value of the decimal only. -/
theorem ofDecimal_congr {d d' : Decimal} (negative : Bool) (h : d.value = d'.value) :
    ofDecimal negative d.digits d.exponent = ofDecimal negative d'.digits d'.exponent := by
  by_cases hd : d.digits = 0
  · have hd' : d'.digits = 0 := by
      rw [← Decimal.value_eq_zero_iff, ← h, Decimal.value_eq_zero_iff, hd]
    rw [hd, hd', ofDecimal_of_zero, ofDecimal_of_zero]
  have hd' : d'.digits ≠ 0 := fun hd' => hd <| by
    rw [← Decimal.value_eq_zero_iff, h, Decimal.value_eq_zero_iff, hd']
  -- The bounds look at the place of the first digit, which is the same for both.
  have hplace := Int.le_antisymm (Decimal.place_le_of_value_eq hd h)
    (Decimal.place_le_of_value_eq hd' h.symm)
  rcases lt_or_ge 310 ((figures d.digits : Int) + d.exponent) with hhigh | hhigh
  · rw [ofDecimal_of_high negative hd hhigh, ofDecimal_of_high negative hd' (hplace ▸ hhigh)]
  rcases lt_or_ge ((figures d.digits : Int) + d.exponent) (-330) with hlow | hlow
  · rw [ofDecimal_of_low negative hd hlow, ofDecimal_of_low negative hd' (hplace ▸ hlow)]
  · obtain ⟨num, den, hden, hratio⟩ := d.exists_ratio
    rw [ofDecimal_of_value negative hd hhigh hlow hden hratio,
      ofDecimal_of_value negative hd' (hplace ▸ hhigh) (hplace ▸ hlow) hden (h ▸ hratio)]

/-! ## Reading the shortest decimal -/

variable {x : Binary64}

/-- A number written out in full has its value. -/
theorem value_exact (x : Binary64) :
    x.exact.value = (x.units : ℚ) / resolution := by
  have hpos : (resolution : ℚ) ≠ 0 := by exact_mod_cast resolution_pos.ne'
  rw [exact, units]
  generalize x.parts = p
  obtain ⟨m, e⟩ := p
  dsimp only
  split
  · next h =>
    have hsplit : Nat.pow 2 e = Nat.pow 2 (e - 1074) * resolution :=
      pow_mul_resolution (Nat.sub_add_cancel h).symm
    rw [Decimal.value, zpow_zero, mul_one, eq_div_iff hpos, hsplit, ← Nat.mul_assoc,
      Nat.cast_mul _ resolution]
  · next h =>
    have hbias : bias = 1074 := rfl
    -- The digits are those of `m * 5 ^ k`, as `5 ^ k / 10 ^ k` is `1 / 2 ^ k`.
    obtain ⟨k, hk⟩ : ∃ k, bias = k + e := ⟨bias - e, (Nat.sub_add_cancel (by omega)).symm⟩
    have hsplit : resolution = Nat.pow 2 k * Nat.pow 2 e := by
      unfold resolution
      exact pow_split hk
    have hten : Nat.pow 10 k = Nat.pow 2 k * Nat.pow 5 k := Nat.mul_pow 2 5 k
    have hexponent : (e : Int) - 1074 = -(k : Int) := by omega
    have hplaces : 1074 - e = k := by omega
    have hcross : m * Nat.pow 5 k * resolution = m * Nat.pow 2 e * Nat.pow 10 k := by
      rw [hsplit, hten]
      ring
    rw [Decimal.value, hplaces, hexponent, zpow_neg, zpow_natCast, ← div_eq_mul_inv,
      div_eq_div_iff (by positivity) hpos]
    rw [Nat.pow_eq (m := 10)] at hcross
    exact_mod_cast hcross

theorem digits_exact_ne_zero (h : x.isFinite = true) (hzero : x.isZero = false) :
    x.exact.digits ≠ 0 := by
  have hunits : (x.units : ℚ) ≠ 0 := by exact_mod_cast units_ne_zero h hzero
  have hresolution : (resolution : ℚ) ≠ 0 := by exact_mod_cast resolution_pos.ne'
  rw [ne_eq, ← Decimal.value_eq_zero_iff, value_exact]
  exact div_ne_zero hunits hresolution

/-- The greatest number has 309 figures. -/
theorem place_exact_le (h : x.isFinite = true) (hzero : x.isZero = false) :
    (figures x.exact.digits : Int) + x.exact.exponent ≤ 310 := by
  -- A named power is not computed.
  obtain ⟨k, hk⟩ : ∃ k, k = 310 := ⟨310, rfl⟩
  have hpos : (0 : ℚ) < resolution := by exact_mod_cast resolution_pos
  have hlast : 2 * fractionSize * Nat.pow 2 lastExponent ≤ Nat.pow 10 k * resolution := by
    rw [hk]
    decide +kernel
  have hvalue : x.exact.value < (10 : ℚ) ^ k := by
    rw [value_exact, div_lt_iff₀ hpos]
    exact_mod_cast Nat.lt_of_lt_of_le (units_lt h) hlast
  have := Decimal.place_le_of_value_lt (digits_exact_ne_zero h hzero) hvalue
  omega

/-- The least number has 323 zeros behind the point. -/
theorem le_place_exact (h : x.isFinite = true) (hzero : x.isZero = false) :
    -330 ≤ (figures x.exact.digits : Int) + x.exact.exponent := by
  obtain ⟨k, hk⟩ : ∃ k, k = 331 := ⟨331, rfl⟩
  have hpos : (0 : ℚ) < resolution := by exact_mod_cast resolution_pos
  have hleast : resolution ≤ Nat.pow 10 k := by
    rw [hk]
    decide +kernel
  have hresolution : (resolution : ℚ) ≤ 10 ^ k := by exact_mod_cast hleast
  have hunits : (1 : ℚ) ≤ x.units := by
    exact_mod_cast Nat.one_le_iff_ne_zero.2 (units_ne_zero h hzero)
  have hvalue : ((10 : ℚ) ^ k)⁻¹ ≤ x.exact.value := by
    rw [value_exact, inv_eq_one_div]
    exact div_le_div₀ (zero_le_one.trans hunits) hunits hpos hresolution
  have := Decimal.lt_place_of_le_value hvalue
  omega

/-- A number written out in full reads back. -/
theorem magnitude_ofDecimal_exact (h : x.isFinite = true) (hzero : x.isZero = false) :
    (ofDecimal false x.exact.digits x.exact.exponent).magnitude = x.magnitude := by
  rw [ofDecimal_of_value false (digits_exact_ne_zero h hzero) (place_exact_le h hzero)
    (le_place_exact h hzero) resolution_pos.ne' (value_exact x)]
  exact magnitudeOfRatio_units h

/-- A finite number is the nearest to the shortest of its decimals. -/
theorem ofDecimal_shortest (h : x.isFinite = true) :
    ofDecimal x.negative x.shortest.digits x.shortest.exponent = x := by
  have hmagnitude : (ofDecimal false x.shortest.digits x.shortest.exponent).magnitude
      = x.magnitude := by
    rw [shortest]
    split
    · next hzero =>
      rw [ofDecimal_of_zero]
      exact (beq_iff_eq.1 hzero).symm
    · next hzero =>
      -- The search finds only what reads back, and if it finds nothing, all digits are written.
      cases hfound : (List.range 17).findSome? fun n => x.withDigits? (n + 1) with
      | none => exact magnitude_ofDecimal_exact h (by simpa using hzero)
      | some d =>
        obtain ⟨n, -, hn⟩ := List.exists_of_findSome?_eq_some hfound
        exact beq_iff_eq.1 (readsBack_of_withDigits? hn).1
  rw [ofDecimal_eq, hmagnitude]

end Binary64

end GridGauge
