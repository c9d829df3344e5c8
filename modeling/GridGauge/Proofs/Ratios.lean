import GridGauge.Proofs.Rounding
import Mathlib.Order.Nat

/-!
# Numbers nearest to a ratio

Which number is nearest to a ratio depends on the value of the ratio only
(`magnitudeOfRatio_congr`): the exponent under which it is rounded is the least
under which it fits (`exponentOfRatio_le_iff`), and neither that nor the
rounding changes when both sides are multiplied.

A finite number is the nearest to its own value (`magnitudeOfRatio_units`): it
fits under its own exponent, and under a smaller one its first bit is too many.
-/

namespace GridGauge.Binary64

variable {num den num' den' : Nat}

/-! ## Ratios of the same value -/

/-- The exponent of one, in units of the least number above zero. -/
def bias : Nat := 1074

/-- How many of the least numbers above zero make up one. -/
def resolution : Nat := Nat.pow 2 bias

theorem resolution_pos : 0 < resolution := by
  unfold resolution
  exact pow_pos bias

theorem pow_mul_resolution {a b : Nat} (h : a = b + bias) :
    Nat.pow 2 a = Nat.pow 2 b * resolution := by
  unfold resolution
  exact pow_split h

theorem roundDiv_mul_right {c : Nat} (hc : 0 < c) :
    roundDiv (num * c) (den * c) = roundDiv num den := by
  have htwice : 2 * (num % den * c) = 2 * (num % den) * c := (Nat.mul_assoc 2 _ c).symm
  rw [roundDiv, roundDiv, Nat.mul_div_mul_right _ _ hc, Nat.mul_mod_mul_right, htwice]
  simp only [Nat.mul_lt_mul_right hc]

/-- What `num / den` is in units of the exponent `e`, as a ratio without cases. -/
theorem scaled_eq (f : Nat → Nat → Nat)
    (hf : ∀ {num den c : Nat}, 0 < c → f (num * c) (den * c) = f num den) (num den e : Nat) :
    (if 1074 ≤ e then f num (den * Nat.pow 2 (e - 1074)) else f (num * Nat.pow 2 (1074 - e)) den)
      = f (num * resolution) (den * Nat.pow 2 e) := by
  have hbias : bias = 1074 := rfl
  split
  · next h =>
    have hsplit : Nat.pow 2 e = Nat.pow 2 (e - 1074) * resolution :=
      pow_mul_resolution (by omega)
    rw [hsplit, ← Nat.mul_assoc, hf resolution_pos]
  · next h =>
    have hsplit : resolution = Nat.pow 2 (1074 - e) * Nat.pow 2 e := by
      unfold resolution
      exact pow_split (by omega)
    rw [hsplit, ← Nat.mul_assoc, hf (pow_pos e)]

/-- The quotient takes at most 53 bits in units of the exponent `e`. -/
def Fits (num den e : Nat) : Prop := num * resolution < 2 * fractionSize * (den * Nat.pow 2 e)

/-- The logarithms give the exponent to within one: past it the quotient fits, and below it not. -/
theorem fits_of_lt (hden : den ≠ 0) {e : Nat} (he : num.log2 + 1074 - (den.log2 + 53) < e) :
    Fits num den e := by
  have hbias : bias = 1074 := rfl
  have hnum : num < Nat.pow 2 (num.log2 + 1) := Nat.lt_log2_self
  have hlow : Nat.pow 2 den.log2 ≤ den := Nat.log2_self_le hden
  have hsplit : Nat.pow 2 (num.log2 + 1) * resolution = Nat.pow 2 (num.log2 + 1 + bias) :=
    (pow_mul_resolution rfl).symm
  have hsplit' : Nat.pow 2 53 * (Nat.pow 2 den.log2 * Nat.pow 2 e)
      = Nat.pow 2 (53 + (den.log2 + e)) := by
    rw [pow_split (a := 53 + (den.log2 + e)) rfl, pow_split (a := den.log2 + e) rfl]
  rw [Fits, two_mul_fractionSize]
  calc num * resolution
    _ < Nat.pow 2 (num.log2 + 1 + bias) := hsplit ▸ Nat.mul_lt_mul_of_pos_right hnum resolution_pos
    _ ≤ Nat.pow 2 (53 + (den.log2 + e)) := pow_le_pow (by omega)
    _ ≤ Nat.pow 2 53 * (den * Nat.pow 2 e) :=
      hsplit' ▸ Nat.mul_le_mul_left _ (Nat.mul_le_mul_right _ hlow)

theorem not_fits_of_lt (hnum : num ≠ 0) {e : Nat} (he : e < num.log2 + 1074 - (den.log2 + 53)) :
    ¬Fits num den e := by
  have hbias : bias = 1074 := rfl
  have hlow : Nat.pow 2 num.log2 ≤ num := Nat.log2_self_le hnum
  have hden : den < Nat.pow 2 (den.log2 + 1) := Nat.lt_log2_self
  have hsplit : Nat.pow 2 num.log2 * resolution = Nat.pow 2 (num.log2 + bias) :=
    (pow_mul_resolution rfl).symm
  have hsplit' : Nat.pow 2 53 * (Nat.pow 2 (den.log2 + 1) * Nat.pow 2 e)
      = Nat.pow 2 (53 + (den.log2 + 1 + e)) := by
    rw [pow_split (a := 53 + (den.log2 + 1 + e)) rfl, pow_split (a := den.log2 + 1 + e) rfl]
  rw [Fits, two_mul_fractionSize, Nat.not_lt]
  calc Nat.pow 2 53 * (den * Nat.pow 2 e)
    _ ≤ Nat.pow 2 (53 + (den.log2 + 1 + e)) :=
      hsplit' ▸ Nat.mul_le_mul_left _ (Nat.mul_le_mul_right _ (Nat.le_of_lt hden))
    _ ≤ Nat.pow 2 (num.log2 + bias) := pow_le_pow (by omega)
    _ ≤ num * resolution := hsplit ▸ Nat.mul_le_mul_right _ hlow

/-- A quotient is rounded under the least exponent under which it fits. -/
theorem exponentOfRatio_le_iff (hnum : num ≠ 0) (hden : den ≠ 0) {e : Nat} :
    exponentOfRatio num den ≤ e ↔ Fits num den e := by
  have hscaled := scaled_eq (· / ·) (fun hc => Nat.mul_div_mul_right _ _ hc) num den
  rw [exponentOfRatio]
  simp only [hscaled]
  generalize hfirst : num.log2 + 1074 - (den.log2 + 53) = first
  have hfits : 2 * fractionSize ≤ num * resolution / (den * Nat.pow 2 first)
      ↔ ¬Fits num den first := by
    rw [Fits, Nat.not_lt,
      Nat.le_div_iff_mul_le (Nat.mul_pos (Nat.pos_of_ne_zero hden) (pow_pos first))]
  -- Below the first guess no quotient fits and past it each does, so only the guess is looked at.
  rcases Nat.lt_trichotomy e first with hlt | rfl | hgt
  · have hnot : ¬Fits num den e := not_fits_of_lt hnum (hfirst ▸ hlt)
    refine ⟨fun h => ?_, fun h => absurd h hnot⟩
    split at h <;> omega
  · split
    · next h => exact ⟨fun h' => by omega, fun h' => absurd h' (hfits.1 h)⟩
    · next h => exact ⟨fun _ => not_not.1 fun h' => h (hfits.2 h'), fun _ => Nat.le_refl _⟩
  · have hfit : Fits num den e := fits_of_lt hden (hfirst ▸ hgt)
    refine ⟨fun _ => hfit, fun _ => ?_⟩
    split <;> omega

theorem magnitudeOfRatio_eq (hnum : num ≠ 0) :
    magnitudeOfRatio num den
      = min (exponentOfRatio num den * fractionSize
          + roundDiv (num * resolution) (den * Nat.pow 2 (exponentOfRatio num den)))
        infiniteMagnitude := by
  rw [magnitudeOfRatio, if_neg hnum]
  simp only [scaled_eq roundDiv roundDiv_mul_right]

/-- The number nearest to a fraction is that nearest to the fraction when it is expanded. -/
theorem magnitudeOfRatio_mul_right {c : Nat} (hden : den ≠ 0) (hc : 0 < c) :
    magnitudeOfRatio (num * c) (den * c) = magnitudeOfRatio num den := by
  by_cases hnum : num = 0
  · rw [hnum, Nat.zero_mul, magnitudeOfRatio, magnitudeOfRatio, if_pos rfl, if_pos rfl]
  have hnum' : num * c ≠ 0 := Nat.mul_ne_zero hnum (Nat.ne_of_gt hc)
  have hden' : den * c ≠ 0 := Nat.mul_ne_zero hden (Nat.ne_of_gt hc)
  have hexponent : exponentOfRatio (num * c) (den * c) = exponentOfRatio num den := by
    refine eq_of_forall_ge_iff fun e => ?_
    rw [exponentOfRatio_le_iff hnum' hden', exponentOfRatio_le_iff hnum hden, Fits, Fits,
      Nat.mul_right_comm num, Nat.mul_right_comm den, ← Nat.mul_assoc, Nat.mul_lt_mul_right hc]
  rw [magnitudeOfRatio_eq hnum', magnitudeOfRatio_eq hnum, hexponent, Nat.mul_right_comm num,
    Nat.mul_right_comm den, roundDiv_mul_right hc]

/-- The number nearest to a ratio depends on the value of the ratio only. -/
theorem magnitudeOfRatio_congr (hden : den ≠ 0) (hden' : den' ≠ 0)
    (h : num * den' = num' * den) : magnitudeOfRatio num den = magnitudeOfRatio num' den' := by
  rw [← magnitudeOfRatio_mul_right hden (Nat.pos_of_ne_zero hden'), h, Nat.mul_comm den,
    magnitudeOfRatio_mul_right hden' (Nat.pos_of_ne_zero hden)]

/-! ## Numbers are nearest to themselves -/

/-- The exponent of the last bit of the greatest finite number, in units of the least number. -/
def lastExponent : Nat := 2045

/-- A finite number other than zero has 53 bits, unless it is one of the least, and its exponent
    is bounded. -/
theorem parts_of_isFinite {x : Binary64} (h : x.isFinite = true) :
    x.parts.2 * fractionSize + x.parts.1 = x.magnitude ∧ x.parts.1 < 2 * fractionSize ∧
      (x.parts.2 = 0 ∨ fractionSize ≤ x.parts.1) ∧ x.parts.2 ≤ lastExponent := by
  have hlast : lastExponent = 2045 := rfl
  have hfinite : x.magnitude < 2047 * fractionSize := of_decide_eq_true h
  have hsize : 0 < fractionSize := pow_pos 52
  have hsplit := Nat.div_add_mod x.magnitude fractionSize
  have hfraction := Nat.mod_lt x.magnitude hsize
  have hfield : x.magnitude / fractionSize < 2047 := (Nat.div_lt_iff_lt_mul hsize).2 hfinite
  rw [parts]
  generalize x.magnitude / fractionSize = field at *
  generalize x.magnitude % fractionSize = fraction at *
  -- Only the least numbers have no bit in front of their fraction.
  split
  · next hzero =>
    subst hzero
    exact ⟨by omega, by dsimp only; omega, .inl rfl, Nat.zero_le _⟩
  · next hne =>
    obtain ⟨e, rfl⟩ : ∃ e, field = e + 1 := ⟨field - 1, by omega⟩
    rw [Nat.mul_add_one, Nat.mul_comm] at hsplit
    rw [Nat.add_sub_cancel]
    exact ⟨by dsimp only; omega, by dsimp only; omega, .inr (Nat.le_add_right _ _),
      by dsimp only; omega⟩

/-- A finite magnitude in units of the least number above zero. -/
def units (x : Binary64) : Nat := x.parts.1 * Nat.pow 2 x.parts.2

theorem units_lt {x : Binary64} (h : x.isFinite = true) :
    x.units < 2 * fractionSize * Nat.pow 2 lastExponent := by
  obtain ⟨-, hbits, -, hexponent⟩ := parts_of_isFinite h
  exact Nat.lt_of_lt_of_le (Nat.mul_lt_mul_of_pos_right hbits (pow_pos _))
    (Nat.mul_le_mul_left _ (pow_le_pow hexponent))

theorem units_ne_zero {x : Binary64} (h : x.isFinite = true) (hzero : x.isZero = false) :
    x.units ≠ 0 := by
  obtain ⟨hmagnitude, -, hleast, -⟩ := parts_of_isFinite h
  have hsize : 0 < fractionSize := pow_pos 52
  have hne : x.magnitude ≠ 0 := beq_eq_false_iff_ne.1 hzero
  refine Nat.mul_ne_zero ?_ (pow_pos _).ne'
  rcases hleast with he | hm
  · rw [he, Nat.zero_mul] at hmagnitude
    omega
  · omega

/-- A finite number is the nearest to its own value. -/
theorem magnitudeOfRatio_units {x : Binary64} (h : x.isFinite = true) :
    magnitudeOfRatio x.units resolution = x.magnitude := by
  rw [units]
  obtain ⟨hmagnitude, hbits, hleast, -⟩ := parts_of_isFinite h
  have hfinite : x.magnitude < infiniteMagnitude := of_decide_eq_true h
  generalize x.parts.1 = m at *
  generalize x.parts.2 = e at *
  have hsize : 0 < fractionSize := pow_pos 52
  by_cases hm : m = 0
  · obtain rfl : e = 0 := hleast.resolve_right (by omega)
    rw [hm, Nat.zero_mul, magnitudeOfRatio, if_pos rfl, ← hmagnitude, hm, Nat.zero_mul]
  have hfits (e' : Nat) : Fits (m * Nat.pow 2 e) resolution e'
      ↔ m * Nat.pow 2 e < 2 * fractionSize * Nat.pow 2 e' := by
    rw [Fits, Nat.mul_comm resolution, ← Nat.mul_assoc (2 * fractionSize),
      Nat.mul_lt_mul_right resolution_pos]
  -- Under its own exponent the number fits, and under a smaller one its first bit is too many.
  have hexponent : exponentOfRatio (m * Nat.pow 2 e) resolution = e := by
    refine eq_of_forall_ge_iff fun e' => ?_
    rw [exponentOfRatio_le_iff (Nat.mul_ne_zero hm (Nat.ne_of_gt (pow_pos e)))
      (Nat.ne_of_gt resolution_pos), hfits]
    constructor
    · intro hlt
      refine Nat.le_of_not_lt fun hless => ?_
      have hm' : fractionSize ≤ m := hleast.resolve_left (by omega)
      have hdouble : 2 * Nat.pow 2 e' ≤ Nat.pow 2 e := pow_succ rfl ▸ pow_le_pow hless
      have := Nat.mul_le_mul hm' hdouble
      rw [← Nat.mul_assoc, Nat.mul_comm fractionSize] at this
      omega
    · intro hle
      exact Nat.lt_of_lt_of_le (Nat.mul_lt_mul_of_pos_right hbits (pow_pos e))
        (Nat.mul_le_mul_left _ (pow_le_pow hle))
  have hround : roundDiv (m * Nat.pow 2 e * resolution) (resolution * Nat.pow 2 e) = m := by
    have hscale : roundDiv (m * (Nat.pow 2 e * resolution)) (1 * (Nat.pow 2 e * resolution))
        = roundDiv m 1 := roundDiv_mul_right (Nat.mul_pos (pow_pos e) resolution_pos)
    rwa [roundDiv_one, Nat.one_mul, ← Nat.mul_assoc, Nat.mul_comm (Nat.pow 2 e) resolution]
      at hscale
  rw [magnitudeOfRatio_eq (Nat.mul_ne_zero hm (Nat.ne_of_gt (pow_pos e))), hexponent, hround,
    hmagnitude]
  omega

end GridGauge.Binary64
