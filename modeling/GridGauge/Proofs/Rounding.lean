import GridGauge.Number.Binary64

/-!
# Which integers have a floating-point number

An integer is rounded to the nearest number, and is too large for any from half
a step past the greatest finite one on. There the rounding is a tie: the
fraction of the greatest number is odd, so the tie goes to the number above it,
which is infinity.

A natural number other than zero is written with 53 bits and the exponent of
its first bit (`magnitude_of_ne_zero`). Only where this exponent is the
greatest of a finite number does it depend on the rounding what comes out.
-/

namespace GridGauge.Binary64

/-- The exponent of the first power of two past all finite numbers. -/
def topExponent : Nat := 1024

/-- The exponent of half the step between the greatest numbers. -/
def halfExponent : Nat := 970

/-- The least natural number that is rounded to infinity: `2 ^ 1024 - 2 ^ 970`. -/
def overflow : Nat := Nat.pow 2 topExponent - Nat.pow 2 halfExponent

/-! ## Rounding a quotient -/

variable {num den : Nat}

theorem div_le_roundDiv : num / den ≤ roundDiv num den := by
  rw [roundDiv]
  split
  · exact Nat.le_refl _
  · split <;> omega

theorem roundDiv_le_succ : roundDiv num den ≤ num / den + 1 := by
  rw [roundDiv]
  split
  · omega
  · split <;> omega

theorem roundDiv_one (n : Nat) : roundDiv n 1 = n := by
  simp [roundDiv, Nat.mod_one]

/-- A quotient is rounded to less than an even number exactly when it is more than half below. -/
theorem roundDiv_lt_iff {k : Nat} (hden : 0 < den) (hk : k % 2 = 0) :
    roundDiv num den < k ↔ 2 * num + den < 2 * (den * k) := by
  have hnum : den * (num / den) + num % den = num := Nat.div_add_mod num den
  have hr : num % den < den := Nat.mod_lt num hden
  have hlow : num / den ≤ roundDiv num den := div_le_roundDiv
  have hhigh : roundDiv num den ≤ num / den + 1 := roundDiv_le_succ
  rcases Nat.lt_trichotomy (num / den + 1) k with hlt | heq | hgt
  · have hmul : den * (num / den + 2) ≤ den * k := Nat.mul_le_mul_left den hlt
    rw [Nat.mul_add] at hmul
    exact ⟨fun _ => by omega, fun _ => by omega⟩
  · -- The quotient is odd, so that a tie goes up to the even number.
    have hodd : num / den % 2 = 1 := by omega
    have hmul : den * k = den * (num / den) + den := by rw [← heq, Nat.mul_add, Nat.mul_one]
    rw [hmul, roundDiv]
    split
    · exact ⟨fun _ => by omega, fun _ => by omega⟩
    · split <;> exact ⟨fun _ => by omega, fun _ => by omega⟩
  · have hmul : den * k ≤ den * (num / den) := Nat.mul_le_mul_left den (by omega)
    exact ⟨fun _ => by omega, fun _ => by omega⟩

/-! ## Powers of two -/

-- `Nat.pow` is not the form in which the library's lemmas on powers rewrite.

theorem pow_split {a b c : Nat} (h : a = b + c) : Nat.pow 2 a = Nat.pow 2 b * Nat.pow 2 c := by
  rw [h]
  exact Nat.pow_add 2 b c

theorem pow_succ {a b : Nat} (h : a = b + 1) : Nat.pow 2 a = 2 * Nat.pow 2 b := by
  rw [h]
  exact Nat.mul_comm _ _

theorem pow_pos (a : Nat) : 0 < Nat.pow 2 a := Nat.two_pow_pos a

theorem pow_lt_pow {a b : Nat} (h : a < b) : Nat.pow 2 a < Nat.pow 2 b :=
  Nat.pow_lt_pow_right (by decide) h

theorem pow_le_pow {a b : Nat} (h : a ≤ b) : Nat.pow 2 a ≤ Nat.pow 2 b :=
  Nat.pow_le_pow_right (by decide) h

theorem lt_pow_log2 (n : Nat) : n < 2 * Nat.pow 2 n.log2 := by
  rw [← pow_succ rfl]
  exact Nat.lt_log2_self

theorem two_mul_fractionSize : 2 * fractionSize = Nat.pow 2 53 := rfl

/-! ## Rounding a natural number -/

variable {n : Nat}

/-- The exponent under which a natural number is rounded is that of its first bit. -/
theorem exponentOfRatio_one (hn : n ≠ 0) : exponentOfRatio n 1 = n.log2 + 1022 := by
  have hlow : Nat.pow 2 n.log2 ≤ n := Nat.log2_self_le hn
  have hone : Nat.log2 1 = 0 := by decide
  rw [exponentOfRatio, hone, two_mul_fractionSize]
  simp only [Nat.zero_add, Nat.one_mul, Nat.div_one]
  rw [if_pos, show n.log2 + 1074 - 53 + 1 = n.log2 + 1022 by omega]
  split
  · next h =>
    have hsplit : Nat.pow 2 n.log2 = Nat.pow 2 53 * Nat.pow 2 (n.log2 + 1074 - 53 - 1074) :=
      pow_split (by omega)
    rw [Nat.le_div_iff_mul_le (pow_pos _), ← hsplit]
    exact hlow
  · next h =>
    have hsplit : Nat.pow 2 53 = Nat.pow 2 n.log2 * Nat.pow 2 (1074 - (n.log2 + 1074 - 53)) :=
      pow_split (by omega)
    rw [hsplit]
    exact Nat.mul_le_mul_right _ hlow

/-- A natural number is rounded to 53 bits. The first may be carried into, so that they make up a
    whole step of the exponent more. -/
theorem magnitude_of_ne_zero (hn : n ≠ 0) :
    ∃ q, magnitudeOfRatio n 1 = min ((n.log2 + 1022) * fractionSize + q) infiniteMagnitude ∧
      fractionSize ≤ q ∧ q ≤ 2 * fractionSize ∧
      (52 ≤ n.log2 → q = roundDiv n (Nat.pow 2 (n.log2 - 52))) := by
  have hlow : Nat.pow 2 n.log2 ≤ n := Nat.log2_self_le hn
  have hhigh := lt_pow_log2 n
  rw [magnitudeOfRatio, if_neg hn, exponentOfRatio_one hn]
  refine ⟨_, rfl, ?_⟩
  rw [Nat.one_mul]
  split
  · next h =>
    have hshift : n.log2 + 1022 - 1074 = n.log2 - 52 := by omega
    have hsplit : Nat.pow 2 n.log2 = fractionSize * Nat.pow 2 (n.log2 - 52) :=
      pow_split (by omega)
    rw [hshift]
    have hdiv : fractionSize ≤ n / Nat.pow 2 (n.log2 - 52) := by
      rw [Nat.le_div_iff_mul_le (pow_pos _), ← hsplit]
      exact hlow
    have hdiv' : n / Nat.pow 2 (n.log2 - 52) < 2 * fractionSize := by
      rw [Nat.div_lt_iff_lt_mul (pow_pos _), Nat.mul_assoc, ← hsplit]
      exact hhigh
    exact ⟨Nat.le_trans hdiv div_le_roundDiv, Nat.le_trans roundDiv_le_succ hdiv', fun _ => rfl⟩
  · next h =>
    have hshift : 1074 - (n.log2 + 1022) = 52 - n.log2 := by omega
    have hsplit : fractionSize = Nat.pow 2 n.log2 * Nat.pow 2 (52 - n.log2) :=
      pow_split (by omega)
    rw [hshift, roundDiv_one, hsplit, ← Nat.mul_assoc]
    exact ⟨Nat.mul_le_mul_right _ hlow, Nat.mul_le_mul_right _ (Nat.le_of_lt hhigh),
      fun h' => by omega⟩

/-- A natural number is rounded to a finite number exactly when it is below the overflow. -/
theorem magnitude_lt_iff (n : Nat) : magnitudeOfRatio n 1 < infiniteMagnitude ↔ n < overflow := by
  have htop : topExponent = 1024 := rfl
  have hhalf : halfExponent = 970 := rfl
  have hinf : infiniteMagnitude = 2047 * fractionSize := rfl
  have hsize : 0 < fractionSize := pow_pos 52
  have hlast : Nat.pow 2 topExponent = 2 * Nat.pow 2 (halfExponent + 53) := pow_succ (by omega)
  have hstep : Nat.pow 2 halfExponent < Nat.pow 2 (halfExponent + 53) := pow_lt_pow (by omega)
  rw [overflow]
  by_cases hn : n = 0
  · subst hn
    exact ⟨fun _ => by omega, fun _ => by rw [magnitudeOfRatio, if_pos rfl]; omega⟩
  obtain ⟨q, hq, hlow, hhigh, hround⟩ := magnitude_of_ne_zero hn
  have hmin : ∀ a b : Nat, min a b < b ↔ a < b := fun a b => by omega
  rw [hq, hmin, hinf]
  rcases Nat.lt_trichotomy n.log2 1023 with hlt | heq | hgt
  · have hexp : (n.log2 + 1022) * fractionSize ≤ 2044 * fractionSize :=
      Nat.mul_le_mul_right fractionSize (by omega)
    have htwice : Nat.pow 2 (n.log2 + 1) = 2 * Nat.pow 2 n.log2 := pow_succ rfl
    have hpow : Nat.pow 2 (n.log2 + 1) ≤ Nat.pow 2 (halfExponent + 53) := pow_le_pow (by omega)
    have hn' := lt_pow_log2 n
    exact ⟨fun _ => by omega, fun _ => by omega⟩
  · -- It is the 53 bits that tell: they must not be carried out of.
    have hscale : Nat.pow 2 topExponent = Nat.pow 2 (halfExponent + 1) * (2 * fractionSize) := by
      rw [two_mul_fractionSize]
      exact pow_split (by omega)
    have hunit : Nat.pow 2 (halfExponent + 1) = 2 * Nat.pow 2 halfExponent := pow_succ rfl
    have hround' : q = roundDiv n (Nat.pow 2 (halfExponent + 1)) := by
      rw [hround (by omega), show n.log2 - 52 = halfExponent + 1 by omega]
    have hbits : roundDiv n (Nat.pow 2 (halfExponent + 1)) < 2 * fractionSize ↔ _ :=
      roundDiv_lt_iff (pow_pos (halfExponent + 1)) (Nat.mul_mod_right 2 fractionSize)
    rw [← hround', ← hscale] at hbits
    rw [heq]
    omega
  · have hexp : 2046 * fractionSize ≤ (n.log2 + 1022) * fractionSize :=
      Nat.mul_le_mul_right fractionSize (by omega)
    have hpow : Nat.pow 2 topExponent ≤ Nat.pow 2 n.log2 := pow_le_pow (by omega)
    have hn' : Nat.pow 2 n.log2 ≤ n := Nat.log2_self_le hn
    exact ⟨fun _ => by omega, fun _ => by omega⟩

/-- There is a number nearest to an integer exactly when it is below the overflow in magnitude. -/
theorem exists_ofInt?_iff {i : Int} : (∃ x, ofInt? i = some x) ↔ i.natAbs < overflow := by
  rw [← magnitude_lt_iff, ofInt?]
  have hfinite : (ofRatio (decide (i < 0)) i.natAbs 1).isFinite
      = decide (magnitudeOfRatio i.natAbs 1 < infiniteMagnitude) := rfl
  simp only [hfinite, decide_eq_true_eq]
  split
  · next h => exact ⟨fun _ => h, fun _ => ⟨_, rfl⟩⟩
  · next h => exact ⟨nofun, fun h' => absurd h' h⟩

end GridGauge.Binary64
