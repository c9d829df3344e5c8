import GridGauge.Text
import Mathlib.Data.List.Induction

/-!
# Decimal digits

What the decimal digits of a number are: digits all of them, and read again
the number. The same goes for digits with zeros in front, which are as many as
are asked for if the number has no more.
-/

namespace GridGauge.Text

theorem isDecimalDigit_iff {c : Nat} : isDecimalDigit c = true ↔ 48 ≤ c ∧ c ≤ 57 := by
  simp [isDecimalDigit]

/-- The digits of a number are digits. -/
theorem isDecimalDigit_of_mem_ofNat {n : Nat} {c : CodePoint} (hc : c ∈ ofNat n) :
    isDecimalDigit c = true := by
  obtain ⟨d, hd, rfl⟩ := List.mem_map.1 hc
  have hdigit : d.isDigit = true := Nat.isDigit_of_mem_toDigits (by decide) (by decide) hd
  simp only [Char.isDigit, Bool.and_eq_true, decide_eq_true_eq] at hdigit
  exact isDecimalDigit_iff.2 hdigit

theorem ofNat_ne_nil (n : Nat) : ofNat n ≠ [] :=
  fun h => Nat.toDigits_ne_nil (List.map_eq_nil_iff.1 h)

/-- The digits of a number have its value. -/
@[simp] theorem decimalValue_ofNat (n : Nat) : decimalValue (ofNat n) = n := by
  have h := @Nat.ofDigitChars_ten_toDigits n
  rw [Nat.ofDigitChars_eq_foldl] at h
  rw [decimalValue, ofNat, List.foldl_map]
  exact h

/-! ## The value of digits -/

theorem decimalValue_append (as bs : Text) :
    decimalValue (as ++ bs) = bs.foldl (fun n c => 10 * n + (c - 48)) (decimalValue as) := by
  rw [decimalValue, List.foldl_append]
  rfl

theorem decimalValue_concat (digits : Text) (c : CodePoint) :
    decimalValue (digits ++ [c]) = 10 * decimalValue digits + (c - 48) := decimalValue_append _ _

/-- Digits have less value than a one with as many zeros. -/
theorem decimalValue_lt {digits : Text} (h : ∀ c ∈ digits, isDecimalDigit c = true) :
    decimalValue digits < Nat.pow 10 digits.length := by
  induction digits using List.reverseRecOn with
  | nil => decide
  | append_singleton digits c ih =>
    have hdigits := ih fun d hd => h d (by simp [hd])
    have hc := isDecimalDigit_iff.1 (h c (by simp))
    have hpow : Nat.pow 10 (digits.length + 1) = Nat.pow 10 digits.length * 10 := rfl
    rw [decimalValue_concat, List.length_append, List.length_singleton, hpow]
    omega

/-! ## Zeros on either side -/

/-- Each zero behind digits makes them count ten times as much. -/
theorem decimalValue_append_zeros (digits : Text) (k : Nat) :
    decimalValue (digits ++ repeated k 48) = decimalValue digits * Nat.pow 10 k := by
  induction k with
  | zero =>
    rw [repeated, List.replicate_zero, List.append_nil]
    exact (Nat.mul_one _).symm
  | succ k ih =>
    have hpow : Nat.pow 10 (k + 1) = Nat.pow 10 k * 10 := rfl
    rw [repeated, List.replicate_succ', ← repeated, ← List.append_assoc, decimalValue_concat, ih,
      hpow, ← Nat.mul_assoc (decimalValue digits)]
    omega

theorem ofNatPadded_ne_nil (width n : Nat) : ofNatPadded width n ≠ [] :=
  List.append_ne_nil_of_right_ne_nil _ (ofNat_ne_nil n)

theorem isDecimalDigit_of_mem_zeros {k : Nat} {c : CodePoint} (h : c ∈ repeated k 48) :
    isDecimalDigit c = true := by
  rw [List.eq_of_mem_replicate h]
  rfl

theorem isDecimalDigit_of_mem_ofNatPadded {width n : Nat} {c : CodePoint}
    (hc : c ∈ ofNatPadded width n) : isDecimalDigit c = true := by
  rcases List.mem_append.1 hc with hc | hc
  · exact isDecimalDigit_of_mem_zeros hc
  · exact isDecimalDigit_of_mem_ofNat hc

/-- Zeros in front do not count. -/
theorem decimalValue_zeros_append (k : Nat) (digits : Text) :
    decimalValue (repeated k 48 ++ digits) = decimalValue digits := by
  have hzeros : decimalValue (repeated k 48) = 0 := by
    induction k with
    | zero => rfl
    | succ k ih =>
      rw [repeated, List.replicate_succ', ← repeated, decimalValue_concat, ih]
  rw [decimalValue_append, hzeros]
  rfl

@[simp] theorem decimalValue_ofNatPadded (width n : Nat) :
    decimalValue (ofNatPadded width n) = n := by
  rw [ofNatPadded, decimalValue_zeros_append, decimalValue_ofNat]

theorem length_ofNat_le {width n : Nat} (hwidth : 0 < width) (hn : n < Nat.pow 10 width) :
    (ofNat n).length ≤ width := by
  rw [ofNat, List.length_map]
  exact (Nat.length_toDigits_le_iff (by decide) hwidth).2 hn

/-- A number that has no more digits than are asked for has as many. -/
theorem length_ofNatPadded {width n : Nat} (hwidth : 0 < width) (hn : n < Nat.pow 10 width) :
    (ofNatPadded width n).length = width := by
  have hlength := length_ofNat_le hwidth hn
  rw [ofNatPadded, repeated, List.length_append, List.length_replicate]
  omega

end GridGauge.Text
