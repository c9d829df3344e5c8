import GridGauge.Number.Shortest
import GridGauge.Proofs.Digits
import Mathlib.Algebra.Field.Rat
import Mathlib.Algebra.Order.Field.Power
import Mathlib.Data.List.TakeDrop
import Mathlib.Data.List.TakeWhile
import Mathlib.Tactic.Ring

/-!
# Reading decimals

A decimal is read from digits, a point with more digits behind it, and a power
of ten (`Decimal.ofText?`). Whatever the layout under which it was written,
positional or with an exponent, what is read has the same value
(`Layout.value_of_decimal`): zeros that are filled in before the point make up
for the power of ten that is not written, and the one behind the point is for
looks.
-/

namespace GridGauge

namespace Text

variable {c : CodePoint} {a b t : Text}

theorem breakAt_append (h : c ∉ a) : breakAt c (a ++ c :: b) = (a, some b) := by
  have hbefore : ∀ d ∈ a, (d != c) = true := fun d hd => bne_iff_ne.2 fun heq => h (heq ▸ hd)
  rw [breakAt, List.span_eq_takeWhile_dropWhile, List.takeWhile_append_of_pos hbefore,
    List.dropWhile_append_of_pos hbefore]
  simp

theorem breakAt_of_not_mem (h : c ∉ a) : breakAt c a = (a, none) := by
  have hall : ∀ d ∈ a, (d != c) = true := fun d hd => bne_iff_ne.2 fun heq => h (heq ▸ hd)
  rw [breakAt, List.span_eq_takeWhile_dropWhile, List.takeWhile_eq_self_iff.2 hall,
    List.dropWhile_eq_nil_iff.2 hall]

/-- The parts a text is broken into make it up. -/
theorem eq_of_breakAt_none (h : breakAt c t = (a, none)) : t = a := by
  have hparts : t.takeWhile (· != c) ++ t.dropWhile (· != c) = t := List.takeWhile_append_dropWhile
  rw [breakAt, List.span_eq_takeWhile_dropWhile] at h
  cases hdrop : t.dropWhile (· != c) with
  | nil =>
    rw [hdrop] at h hparts
    cases h
    rw [List.append_nil] at hparts
    exact hparts.symm
  | cons first after =>
    rw [hdrop] at h
    cases h

theorem eq_of_breakAt_some (h : breakAt c t = (a, some b)) : t = a ++ c :: b := by
  have hparts : t.takeWhile (· != c) ++ t.dropWhile (· != c) = t := List.takeWhile_append_dropWhile
  rw [breakAt, List.span_eq_takeWhile_dropWhile] at h
  cases hdrop : t.dropWhile (· != c) with
  | nil =>
    rw [hdrop] at h
    cases h
  | cons first after =>
    have hfirst : (first != c) = false := by
      have hne : t.dropWhile (· != c) ≠ [] := by simp [hdrop]
      simpa [hdrop] using List.head_dropWhile_not (· != c) hne
    rw [bne_eq_false_iff_eq.1 hfirst] at hdrop
    rw [hdrop] at h hparts
    cases h
    exact hparts.symm

/-- Every character of a text is the one it is broken at, or in one of its parts. -/
theorem mem_of_breakAt {d : CodePoint} (h : d ∈ t) :
    d = c ∨ d ∈ (breakAt c t).1 ∨ ∃ after, (breakAt c t).2 = some after ∧ d ∈ after := by
  cases hbreak : breakAt c t with
  | mk before after =>
    cases after with
    | none => exact .inr (.inl (eq_of_breakAt_none hbreak ▸ h))
    | some after =>
      rw [eq_of_breakAt_some hbreak, List.mem_append, List.mem_cons] at h
      rcases h with h | h | h
      · exact .inr (.inl h)
      · exact .inl h
      · exact .inr (.inr ⟨after, rfl, h⟩)

/-! ## Digits, at least one -/

/-- Is the text made up of digits, and not empty? -/
def areDigits (t : Text) : Bool := !t.isEmpty && t.all isDecimalDigit

theorem areDigits_iff : areDigits t = true ↔ t ≠ [] ∧ ∀ c ∈ t, isDecimalDigit c = true := by
  simp [areDigits]

theorem not_mem_of_areDigits (h : areDigits t = true) (hc : isDecimalDigit c = false) : c ∉ t :=
  fun hmem => by
    rw [(areDigits_iff.1 h).2 c hmem] at hc
    cases hc

theorem areDigits_append (ha : areDigits a = true) (hb : ∀ c ∈ b, isDecimalDigit c = true) :
    areDigits (a ++ b) = true := by
  obtain ⟨hne, hall⟩ := areDigits_iff.1 ha
  refine areDigits_iff.2 ⟨List.append_ne_nil_of_left_ne_nil hne b, fun c hc => ?_⟩
  exact (List.mem_append.1 hc).elim (hall c) (hb c)

theorem areDigits_ofNat (n : Nat) : areDigits (ofNat n) = true :=
  areDigits_iff.2 ⟨ofNat_ne_nil n, fun _ => isDecimalDigit_of_mem_ofNat⟩

theorem areDigits_ofNatPadded (width n : Nat) : areDigits (ofNatPadded width n) = true :=
  areDigits_iff.2 ⟨ofNatPadded_ne_nil width n, fun _ => isDecimalDigit_of_mem_ofNatPadded⟩

end Text

namespace Decimal

/-- The number that a decimal is. -/
def value (d : Decimal) : ℚ := d.digits * 10 ^ d.exponent

/-- Zeros among the digits count as a power of ten. -/
theorem value_mul (digits k : Nat) (exponent : Int) :
    (⟨digits * Nat.pow 10 k, exponent⟩ : Decimal).value
      = (⟨digits, exponent + k⟩ : Decimal).value := by
  rw [value, value]
  simp only [Nat.pow_eq]
  rw [zpow_add₀ (by norm_num), zpow_natCast]
  push_cast
  ring

/-! ## A reader -/

/-- The power of ten that is written behind an `e`, if there is one: a sign and digits. -/
def power? : Option Text → Option Int
  | none => some 0
  | some (0x2B :: t) => if Text.areDigits t then some (Text.decimalValue t) else none
  | some (0x2D :: t) => if Text.areDigits t then some (-Text.decimalValue t) else none
  | some _ => none

/-- The decimal that is written without a power of ten: digits, and if there is a point, digits
    behind it. -/
def plain? (t : Text) : Option Decimal :=
  match Text.breakAt 0x2E t with
  | (whole, none) =>
    if Text.areDigits whole then some ⟨Text.decimalValue whole, 0⟩ else none
  | (whole, some fraction) =>
    if Text.areDigits whole && Text.areDigits fraction then
      some ⟨Text.decimalValue (whole ++ fraction), -fraction.length⟩
    else none

/-- The decimal that is written, plain or with an `e` and a power of ten. -/
def ofText? (t : Text) : Option Decimal :=
  let (mantissa, power) := Text.breakAt 0x65 t
  match plain? mantissa, power? power with
  | some d, some k => some ⟨d.digits, d.exponent + k⟩
  | _, _ => none

variable {whole fraction mantissa power : Text} {d : Decimal} {k : Int}

theorem plain?_digits (h : Text.areDigits whole = true) :
    plain? whole = some ⟨Text.decimalValue whole, 0⟩ := by
  rw [plain?, Text.breakAt_of_not_mem (Text.not_mem_of_areDigits h rfl)]
  exact if_pos h

theorem plain?_point (hw : Text.areDigits whole = true) (hf : Text.areDigits fraction = true) :
    plain? (whole ++ 0x2E :: fraction)
      = some ⟨Text.decimalValue (whole ++ fraction), -fraction.length⟩ := by
  rw [plain?, Text.breakAt_append (Text.not_mem_of_areDigits hw rfl)]
  simp only [hw, hf, Bool.and_self, if_true]

theorem no_e_point (hw : Text.areDigits whole = true) (hf : Text.areDigits fraction = true) :
    0x65 ∉ whole ++ 0x2E :: fraction := by
  have hletter : Text.isDecimalDigit 0x65 = false := rfl
  simp [Text.not_mem_of_areDigits hw hletter, Text.not_mem_of_areDigits hf hletter]

theorem ofText?_power (he : 0x65 ∉ mantissa) (hd : plain? mantissa = some d)
    (hk : power? (some power) = some k) :
    ofText? (mantissa ++ 0x65 :: power) = some ⟨d.digits, d.exponent + k⟩ := by
  rw [ofText?, Text.breakAt_append he]
  simp only [hd, hk]

/-- Digits with a point are read as they stand. -/
theorem ofText?_point (hw : Text.areDigits whole = true) (hf : Text.areDigits fraction = true) :
    ofText? (whole ++ 0x2E :: fraction)
      = some ⟨Text.decimalValue (whole ++ fraction), -fraction.length⟩ := by
  rw [ofText?, Text.breakAt_of_not_mem (no_e_point hw hf)]
  simp only [plain?_point hw hf, power?, Int.add_zero]

/-- The characters that a decimal is written with. -/
def isCharacter (c : CodePoint) : Bool :=
  Text.isDecimalDigit c || c == 0x2E || c == 0x65 || c == 0x2B || c == 0x2D

theorem isCharacter_of_areDigits {t : Text} (h : Text.areDigits t = true) :
    ∀ c ∈ t, isCharacter c = true := fun c hc => by
  rw [isCharacter, (Text.areDigits_iff.1 h).2 c hc]
  rfl

theorem isCharacter_of_plain? {t : Text} (h : plain? t = some d) :
    ∀ c ∈ t, isCharacter c = true := by
  intro c hc
  have hparts := Text.mem_of_breakAt (c := 0x2E) hc
  rw [plain?] at h
  split at h
  · next hbreak =>
    rw [hbreak] at hparts
    split at h
    · next hw =>
      rcases hparts with rfl | hmem | ⟨_, hnone, _⟩
      · rfl
      · exact isCharacter_of_areDigits hw c hmem
      · cases hnone
    · cases h
  · next hbreak =>
    rw [hbreak] at hparts
    split at h
    · next hboth =>
      obtain ⟨hw, hf⟩ := Bool.and_eq_true_iff.1 hboth
      rcases hparts with rfl | hmem | ⟨_, hsome, hmem⟩
      · rfl
      · exact isCharacter_of_areDigits hw c hmem
      · cases hsome
        exact isCharacter_of_areDigits hf c hmem
    · cases h

theorem isCharacter_of_power? {t : Text} (h : power? (some t) = some k) :
    ∀ c ∈ t, isCharacter c = true := by
  rw [power?.eq_def] at h
  split at h
  · next hnone => cases hnone
  · next hplus =>
    cases hplus
    split at h
    · next hdigits => exact List.forall_mem_cons.2 ⟨rfl, isCharacter_of_areDigits hdigits⟩
    · cases h
  · next hminus =>
    cases hminus
    split at h
    · next hdigits => exact List.forall_mem_cons.2 ⟨rfl, isCharacter_of_areDigits hdigits⟩
    · cases h
  · cases h

/-- What is read as a decimal has no other characters. -/
theorem isCharacter_of_ofText? {t : Text} (h : ofText? t = some d) :
    ∀ c ∈ t, isCharacter c = true := by
  intro c hc
  have hparts := Text.mem_of_breakAt (c := 0x65) hc
  simp only [ofText?] at h
  split at h
  · next hplain hpower =>
    rcases hparts with rfl | hmem | ⟨after, hsome, hmem⟩
    · rfl
    · exact isCharacter_of_plain? hplain c hmem
    · rw [hsome] at hpower
      exact isCharacter_of_power? hpower c hmem
  · cases h

end Decimal

namespace Layout

variable {digits : Text}

variable {places : Int}

/-! ## Positional notation -/

theorem positional_of_nonpos (h : places ≤ 0) :
    positional digits places = [48] ++ 0x2E :: (Text.repeated (-places).toNat 48 ++ digits) := by
  rw [positional, if_pos h]
  rfl

theorem positional_of_le (h : 0 < places) (h' : (digits.length : Int) ≤ places) :
    positional digits places
      = digits ++ Text.repeated (places.toNat - digits.length) 48 ++ 0x2E :: [48] := by
  rw [positional, if_neg (by omega), if_pos h']
  rfl

theorem positional_of_lt (h : 0 < places) (h' : places < digits.length) :
    positional digits places
      = digits.take places.toNat ++ 0x2E :: digits.drop places.toNat := by
  rw [positional, if_neg (by omega), if_neg (by omega)]
  exact List.append_assoc _ _ _

/-- Digits in positional notation are read with the value of the digits and the point. -/
theorem value_of_positional (h : Text.areDigits digits = true) (places : Int) :
    ∃ d, Decimal.ofText? (positional digits places) = some d ∧
      d.value = (⟨Text.decimalValue digits, places - digits.length⟩ : Decimal).value := by
  obtain ⟨hne, hall⟩ := Text.areDigits_iff.1 h
  have hzero : Text.areDigits [48] = true := rfl
  rcases le_or_gt places 0 with hplaces | hplaces
  · let zeros := Text.repeated (-places).toNat 48
    have hfraction : Text.areDigits (zeros ++ digits) = true :=
      Text.areDigits_iff.2 ⟨List.append_ne_nil_of_right_ne_nil _ hne, fun c hc =>
        (List.mem_append.1 hc).elim Text.isDecimalDigit_of_mem_zeros (hall c)⟩
    have hvalue : Text.decimalValue ([48] ++ (zeros ++ digits)) = Text.decimalValue digits :=
      Text.decimalValue_zeros_append ((-places).toNat + 1) digits
    have hlength : -((zeros ++ digits).length : Int) = places - digits.length := by
      simp only [zeros, List.length_append, Text.repeated, List.length_replicate]
      omega
    rw [positional_of_nonpos hplaces, Decimal.ofText?_point hzero hfraction, hvalue, hlength]
    exact ⟨_, rfl, rfl⟩
  rcases le_or_gt (digits.length : Int) places with hlength | hlength
  · -- The zero behind the point is one more digit, and one more place.
    let zeros := Text.repeated (places.toNat - digits.length) 48
    have hwhole : Text.areDigits (digits ++ zeros) = true :=
      Text.areDigits_append h fun c => Text.isDecimalDigit_of_mem_zeros
    have hvalue : Text.decimalValue (digits ++ zeros ++ [48])
        = Text.decimalValue digits * Nat.pow 10 (places.toNat - digits.length + 1) := by
      rw [← Text.decimalValue_append_zeros, List.append_assoc]
      simp only [zeros, Text.repeated, List.replicate_succ']
    rw [positional_of_le hplaces hlength, Decimal.ofText?_point hwhole hzero, hvalue]
    refine ⟨_, rfl, ?_⟩
    rw [Decimal.value_mul]
    congr 2
    simp only [List.length_singleton]
    omega
  · have hwhole : Text.areDigits (digits.take places.toNat) = true := by
      refine Text.areDigits_iff.2 ⟨?_, fun c hc => hall c (List.mem_of_mem_take hc)⟩
      rw [ne_eq, List.take_eq_nil_iff]
      exact fun hor => hor.elim (by omega) hne
    have hfraction : Text.areDigits (digits.drop places.toNat) = true := by
      refine Text.areDigits_iff.2 ⟨?_, fun c hc => hall c (List.mem_of_mem_drop hc)⟩
      rw [ne_eq, List.drop_eq_nil_iff]
      omega
    have hdrop : -((digits.drop places.toNat).length : Int) = places - digits.length := by
      rw [List.length_drop]
      omega
    rw [positional_of_lt hplaces hlength, Decimal.ofText?_point hwhole hfraction,
      List.take_append_drop, hdrop]
    exact ⟨_, rfl, rfl⟩

/-! ## Exponents -/

/-- Digits with an exponent are read as they are. -/
theorem ofText?_scientific (layout : Layout) (h : Text.areDigits digits = true) (power : Int) :
    Decimal.ofText? (layout.scientific digits power)
      = some ⟨Text.decimalValue digits, power - (digits.length - 1)⟩ := by
  let figures := Text.ofNatPadded layout.figures power.natAbs
  have hfigures : Text.areDigits figures = true := Text.areDigits_ofNatPadded _ _
  -- With its sign the power of ten is read the same whichever it is.
  obtain ⟨sign, hsign, hpower⟩ : ∃ sign : CodePoint,
      ((if power < 0 then "e-" else "e+" : Text) ++ figures) = 0x65 :: sign :: figures ∧
        Decimal.power? (some (sign :: figures)) = some power := by
    split
    · refine ⟨0x2D, rfl, ?_⟩
      rw [Decimal.power?, if_pos hfigures, Text.decimalValue_ofNatPadded]
      congr 1
      omega
    · refine ⟨0x2B, rfl, ?_⟩
      rw [Decimal.power?, if_pos hfigures, Text.decimalValue_ofNatPadded]
      congr 1
      omega
  obtain ⟨hne, hall⟩ := Text.areDigits_iff.1 h
  simp only [scientific]
  rw [List.append_assoc, hsign]
  match digits, hne with
  | [first], _ =>
    rw [Decimal.ofText?_power (Text.not_mem_of_areDigits h rfl) (Decimal.plain?_digits h) hpower]
    simp
  | first :: second :: rest, _ =>
    have hwhole : Text.areDigits [first] = true :=
      Text.areDigits_iff.2 ⟨nofun, fun c hc => hall c (List.mem_append_left (second :: rest) hc)⟩
    have hfraction : Text.areDigits (second :: rest) = true :=
      Text.areDigits_iff.2 ⟨nofun, fun c hc => hall c (List.mem_cons_of_mem first hc)⟩
    have hread := Decimal.ofText?_power (Decimal.no_e_point hwhole hfraction)
      (Decimal.plain?_point hwhole hfraction) hpower
    refine hread.trans ?_
    simp only [List.singleton_append, List.length_cons]
    congr 2
    omega

/-- A decimal is read again with its value, whatever the layout under which it was written. -/
theorem value_of_decimal (layout : Layout) (d : Decimal) :
    ∃ d', Decimal.ofText? (layout.decimal d) = some d' ∧ d'.value = d.value := by
  have hdigits : Text.areDigits (Text.ofNat d.digits) = true := Text.areDigits_ofNat _
  simp only [decimal]
  split
  · next hzero =>
    refine ⟨⟨0, -1⟩, by decide, ?_⟩
    simp [Decimal.value, hzero]
  · split
    · obtain ⟨d', hd', hvalue⟩ := value_of_positional hdigits
        (d.exponent + (Text.ofNat d.digits).length - 1 + 1)
      refine ⟨d', hd', hvalue.trans ?_⟩
      rw [Text.decimalValue_ofNat]
      congr 2
      omega
    · refine ⟨_, ofText?_scientific layout hdigits _, ?_⟩
      rw [Text.decimalValue_ofNat]
      congr 2
      omega

end Layout

end GridGauge
