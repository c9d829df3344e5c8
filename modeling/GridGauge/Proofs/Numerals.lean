import GridGauge.Json.Reader
import GridGauge.Number.Limit
import GridGauge.Proofs.Nearest

/-!
# Numbers of a JSON text

A number of a JSON text is read as far as its digits, its point and its power
go, so that what follows must not be taken for more of it (`EndsNumber`). Then
an integer is read as it is written (`scalar_ofInt`), if it is within the limit
of digits. What is written with a point or a power is read as the number nearest
to the decimal it is (`unsigned_decimal`), whatever reader of decimals says so;
the shortest decimal of a finite number is thus read as the number, down to the
sign of a zero (`scalar_number`).
-/

namespace GridGauge

open Text

namespace Text

variable {c : CodePoint} {a b t : Text}

theorem forall_mem_head?_cons {p : CodePoint → Prop} (h : p c) : ∀ d ∈ (c :: t).head?, p d := by
  rintro d ⟨⟩
  exact h

/-- Digits are cut off where they end, and there are some. -/
theorem exists_span_digits (ha : areDigits a = true)
    (hb : ∀ d ∈ b.head?, isDecimalDigit d = false) :
    ∃ c u, a = c :: u ∧ (c :: (u ++ b)).span isDecimalDigit = (a, b) := by
  obtain ⟨hne, hall⟩ := areDigits_iff.1 ha
  obtain ⟨c, u, rfl⟩ := List.exists_cons_of_ne_nil hne
  refine ⟨c, u, rfl, ?_⟩
  rw [← List.cons_append, List.span_eq_takeWhile_dropWhile, List.takeWhile_append_of_pos hall,
    List.dropWhile_append_of_pos hall]
  cases b with
  | nil => simp
  | cons d b => simp [hb d rfl]

end Text

/-- What is read as a plain decimal is digits, or digits with a point and more digits behind. -/
theorem Decimal.plain?_cases {t : Text} {d : Decimal} (h : plain? t = some d) :
    ∃ whole fraction : Text, areDigits whole = true ∧
      d = ⟨decimalValue (whole ++ fraction), -fraction.length⟩ ∧
      (t = whole ∧ fraction = [] ∨ t = whole ++ 0x2E :: fraction ∧ areDigits fraction = true) := by
  rw [plain?] at h
  split at h
  · next whole hbreak =>
    split at h
    · next hw =>
      cases h
      exact ⟨whole, [], hw, by simp, .inl ⟨eq_of_breakAt_none hbreak, rfl⟩⟩
    · cases h
  · next whole fraction hbreak =>
    split at h
    · next hboth =>
      obtain ⟨hw, hf⟩ := Bool.and_eq_true_iff.1 hboth
      cases h
      exact ⟨whole, fraction, hw, rfl, .inr ⟨eq_of_breakAt_some hbreak, hf⟩⟩
    · cases h

namespace Json.Reader

variable {whole fraction figures tail start rest : Text} {negative : Bool}

/-- A number in front of the text ends there. -/
def EndsNumber (rest : Text) : Prop :=
  ∀ c ∈ rest.head?, isDecimalDigit c = false ∧ c ≠ 0x2E ∧ c ≠ 0x65 ∧ c ≠ 0x45

/-! ## The parts of a number -/

theorem fraction_digits (hf : areDigits fraction = true)
    (htail : ∀ c ∈ tail.head?, isDecimalDigit c = false) :
    Reader.fraction (0x2E :: (fraction ++ tail)) = (fraction, tail) := by
  obtain ⟨c, u, rfl, hspan⟩ := exists_span_digits hf htail
  simp only [Reader.fraction, List.cons_append, hspan]

theorem fraction_none (htail : tail.head? ≠ some 0x2E) : Reader.fraction tail = ([], tail) := by
  unfold Reader.fraction
  split
  · exact absurd rfl htail
  · rfl

theorem power?_none (hrest : EndsNumber rest) : power? rest = none := by
  cases rest with
  | nil => rfl
  | cons c rest =>
    obtain ⟨-, -, he, hE⟩ := hrest c rfl
    simp only [power?, beq_eq_false_iff_ne.2 he, beq_eq_false_iff_ne.2 hE, Bool.or_self,
      Bool.false_eq_true, if_false]

/-- A power of ten with its sign is read as the reader of decimals does. -/
theorem power?_figures {power : Text} {k : Int} (hk : Decimal.power? (some power) = some k)
    (hrest : EndsNumber rest) : power? (0x65 :: (power ++ rest)) = some (k, rest) := by
  have hends : ∀ c ∈ rest.head?, isDecimalDigit c = false := fun c hc => (hrest c hc).1
  rw [Decimal.power?.eq_def] at hk
  split at hk
  · next hnone => cases hnone
  · next figures hplus =>
    cases hplus
    split at hk
    · next hfigures =>
      cases hk
      obtain ⟨c, u, rfl, hspan⟩ := exists_span_digits hfigures hends
      simp only [power?, List.cons_append, hspan]
      rfl
    · cases hk
  · next figures hminus =>
    cases hminus
    split at hk
    · next hfigures =>
      cases hk
      obtain ⟨c, u, rfl, hspan⟩ := exists_span_digits hfigures hends
      simp only [power?, List.cons_append, hspan]
      rfl
    · cases hk
  · cases hk

/-! ## Numbers with a point or a power -/

/-- A zero in front is the whole integer part, and else all digits are. -/
theorem unsigned_whole (hw : areDigits whole = true) (hzero : whole.head? = some 48 → whole = [48])
    (htail : ∀ c ∈ tail.head?, isDecimalDigit c = false) :
    unsigned negative start (whole ++ tail) = numberFrom negative whole tail := by
  obtain ⟨c, digits, rfl, hspan⟩ := exists_span_digits hw htail
  by_cases hc : c = 48
  · subst hc
    rw [hzero rfl]
    rfl
  · rw [List.cons_append, unsigned, hspan]
    exact fun _ h => hc (List.cons.inj h).1

theorem numberFrom_point (hf : areDigits fraction = true) (hrest : EndsNumber rest) :
    numberFrom negative whole (0x2E :: (fraction ++ rest))
      = .ok (.float (.ofDecimal negative (decimalValue (whole ++ fraction)) (-fraction.length)),
        rest) := by
  obtain ⟨hne, -⟩ := areDigits_iff.1 hf
  simp only [numberFrom, fraction_digits hf fun c hc => (hrest c hc).1, power?_none hrest,
    List.isEmpty_eq_false_iff.2 hne, Bool.not_false, if_true]

theorem numberFrom_power {power : Text} {k : Int} (hk : Decimal.power? (some power) = some k)
    (hfraction : Reader.fraction tail = (fraction, 0x65 :: (power ++ rest)))
    (hrest : EndsNumber rest) :
    numberFrom negative whole tail
      = .ok (.float (.ofDecimal negative (decimalValue (whole ++ fraction)) (k - fraction.length)),
        rest) := by
  simp only [numberFrom, hfraction, power?_figures hk hrest]

/-- What is read as a decimal and is written with a point or a power, without a zero too many in
    front, is read as the number nearest to it. -/
theorem unsigned_decimal {t : Text} {d : Decimal} (hd : Decimal.ofText? t = some d)
    (hfloat : 0x2E ∈ t ∨ 0x65 ∈ t)
    (hzero : ∀ c u, t = 48 :: c :: u → isDecimalDigit c = false) (hrest : EndsNumber rest) :
    unsigned negative start (t ++ rest)
      = .ok (.float (.ofDecimal negative d.digits d.exponent), rest) := by
  -- The integer part of the text is all that is in front of its point or its power.
  have hread {whole tail u : Text} (ht : t = whole ++ u) (hw : areDigits whole = true)
      (htail : ∀ c ∈ tail.head?, isDecimalDigit c = false) :
      unsigned negative start (whole ++ tail) = numberFrom negative whole tail := by
    refine unsigned_whole hw (fun hhead => ?_) htail
    obtain ⟨-, hall⟩ := areDigits_iff.1 hw
    match whole, hhead with
    | [_], rfl => rfl
    | 48 :: c :: whole, rfl =>
      have hdigit := hall c (by simp)
      rw [hzero c (whole ++ u) ht] at hdigit
      cases hdigit
  simp only [Decimal.ofText?] at hd
  split at hd
  · next d' k hplain hpower =>
    cases hd
    obtain ⟨whole, fraction, hw, rfl, hshape⟩ := Decimal.plain?_cases hplain
    cases hbreak : breakAt 0x65 t with
    | mk mantissa after =>
      rw [hbreak] at hplain hpower hshape
      cases after with
      | none =>
        obtain rfl := eq_of_breakAt_none hbreak
        cases hpower
        rcases hshape with ⟨rfl, -⟩ | ⟨rfl, hf⟩
        · exact (hfloat.elim (not_mem_of_areDigits hw rfl) (not_mem_of_areDigits hw rfl)).elim
        · rw [List.append_assoc, List.cons_append, hread rfl hw (forall_mem_head?_cons rfl),
            numberFrom_point hf hrest, Int.add_zero]
      | some power =>
        have ht := eq_of_breakAt_some hbreak
        have hexponent : k - fraction.length = -fraction.length + k := by omega
        rcases hshape with ⟨rfl, rfl⟩ | ⟨rfl, hf⟩
        · rw [ht, List.append_assoc, List.cons_append, hread ht hw (forall_mem_head?_cons rfl),
            numberFrom_power hpower (fraction_none (by simp)) hrest, hexponent]
        · rw [List.append_assoc] at ht
          have htext : t ++ rest = whole ++ 0x2E :: (fraction ++ 0x65 :: (power ++ rest)) := by
            simp only [ht, List.append_assoc, List.cons_append]
          rw [htext, hread ht hw (forall_mem_head?_cons rfl),
            numberFrom_power hpower (fraction_digits hf (forall_mem_head?_cons rfl)) hrest,
            hexponent]
  · cases hd

end Json.Reader

/-! ## Decimals in writing -/

/-- The digits of a number other than zero do not begin with a zero. -/
theorem Text.ofNat_ne_zero_cons {n : Nat} (hn : n ≠ 0) (t : Text) : ofNat n ≠ 48 :: t := by
  intro h
  have hlength : (ofNat n).length = Binary64.figures n := List.length_map _
  have hdigits : ∀ c ∈ t, isDecimalDigit c = true := fun c hc =>
    isDecimalDigit_of_mem_ofNat (n := n) (h ▸ List.mem_cons_of_mem _ hc)
  have hvalue : decimalValue t = n := by
    rw [← decimalValue_ofNat n, h]
    exact (decimalValue_zeros_append 1 t).symm
  have hfirst := Binary64.pow_ten_le_self hn
  have hlast := decimalValue_lt hdigits
  rw [← hlength, h, List.length_cons, Nat.add_sub_cancel] at hfirst
  omega

namespace Layout

variable (layout : Layout) (d : Decimal)

/-- A decimal is written with a point or a power, unlike an integer. -/
theorem point_or_power_mem_decimal : 0x2E ∈ layout.decimal d ∨ 0x65 ∈ layout.decimal d := by
  simp only [decimal]
  split
  · exact .inl (by decide)
  · split
    · refine .inl ?_
      rcases le_or_gt (d.exponent + (ofNat d.digits).length - 1 + 1) 0 with hplaces | hplaces
      · rw [positional_of_nonpos hplaces]
        simp
      · rcases le_or_gt ((ofNat d.digits).length : Int)
          (d.exponent + (ofNat d.digits).length - 1 + 1) with hlength | hlength
        · rw [positional_of_le hplaces hlength]
          simp
        · rw [positional_of_lt hplaces hlength]
          simp
    · refine .inr (List.mem_append_left _ (List.mem_append_right _ ?_))
      split <;> decide

/-- It begins with a digit, which is a zero only in front of the point. -/
theorem decimal_head :
    (∃ t, layout.decimal d = 48 :: 0x2E :: t) ∨
      ∃ c t, layout.decimal d = c :: t ∧ isDecimalDigit c = true ∧ c ≠ 48 := by
  by_cases hzero : d.digits = 0
  · refine .inl ⟨[48], ?_⟩
    simp only [decimal, if_pos hzero]
    rfl
  obtain ⟨c, more, hdigits⟩ := List.exists_cons_of_ne_nil (ofNat_ne_nil d.digits)
  have hc : isDecimalDigit c = true ∧ c ≠ 48 :=
    ⟨isDecimalDigit_of_mem_ofNat (n := d.digits) (hdigits ▸ List.mem_cons_self),
      fun h => ofNat_ne_zero_cons hzero more (h ▸ hdigits)⟩
  simp only [decimal, if_neg hzero, hdigits]
  generalize d.exponent + (c :: more).length - 1 = power
  -- Without a power the first digit is a zero if all places are behind the point.
  split
  · rcases le_or_gt (power + 1) 0 with hplaces | hplaces
    · exact .inl ⟨_, positional_of_nonpos hplaces⟩
    · refine .inr ⟨c, ?_⟩
      rcases le_or_gt ((c :: more).length : Int) (power + 1) with hlength | hlength
      · rw [positional_of_le hplaces hlength]
        exact ⟨_, rfl, hc⟩
      · obtain ⟨k, hk⟩ : ∃ k : Nat, (power + 1).toNat = k + 1 := ⟨power.toNat, by omega⟩
        rw [positional_of_lt hplaces hlength, hk]
        exact ⟨_, rfl, hc⟩
  · refine .inr ⟨c, ?_⟩
    cases more <;> exact ⟨_, rfl, hc⟩

end Layout

/-! ## Numbers as values -/

namespace Json.Reader

variable {rest : Text} {negative : Bool}

/-- No word that is a value is in front of a text with a digit in one of its first two places. -/
theorem find?_words {t : Text} (h : ∃ c ∈ t.take 2, isDecimalDigit c = true) :
    words.find? (fun w => Text.startsWith t w.1) = none := by
  have hwords : ∀ w ∈ words, 2 ≤ w.1.length ∧ ∀ c ∈ w.1.take 2, isDecimalDigit c = false := by
    decide
  refine List.find?_eq_none.2 fun w hw hstart => ?_
  obtain ⟨u, rfl⟩ := List.isPrefixOf_iff_prefix.1 hstart
  obtain ⟨hlength, hall⟩ := hwords w hw
  obtain ⟨c, hc, hdigit⟩ := h
  rw [List.take_append_of_le_length hlength] at hc
  rw [hall c hc] at hdigit
  cases hdigit

/-- A number is read from its first digit on, behind the sign if there is one. -/
theorem scalar_digit {c : CodePoint} (hc : isDecimalDigit c = true) (negative : Bool) (t : Text) :
    let whole : Text := (if negative then [0x2D] else []) ++ c :: t
    scalar whole = unsigned negative whole (c :: t) := by
  have hmark : c ≠ 0x22 ∧ c ≠ 0x2D := by
    constructor <;> rintro rfl <;> cases hc
  intro whole
  cases negative with
  | true =>
    show scalar (0x2D :: c :: t) = unsigned true (0x2D :: c :: t) (c :: t)
    rw [scalar, find?_words ⟨c, by simp, hc⟩]
  | false =>
    show scalar (c :: t) = unsigned false (c :: t) (c :: t)
    rw [scalar]
    · rw [find?_words ⟨c, by simp, hc⟩]
    · exact fun _ h => hmark.1 (List.cons.inj h).1
    · exact fun _ h => hmark.2 (List.cons.inj h).1

theorem ofInt_eq (n : Int) : ofInt n = (if n < 0 then [0x2D] else []) ++ ofNat n.natAbs := by
  cases n with
  | ofNat n => rfl
  | negSucc n =>
    rw [if_pos (Int.negSucc_lt_zero n)]
    rfl

/-- An integer is read as a number with no more behind its digits. -/
theorem numberFrom_ofNat {n : Nat} (hn : n < Nat.pow 10 digitLimit) (hrest : EndsNumber rest) :
    numberFrom negative (ofNat n) rest = .ok (.int (if negative then -n else n), rest) := by
  have hlength : ¬digitLimit < (ofNat n).length :=
    Nat.not_lt.2 (length_ofNat_le (by decide) hn)
  have hfraction : rest.head? ≠ some 0x2E := fun h => (hrest _ h).2.1 rfl
  simp only [numberFrom, fraction_none hfraction, power?_none hrest, List.isEmpty_nil,
    Bool.not_true, Bool.false_eq_true, if_false, if_neg hlength, decimalValue_ofNat]

/-- An integer within the limit of digits is read as it is written. -/
theorem scalar_ofInt {n : Int} (hn : n.natAbs < Nat.pow 10 digitLimit) (hrest : EndsNumber rest) :
    scalar (ofInt n ++ rest) = .ok (.int n, rest) := by
  obtain ⟨c, digits, hdigits⟩ := List.exists_cons_of_ne_nil (ofNat_ne_nil n.natAbs)
  have hc : isDecimalDigit c = true :=
    isDecimalDigit_of_mem_ofNat (n := n.natAbs) (hdigits ▸ List.mem_cons_self)
  have hzero : (ofNat n.natAbs).head? = some 48 → ofNat n.natAbs = [48] := by
    intro hhead
    by_cases h : n.natAbs = 0
    · rw [h]
      rfl
    · rw [hdigits, List.head?_cons, Option.some.injEq] at hhead
      exact absurd (hhead ▸ hdigits) (ofNat_ne_zero_cons h digits)
  have hsign : (if decide (n < 0) then -(n.natAbs : Int) else n.natAbs) = n := by
    simp only [decide_eq_true_eq]
    split <;> omega
  have hread := scalar_digit hc (decide (n < 0)) (digits ++ rest)
  rw [← List.cons_append, ← hdigits] at hread
  simp only [decide_eq_true_eq] at hread
  rw [ofInt_eq, List.append_assoc, hread,
    unsigned_whole (areDigits_ofNat n.natAbs) hzero fun c hc => (hrest c hc).1,
    numberFrom_ofNat hn hrest, hsign]

/-- A finite number is read as it is written, whatever the layout. -/
theorem scalar_number (layout : Layout) {x : Binary64} (hx : x.isFinite = true)
    (hrest : EndsNumber rest) : scalar (layout.number x ++ rest) = .ok (.float x, rest) := by
  have hfinite : x.magnitude < Binary64.infiniteMagnitude := of_decide_eq_true hx
  have hnan : x.isNaN = false := decide_eq_false (Nat.lt_asymm hfinite)
  have hinfinite : x.isInfinite = false := beq_eq_false_iff_ne.2 (Nat.ne_of_lt hfinite)
  obtain ⟨d, hd, hvalue⟩ := layout.value_of_decimal x.shortest
  have hnearest : Binary64.ofDecimal x.negative d.digits d.exponent = x :=
    (Binary64.ofDecimal_congr x.negative hvalue).trans (Binary64.ofDecimal_shortest hx)
  have htext : layout.number x
      = (if x.negative then [0x2D] else []) ++ layout.decimal x.shortest := by
    simp only [Layout.number, hnan, hinfinite, Bool.false_eq_true, if_false]
    cases x.negative <;> rfl
  -- The text begins with a digit, and with a zero only in front of a point.
  obtain ⟨c, t, ht, hc, hzero⟩ : ∃ c t, layout.decimal x.shortest = c :: t ∧
      isDecimalDigit c = true ∧
      ∀ e u, layout.decimal x.shortest = 48 :: e :: u → isDecimalDigit e = false := by
    rcases layout.decimal_head x.shortest with ⟨t, ht⟩ | ⟨c, t, ht, hc, hne⟩
    · refine ⟨48, _, ht, rfl, fun e u h => ?_⟩
      cases ht.symm.trans h
      rfl
    · exact ⟨c, t, ht, hc, fun e u h => absurd (List.cons.inj (ht.symm.trans h)).1 hne⟩
  have hread := scalar_digit hc x.negative (t ++ rest)
  rw [← List.cons_append, ← ht] at hread
  rw [htext, List.append_assoc, hread,
    unsigned_decimal hd (layout.point_or_power_mem_decimal x.shortest) hzero hrest, hnearest]

end Json.Reader

end GridGauge
