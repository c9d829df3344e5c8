import GridGauge.Json.Reader
import GridGauge.Json.Writer
import GridGauge.Proofs.Encodings

/-!
# Strings are read as they are written

A character of a JSON string is written as it stands, as an escape of its own
or in units of four digits, two of them past `0xFFFF`. Whichever it is, the
reader comes to the same character and to the text behind it
(`stringFrom_writeCodePoint`), so a string is read again as far as to its mark
(`string_writeString`).

Halves of surrogate pairs are another matter: two of them in a row are read as
one character. So this goes for texts of scalar values only, in which the first
unit of a pair is always followed by its own second.
-/

namespace GridGauge

/-! ## Units in hexadecimal -/

namespace Text

theorem hexValue?_digit {d : Nat} (h : d < 16) : hexValue? (digit d) = some d := by
  have hall : ∀ d < 16, hexValue? (digit d) = some d := by decide
  exact hall d h

variable {fuel n : Nat} {acc : Text}

theorem digitsFrom_of_lt (h : n < 16) : digitsFrom 16 (fuel + 1) n acc = digit n :: acc := by
  rw [digitsFrom, if_pos h]

theorem digitsFrom_of_le (h : 16 ≤ n) :
    digitsFrom 16 (fuel + 1) n acc = digitsFrom 16 fuel (n / 16) (digit (n % 16) :: acc) := by
  rw [digitsFrom, if_neg (Nat.not_lt.2 h)]

/-- A unit has four digits, with zeros in front if it is small. -/
theorem ofHex_four {u : Nat} (h : u < 0x10000) :
    ofHex 4 u = [digit (u / 4096), digit (u / 256 % 16), digit (u / 16 % 16), digit (u % 16)] := by
  have hzero : digit 0 = 48 := rfl
  rw [ofHex]
  -- There are one, two, three or four digits, and zeros in place of those that are missing.
  rcases Nat.lt_or_ge u 16 with h₁ | h₁
  · rw [digitsFrom_of_lt h₁, show u / 4096 = 0 by omega, show u / 256 % 16 = 0 by omega,
      show u / 16 % 16 = 0 by omega, show u % 16 = u by omega]
    rfl
  obtain ⟨k, rfl⟩ : ∃ k, u = k + 3 := ⟨u - 3, by omega⟩
  rw [digitsFrom_of_le h₁]
  rcases Nat.lt_or_ge (k + 3) 256 with h₂ | h₂
  · rw [digitsFrom_of_lt (by omega), show (k + 3) / 4096 = 0 by omega,
      show (k + 3) / 256 % 16 = 0 by omega, show (k + 3) / 16 % 16 = (k + 3) / 16 by omega]
    rfl
  rw [digitsFrom_of_le (by omega), Nat.div_div_eq_div_mul]
  rcases Nat.lt_or_ge (k + 3) 4096 with h₃ | h₃
  · rw [digitsFrom_of_lt (by omega), show (k + 3) / 4096 = 0 by omega,
      show (k + 3) / 256 % 16 = (k + 3) / (16 * 16) by omega]
    rfl
  · rw [digitsFrom_of_le (by omega), digitsFrom_of_lt (by omega), Nat.div_div_eq_div_mul]
    rfl

end Text

namespace Json

open Text

theorem unit?_digits {u : Nat} (h : u < 0x10000) :
    Reader.unit? (digit (u / 4096)) (digit (u / 256 % 16)) (digit (u / 16 % 16)) (digit (u % 16))
      = some u := by
  rw [Reader.unit?, hexValue?_digit (by omega), hexValue?_digit (by omega),
    hexValue?_digit (by omega), hexValue?_digit (by omega)]
  refine congrArg some ?_
  omega

namespace Reader

variable {opening before rest : Text} {afterEscape : Bool}

/-! ## The steps of the reader -/

theorem stringFrom_mark :
    stringFrom opening afterEscape before (0x22 :: rest) = .ok (before.reverse, rest) := by
  rw [stringFrom]

theorem stringFrom_plain {c : Nat} (hcontrol : 0x20 ≤ c) (hmark : c ≠ 0x22) (hslash : c ≠ 0x5C) :
    stringFrom opening afterEscape before (c :: rest)
      = stringFrom opening false (c :: before) rest := by
  rw [stringFrom]
  · rw [if_neg (Nat.not_lt.2 hcontrol)]
  all_goals simp_all

theorem stringFrom_escape {e c : CodePoint} (h : escaped? e = some c) :
    stringFrom opening afterEscape before (0x5C :: e :: rest)
      = stringFrom opening false (c :: before) rest := by
  rw [stringFrom]
  · rw [h]
  · rintro rfl
    cases h

/-- A unit is read as an escape when some text is behind it. -/
theorem stringFrom_unitEscape {u : Nat} (hu : u < 0x10000) (hrest : rest ≠ []) :
    stringFrom opening afterEscape before (unitEscape u ++ rest)
      = stringFrom opening true (joinUnit afterEscape u before) rest := by
  obtain ⟨next, rest, rfl⟩ := List.exists_cons_of_ne_nil hrest
  rw [unitEscape, ofHex_four hu]
  show stringFrom opening afterEscape before (0x5C :: 0x75 :: digit (u / 4096) ::
    digit (u / 256 % 16) :: digit (u / 16 % 16) :: digit (u % 16) :: next :: rest) = _
  rw [stringFrom, unit?_digits hu]

/-! ## Units and pairs -/

/-- A unit that is no second one stands for itself. -/
theorem joinUnit_of_not_low {u : Nat} (h : Utf16.isLow u = false) :
    joinUnit afterEscape u before = u :: before := by
  cases before with
  | nil => rfl
  | cons high before => rw [joinUnit, h, Bool.and_false, if_neg Bool.false_ne_true]

theorem joinUnit_pair {high low : Nat} (hhigh : Utf16.isHigh high = true)
    (hlow : Utf16.isLow low = true) :
    joinUnit true low (high :: before) = Utf16.pair high low :: before := by
  rw [joinUnit, hhigh, hlow]
  rfl

/-- A character past `0xFFFF` is that of the pair it is written as. -/
theorem joinUnit_split {c : Nat} (hlow : 0x10000 ≤ c) (hhigh : c < 0x110000) :
    joinUnit true (0xDC00 + (c - 0x10000) % 1024)
        (joinUnit afterEscape (0xD800 + (c - 0x10000) / 1024) before)
      = c :: before := by
  have hfirst : Utf16.isLow (0xD800 + (c - 0x10000) / 1024) = false := by
    simp only [Utf16.isLow, Bool.and_eq_false_iff, decide_eq_false_iff_not]
    omega
  obtain ⟨hisHigh, hisLow, hpair⟩ := Utf16.pair_split hlow hhigh
  rw [joinUnit_of_not_low hfirst, joinUnit_pair hisHigh hisLow, hpair]

/-! ## Strings -/

/-- A scalar value is read as it is written, and what follows after it. -/
theorem stringFrom_writeCodePoint (ascii : Bool) {c : Nat} (hc : c.isValidChar)
    (hrest : rest ≠ []) (opening : Text) (afterEscape : Bool) (before : Text) :
    ∃ afterEscape', stringFrom opening afterEscape before (writeCodePoint ascii c ++ rest)
      = stringFrom opening afterEscape' (c :: before) rest := by
  rw [writeCodePoint.eq_def]
  split
  -- Seven characters have an escape of their own.
  iterate 7 exact ⟨false, stringFrom_escape rfl⟩
  next hmark hslash _ _ _ _ _ =>
  have hscalar : c < 0xD800 ∨ 0xDFFF < c ∧ c < 0x110000 := hc
  have hunit (hsmall : c < 0x10000) :
      stringFrom opening afterEscape before (unitEscape c ++ rest)
        = stringFrom opening true (c :: before) rest := by
    have hlow : Utf16.isLow c = false := by
      simp only [Utf16.isLow, Bool.and_eq_false_iff, decide_eq_false_iff_not]
      omega
    rw [stringFrom_unitEscape hsmall hrest, joinUnit_of_not_low hlow]
  split
  · next hcontrol => exact ⟨true, hunit (Nat.lt_trans hcontrol (by decide))⟩
  · next hcontrol =>
    split
    · exact ⟨false, stringFrom_plain (Nat.not_lt.1 hcontrol) hmark hslash⟩
    · split
      · next hsmall => exact ⟨true, hunit hsmall⟩
      · next hlarge =>
        have hlow : 0x10000 ≤ (c : Nat) := Nat.not_lt.1 hlarge
        have hhigh : (c : Nat) < 0x110000 := by omega
        have hsecond (u : Nat) : unitEscape u ++ rest ≠ [] :=
          List.append_ne_nil_of_right_ne_nil _ hrest
        refine ⟨true, ?_⟩
        rw [List.append_assoc, stringFrom_unitEscape (by omega) (hsecond _),
          stringFrom_unitEscape (by omega) hrest, joinUnit_split hlow hhigh]

/-- A text of scalar values is read as far as to its mark. -/
theorem stringFrom_write (ascii : Bool) {t : Text} (ht : t.IsScalar) (afterEscape : Bool)
    (before : Text) :
    stringFrom opening afterEscape before (t.flatMap (writeCodePoint ascii) ++ 0x22 :: rest)
      = .ok (before.reverse ++ t, rest) := by
  induction t generalizing afterEscape before with
  | nil => rw [List.flatMap_nil, List.nil_append, stringFrom_mark, List.append_nil]
  | cons c t ih =>
    obtain ⟨hc, ht⟩ := isScalar_cons.1 ht
    have hne : t.flatMap (writeCodePoint ascii) ++ 0x22 :: rest ≠ [] :=
      List.append_ne_nil_of_right_ne_nil _ (List.cons_ne_nil 0x22 rest)
    obtain ⟨afterEscape', hread⟩ :=
      stringFrom_writeCodePoint ascii hc hne opening afterEscape before
    rw [List.flatMap_cons, List.append_assoc, hread, ih ht, List.reverse_cons, List.append_assoc]
    rfl

/-- A string is read as it is written, behind its first mark. -/
theorem string_writeString (ascii : Bool) {t : Text} (ht : t.IsScalar) (rest : Text) :
    ∃ behind, writeString ascii t ++ rest = 0x22 :: behind ∧ string behind = .ok (t, rest) := by
  refine ⟨t.flatMap (writeCodePoint ascii) ++ 0x22 :: rest, ?_, ?_⟩
  · rw [writeString, List.append_assoc, List.append_assoc]
    rfl
  · exact stringFrom_write ascii ht false []

end Reader

end Json

end GridGauge
