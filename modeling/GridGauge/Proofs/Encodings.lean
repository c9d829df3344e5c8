import GridGauge.Proofs.Messages

/-!
# One text in many encodings

A text of scalar values is read again from its bytes under every scheme, with
nothing left over (`Encoding.decode_encode`). Which scheme it is can be told
from the bytes as long as the text begins with a character of ASCII and
neither this nor the next one is NUL: then the places of zeros among the first
four bytes are those of the scheme, and no text without a mark begins like one
with a mark (`Encoding.detect_encode`).

So a document comes out the same from all of its encodings as from the text
itself, and so does what is wrong with it, whose place is counted in
characters of the text (`Hub.decoded_alike_in_every_encoding`).
-/

namespace GridGauge

/-- The byte of a number that is small enough is that number. -/
theorem toNat_byte {n : Nat} (h : n < 256) : (UInt8.ofNat n).toNat = n :=
  UInt8.toNat_ofNat_of_lt h

theorem lt_of_isValidChar {c : Nat} (h : c.isValidChar) : c < 0x110000 := by
  rcases h with h | h <;> omega

/-! ## UTF-8 -/

namespace Utf8

theorem isTail_iff {b : UInt8} : isTail b = true ↔ 0x80 ≤ b.toNat ∧ b.toNat < 0xC0 := by
  simp [isTail, UInt8.le_iff_toNat_le, UInt8.lt_iff_toNat_lt]

/-- Besides continuing a code point, the second byte must not make an overlong form, a surrogate or
    what is past the last code point. -/
theorem mayFollow_iff {lead b : UInt8} :
    mayFollow lead b = true ↔ isTail b = true ∧ (lead.toNat = 0xE0 → 0xA0 ≤ b.toNat) ∧
      (lead.toNat = 0xED → b.toNat < 0xA0) ∧ (lead.toNat = 0xF0 → 0x90 ≤ b.toNat) ∧
      (lead.toNat = 0xF4 → b.toNat < 0x90) := by
  have hlead (n : UInt8) : lead = n ↔ lead.toNat = n.toNat := UInt8.toNat_inj.symm
  rw [mayFollow, Bool.and_eq_true, and_congr_right_iff]
  intro _
  simp only [hlead, show UInt8.toNat 0xE0 = 0xE0 from rfl, show UInt8.toNat 0xED = 0xED from rfl,
    show UInt8.toNat 0xF0 = 0xF0 from rfl, show UInt8.toNat 0xF4 = 0xF4 from rfl]
  repeat' split
  all_goals
    simp only [decide_eq_true_eq, true_iff, UInt8.le_iff_toNat_le, UInt8.lt_iff_toNat_lt,
      show UInt8.toNat 0xA0 = 0xA0 from rfl, show UInt8.toNat 0x90 = 0x90 from rfl]
    omega

/-- The bytes are a sequence of UTF-8 for the code point, by the first byte of one to four. -/
inductive IsSequence (c : CodePoint) : Bytes → Prop
  | one {a : UInt8} : a.toNat < 0x80 → a.toNat = c → IsSequence c [a]
  | two {a b : UInt8} : 0xC2 ≤ a.toNat → a.toNat < 0xE0 → isTail b = true →
      (a.toNat - 0xC0) * 64 + tailBits b = c → IsSequence c [a, b]
  | three {a b d : UInt8} : 0xE0 ≤ a.toNat → a.toNat < 0xF0 → mayFollow a b = true →
      isTail d = true → (a.toNat - 0xE0) * 4096 + tailBits b * 64 + tailBits d = c →
      IsSequence c [a, b, d]
  | four {a b d e : UInt8} : 0xF0 ≤ a.toNat → a.toNat < 0xF5 → mayFollow a b = true →
      isTail d = true → isTail e = true →
      (a.toNat - 0xF0) * 262144 + tailBits b * 4096 + tailBits d * 64 + tailBits e = c →
      IsSequence c [a, b, d, e]

/-- The bytes of a scalar value are a sequence of UTF-8 for it. -/
theorem isSequence_encodeOne {c : Nat} (h : c.isValidChar) : IsSequence c (encodeOne c) := by
  have hlt : c < 0x110000 ∧ ¬(0xD800 ≤ c ∧ c < 0xE000) := by
    rcases h with h | h <;> omega
  rw [encodeOne]
  rcases Nat.lt_or_ge c 0x80 with h₁ | h₁
  · rw [if_pos h₁]
    exact .one (by rw [toNat_byte (by omega)]; exact h₁) (toNat_byte (by omega))
  rw [if_neg (Nat.not_lt.2 h₁)]
  have hlast : (UInt8.ofNat (0x80 + c % 64)).toNat = 0x80 + c % 64 := toNat_byte (by omega)
  generalize UInt8.ofNat (0x80 + c % 64) = last at hlast ⊢
  rcases Nat.lt_or_ge c 0x800 with h₂ | h₂
  · rw [if_pos h₂]
    have hfirst : (UInt8.ofNat (0xC0 + c / 64)).toNat = 0xC0 + c / 64 := toNat_byte (by omega)
    generalize UInt8.ofNat (0xC0 + c / 64) = first at hfirst ⊢
    exact .two (by omega) (by omega) (isTail_iff.2 (by omega)) (by unfold tailBits; omega)
  rw [if_neg (Nat.not_lt.2 h₂)]
  have hmiddle : (UInt8.ofNat (0x80 + c / 64 % 64)).toNat = 0x80 + c / 64 % 64 := toNat_byte (by omega)
  generalize UInt8.ofNat (0x80 + c / 64 % 64) = middle at hmiddle ⊢
  rcases Nat.lt_or_ge c 0x10000 with h₃ | h₃
  · rw [if_pos h₃]
    have hfirst : (UInt8.ofNat (0xE0 + c / 4096)).toNat = 0xE0 + c / 4096 := toNat_byte (by omega)
    generalize UInt8.ofNat (0xE0 + c / 4096) = first at hfirst ⊢
    exact .three (by omega) (by omega) (mayFollow_iff.2 ⟨isTail_iff.2 (by omega), by omega⟩)
      (isTail_iff.2 (by omega)) (by unfold tailBits; omega)
  · rw [if_neg (Nat.not_lt.2 h₃)]
    have hfirst : (UInt8.ofNat (0xF0 + c / 262144)).toNat = 0xF0 + c / 262144 := toNat_byte (by omega)
    generalize UInt8.ofNat (0xF0 + c / 262144) = first at hfirst ⊢
    have hsecond : (UInt8.ofNat (0x80 + c / 4096 % 64)).toNat = 0x80 + c / 4096 % 64 :=
      toNat_byte (by omega)
    generalize UInt8.ofNat (0x80 + c / 4096 % 64) = second at hsecond ⊢
    exact .four (by omega) (by omega) (mayFollow_iff.2 ⟨isTail_iff.2 (by omega), by omega⟩)
      (isTail_iff.2 (by omega)) (isTail_iff.2 (by omega))
      (by unfold tailBits; omega)

variable {surrogates : Bool} {a : UInt8} {bytes : Bytes} {c : CodePoint}

/-- How many bytes a sequence has is told by its first. -/
theorem head_eq_one (h : a.toNat < 0x80) : head surrogates a bytes = .point a.toNat 1 bytes := by
  rw [head, if_pos (UInt8.lt_iff_toNat_lt.2 h)]

theorem not_lt_of_toNat_le {n : UInt8} (h : n.toNat ≤ a.toNat) : ¬a < n :=
  UInt8.not_lt.2 (UInt8.le_iff_toNat_le.2 h)

theorem head_eq_two (hlow : 0xC2 ≤ a.toNat) (hhigh : a.toNat < 0xE0) :
    head surrogates a bytes = two a bytes := by
  rw [head, if_neg (not_lt_of_toNat_le (Nat.le_trans (by decide) hlow)),
    if_neg (not_lt_of_toNat_le (n := 0xC2) hlow), if_pos (UInt8.lt_iff_toNat_lt.2 hhigh)]

theorem head_eq_three (hlow : 0xE0 ≤ a.toNat) (hhigh : a.toNat < 0xF0) :
    head surrogates a bytes = three surrogates a bytes := by
  rw [head, if_neg (not_lt_of_toNat_le (Nat.le_trans (by decide) hlow)),
    if_neg (not_lt_of_toNat_le (Nat.le_trans (by decide) hlow)),
    if_neg (not_lt_of_toNat_le (n := 0xE0) hlow), if_pos (UInt8.lt_iff_toNat_lt.2 hhigh)]

theorem head_eq_four (hlow : 0xF0 ≤ a.toNat) (hhigh : a.toNat < 0xF5) :
    head surrogates a bytes = four a bytes := by
  rw [head, if_neg (not_lt_of_toNat_le (Nat.le_trans (by decide) hlow)),
    if_neg (not_lt_of_toNat_le (Nat.le_trans (by decide) hlow)),
    if_neg (not_lt_of_toNat_le (Nat.le_trans (by decide) hlow)),
    if_neg (not_lt_of_toNat_le (n := 0xF0) hlow), if_pos (UInt8.lt_iff_toNat_lt.2 hhigh)]

/-- A sequence is read as its code point, and what is behind it is left. -/
theorem IsSequence.head (h : IsSequence c (a :: bytes)) (rest : Bytes) :
    head surrogates a (bytes ++ rest) = .point c (bytes.length + 1) rest := by
  cases h with
  | one hlow hc => rw [head_eq_one hlow, hc]; rfl
  | two hlow hhigh hb hc =>
    rw [head_eq_two hlow hhigh]
    simp only [List.cons_append, List.nil_append, Utf8.two, hb, if_true, hc]
    rfl
  | three hlow hhigh hb hd hc =>
    rw [head_eq_three hlow hhigh]
    simp only [List.cons_append, List.nil_append, Utf8.three, hb, hd, if_true, hc]
    rfl
  | four hlow hhigh hb hd he hc =>
    rw [head_eq_four hlow hhigh]
    simp only [List.cons_append, List.nil_append, Utf8.four, hb, hd, he, Bool.not_true,
      Bool.false_eq_true, if_false, hc]
    rfl

/-- What a list begins with, if it does not end there, is nothing or begins like the list. -/
theorem eq_nil_or_exists_of_append {x : UInt8} {front back more : Bytes}
    (h : front ++ back = x :: more) :
    front = [] ∨ ∃ front', front = x :: front' ∧ front' ++ back = more := by
  cases front with
  | nil => exact .inl rfl
  | cons y front =>
    obtain ⟨rfl, hmore⟩ := List.cons.inj h
    exact .inr ⟨front, rfl, hmore⟩

theorem not_append_eq_nil {front back : Bytes} (hback : back ≠ []) : front ++ back ≠ [] :=
  List.append_ne_nil_of_right_ne_nil front hback

/-- Of a sequence that breaks off nothing is wrong but that there is no more of it. -/
theorem IsSequence.head_cut {front back : Bytes} (h : IsSequence c (a :: (front ++ back)))
    (hback : back ≠ []) : Utf8.head surrogates a front = .fault (a :: front) .unexpectedEnd := by
  generalize hbytes : front ++ back = bytes at h
  cases h with
  | one => exact absurd hbytes (not_append_eq_nil hback)
  | two hlow hhigh hb hc =>
    rw [head_eq_two hlow hhigh]
    obtain rfl | ⟨front, rfl, hnil⟩ := eq_nil_or_exists_of_append hbytes
    · rfl
    · exact absurd hnil (not_append_eq_nil hback)
  | three hlow hhigh hb hd hc =>
    rw [head_eq_three hlow hhigh]
    obtain rfl | ⟨front, rfl, hmore⟩ := eq_nil_or_exists_of_append hbytes
    · rfl
    obtain rfl | ⟨front, rfl, hnil⟩ := eq_nil_or_exists_of_append hmore
    · rw [Utf8.three, if_pos hb]
    · exact absurd hnil (not_append_eq_nil hback)
  | four hlow hhigh hb hd he hc =>
    rw [head_eq_four hlow hhigh]
    obtain rfl | ⟨front, rfl, hmore⟩ := eq_nil_or_exists_of_append hbytes
    · rfl
    obtain rfl | ⟨front, rfl, hlast⟩ := eq_nil_or_exists_of_append hmore
    · simp only [Utf8.four, hb, Bool.not_true, Bool.false_eq_true, if_false]
    obtain rfl | ⟨front, rfl, hnil⟩ := eq_nil_or_exists_of_append hlast
    · simp only [Utf8.four, hb, hd, Bool.not_true, Bool.false_eq_true, if_false]
    · exact absurd hnil (not_append_eq_nil hback)

/-! ### Texts -/

theorem decodeFrom_point {rest : Bytes} {position n : Nat} {before : Text}
    (h : Utf8.head surrogates a bytes = .point c n rest) :
    decodeFrom surrogates position before (a :: bytes)
      = decodeFrom surrogates (position + n) (c :: before) rest := by
  rw [decodeFrom]
  split
  · next h' =>
    rw [h] at h'
    cases h'
    rfl
  · next h' =>
    rw [h] at h'
    cases h'

theorem decodeFrom_fault {faulty : Bytes} {reason : FaultReason} {position : Nat} {before : Text}
    (h : Utf8.head surrogates a bytes = .fault faulty reason) :
    decodeFrom surrogates position before (a :: bytes)
      = .error ⟨.utf8, position, faulty, reason⟩ := by
  rw [decodeFrom]
  split
  · next h' =>
    rw [h] at h'
    cases h'
  · next h' =>
    rw [h] at h'
    cases h'
    rfl

theorem encode_cons (c : CodePoint) (t : Text) : encode (c :: t) = encodeOne c ++ encode t :=
  List.flatMap_cons

theorem exists_encodeOne {c : Nat} (h : c.isValidChar) :
    ∃ a more, encodeOne c = a :: more ∧ IsSequence c (a :: more) := by
  have hseq := isSequence_encodeOne h
  generalize encodeOne c = bytes at hseq ⊢
  cases bytes with
  | nil => cases hseq
  | cons a more => exact ⟨a, more, rfl, hseq⟩

/-- The text in front is read, and what is behind it remains to be read. -/
theorem decodeFrom_encode_append {t : Text} (ht : t.IsScalar) (rest : Bytes) (position : Nat)
    (before : Text) :
    decodeFrom surrogates position before (encode t ++ rest)
      = decodeFrom surrogates (position + (encode t).length) (t.reverse ++ before) rest := by
  induction t generalizing position before with
  | nil => rfl
  | cons c t ih =>
    obtain ⟨hc, ht⟩ := Text.isScalar_cons.1 ht
    obtain ⟨a, more, hone, hseq⟩ := exists_encodeOne hc
    rw [encode_cons, hone, List.append_assoc, List.cons_append,
      decodeFrom_point (hseq.head (encode t ++ rest)), ih ht]
    simp [Nat.add_assoc, Nat.add_comm, Nat.add_left_comm]

/-- A text of scalar values is read again. -/
theorem decode_encode {t : Text} (ht : t.IsScalar) : decode surrogates (encode t) = .ok t := by
  have h : decodeFrom surrogates 0 [] (encode t ++ []) = _ := decodeFrom_encode_append ht [] 0 []
  rw [List.append_nil, List.append_nil, decodeFrom, List.reverse_reverse] at h
  exact h

end Utf8

/-! ## UTF-16 -/

namespace Utf16

/-- The units of a code point. -/
def unitsOne (c : CodePoint) : List Nat :=
  if c < 0x10000 then [c] else [0xD800 + (c - 0x10000) / 1024, 0xDC00 + (c - 0x10000) % 1024]

/-- A unit is read from its two bytes. -/
theorem units_unitBytes (order : ByteOrder) {u : Nat} (h : u < 0x10000) (rest : Bytes) :
    units order (unitBytes order u ++ rest)
      = (u :: (units order rest).1, (units order rest).2) := by
  have hlow : (UInt8.ofNat (u % 256)).toNat = u % 256 := toNat_byte (by omega)
  have hhigh : (UInt8.ofNat (u / 256)).toNat = u / 256 := toNat_byte (by omega)
  cases order with
  | little =>
    simp only [unitBytes, List.cons_append, List.nil_append, units, unit, hlow, hhigh]
    rw [Nat.mod_add_div]
  | big =>
    simp only [unitBytes, List.cons_append, List.nil_append, units, unit, hlow, hhigh]
    rw [Nat.div_add_mod]

/-- Every scalar value has one unit, or two that make up a pair. -/
theorem units_encodeOne (order : ByteOrder) {c : Nat} (h : c.isValidChar) (rest : Bytes) :
    units order (encodeOne order c ++ rest)
      = (unitsOne c ++ (units order rest).1, (units order rest).2) := by
  have hlt := lt_of_isValidChar h
  rw [encodeOne, unitsOne]
  rcases Nat.lt_or_ge c 0x10000 with hsmall | hlarge
  · rw [if_pos hsmall, if_pos hsmall, units_unitBytes order hsmall]
    rfl
  · rw [if_neg (Nat.not_lt.2 hlarge), if_neg (Nat.not_lt.2 hlarge), List.append_assoc,
      units_unitBytes order (by omega), units_unitBytes order (by omega)]
    rfl

theorem units_encode (order : ByteOrder) {t : Text} (ht : t.IsScalar) :
    units order (encode order t) = (t.flatMap unitsOne, none) := by
  induction t with
  | nil => rfl
  | cons c t ih =>
    obtain ⟨hc, ht⟩ := Text.isScalar_cons.1 ht
    have hbytes : encode order (c :: t) = encodeOne order c ++ encode order t := List.flatMap_cons
    rw [hbytes, units_encodeOne order hc, ih ht, List.flatMap_cons]

/-- A unit that is no half of a pair is a code point of its own. -/
theorem points_cons {u : Nat} (h : isHigh u = false) (us : List Nat) :
    points (u :: us) = u :: points us := by
  cases us with
  | nil => rfl
  | cons v us => simp [points, h]

/-- A code point past `0xFFFF` is the pair it is split into. -/
theorem pair_split {c : Nat} (hlow : 0x10000 ≤ c) (hhigh : c < 0x110000) :
    isHigh (0xD800 + (c - 0x10000) / 1024) = true ∧ isLow (0xDC00 + (c - 0x10000) % 1024) = true ∧
      pair (0xD800 + (c - 0x10000) / 1024) (0xDC00 + (c - 0x10000) % 1024) = c := by
  simp only [isHigh, isLow, Bool.and_eq_true, decide_eq_true_eq]
  refine ⟨by omega, by omega, ?_⟩
  show (0x10000 + (0xD800 + (c - 0x10000) / 1024 - 0xD800) * 1024
    + (0xDC00 + (c - 0x10000) % 1024 - 0xDC00) : Nat) = c
  omega

theorem points_unitsOne {c : Nat} (h : c.isValidChar) (us : List Nat) :
    points (unitsOne c ++ us) = c :: points us := by
  rw [unitsOne]
  rcases Nat.lt_or_ge c 0x10000 with hsmall | hlarge
  · have hhigh : isHigh c = false := by
      simp only [isHigh, Bool.and_eq_false_iff, decide_eq_false_iff_not]
      rcases h with h | h <;> omega
    rw [if_pos hsmall]
    exact points_cons hhigh us
  · obtain ⟨hhigh, hlow, hpair⟩ := pair_split hlarge (lt_of_isValidChar h)
    rw [if_neg (Nat.not_lt.2 hlarge)]
    simp only [List.cons_append, List.nil_append, points, hhigh, hlow, hpair, Bool.and_self, if_true]

/-- A text of scalar values is read again, whatever came before it. -/
theorem decode_encode (order : ByteOrder) (offset : Nat) {t : Text} (ht : t.IsScalar) :
    decode order offset (encode order t) = .ok t := by
  have hpoints : points (t.flatMap unitsOne) = t := by
    induction t with
    | nil => rfl
    | cons c t ih =>
      obtain ⟨hc, ht⟩ := Text.isScalar_cons.1 ht
      rw [List.flatMap_cons, points_unitsOne hc, ih ht]
  rw [decode, units_encode order ht]
  exact congrArg Except.ok hpoints

end Utf16

/-! ## UTF-32 -/

namespace Utf32

/-- A code point is read from its four bytes. -/
theorem decodeFrom_encodeOne (order : ByteOrder) {c : Nat} (h : c < 0x110000) (rest : Bytes)
    (position : Nat) (before : Text) :
    decodeFrom order position before (encodeOne order c ++ rest)
      = decodeFrom order (position + 4) (c :: before) rest := by
  have hlow : (UInt8.ofNat (c % 256)).toNat = c % 256 := toNat_byte (by omega)
  have hmiddle : (UInt8.ofNat (c / 256 % 256)).toNat = c / 256 % 256 :=
    toNat_byte (by omega)
  have hhigh : (UInt8.ofNat (c / 65536)).toNat = c / 65536 := toNat_byte (by omega)
  have hzero : UInt8.toNat 0 = 0 := rfl
  cases order with
  | little =>
    have hunit : c % 256 + 256 * (c / 256 % 256 + 256 * (c / 65536 + 256 * 0)) = c := by omega
    simp only [encodeOne, List.cons_append, List.nil_append, decodeFrom, unit, hlow, hmiddle, hhigh,
      hzero, hunit, if_pos h]
  | big =>
    have hunit : 256 * (256 * (256 * 0 + c / 65536) + c / 256 % 256) + c % 256 = c := by omega
    simp only [encodeOne, List.cons_append, List.nil_append, decodeFrom, unit, hlow, hmiddle, hhigh,
      hzero, hunit, if_pos h]

/-- A text of scalar values is read again, whatever came before it. -/
theorem decode_encode (order : ByteOrder) (offset : Nat) {t : Text} (ht : t.IsScalar) :
    decode order offset (encode order t) = .ok t := by
  have hfrom : ∀ position before, decodeFrom order position before (encode order t)
      = .ok (before.reverse ++ t) := by
    induction t with
    | nil => exact fun position before => by simp [encode, decodeFrom]
    | cons c t ih =>
      intro position before
      obtain ⟨hc, ht⟩ := Text.isScalar_cons.1 ht
      have hbytes : encode order (c :: t) = encodeOne order c ++ encode order t :=
        List.flatMap_cons
      rw [hbytes, decodeFrom_encodeOne order (lt_of_isValidChar hc), ih ht]
      simp
  exact hfrom offset []

end Utf32

/-! ## Texts that tell their encoding -/

/-- The text begins with a character of ASCII, and neither this nor the next one is NUL. -/
inductive Text.BeginsPlain : Text → Prop
  | cons {c : CodePoint} {rest : Text} : c ≠ 0 → c < 0x80 → (∀ d ∈ rest.head?, d ≠ 0) →
      BeginsPlain (c :: rest)

/-- The byte is that of a character of ASCII, and not that of NUL. -/
structure IsPlainByte (a : UInt8) : Prop where
  ne_zero : a ≠ 0
  lt : a < 0x80

/-- No byte of a mark but zero is one of ASCII. -/
theorem IsPlainByte.ne_of_le {a b : UInt8} (h : IsPlainByte a) (hb : 0x80 ≤ b) : a ≠ b := by
  rintro rfl
  exact absurd h.lt (UInt8.not_lt.2 hb)

theorem isPlainByte_ofNat {c : Nat} (hzero : c ≠ 0) (hlt : c < 0x80) :
    IsPlainByte (UInt8.ofNat c) := by
  have hc : (UInt8.ofNat c).toNat = c := toNat_byte (by omega)
  exact ⟨fun h => hzero (by rw [← hc, h]; rfl), UInt8.lt_iff_toNat_lt.2 (by rw [hc]; exact hlt)⟩

/-- Only NUL has a sequence of UTF-8 that begins with zero. -/
theorem Utf8.IsSequence.ne_zero {c : CodePoint} {a : UInt8} {more : Bytes}
    (h : IsSequence c (a :: more)) (hc : c ≠ 0) : a ≠ 0 := by
  rintro rfl
  cases h with
  | one _ hzero => exact hc hzero.symm
  | two hlow => exact absurd hlow (by decide)
  | three hlow => exact absurd hlow (by decide)
  | four hlow => exact absurd hlow (by decide)

/-- A character of ASCII has a byte of zero beside its own in UTF-16. -/
theorem Utf16.encode_cons_of_lt {c : Nat} (hlt : c < 0x80) (rest : Text) :
    encode .little (c :: rest) = .ofNat c :: 0 :: encode .little rest ∧
      encode .big (c :: rest) = 0 :: .ofNat c :: encode .big rest := by
  have hlow : c % 256 = c := Nat.mod_eq_of_lt (by omega)
  have hhigh : c / 256 = 0 := Nat.div_eq_of_lt (by omega)
  have hbytes (order : ByteOrder) :
      encode order (c :: rest) = unitBytes order c ++ encode order rest := by
    have hone : encodeOne order c = unitBytes order c := if_pos (Nat.lt_trans hlt (by decide))
    exact List.flatMap_cons.trans (by rw [hone]; rfl)
  rw [hbytes, hbytes, unitBytes, unitBytes, hlow, hhigh]
  exact ⟨rfl, rfl⟩

/-- Only NUL has two bytes of zero first in UTF-16. -/
theorem Utf16.exists_encodeOne (order : ByteOrder) {c : Nat} (hlt : c < 0x110000) (hc : c ≠ 0) :
    ∃ a b more, encodeOne order c = a :: b :: more ∧ ¬(a = 0 ∧ b = 0) := by
  have hunit {u : Nat} (hlt : u < 0x10000) (hu : u ≠ 0) :
      ∃ a b, unitBytes order u = [a, b] ∧ ¬(a = 0 ∧ b = 0) := by
    have hlow : (UInt8.ofNat (u % 256)).toNat = u % 256 := toNat_byte (by omega)
    have hhigh : (UInt8.ofNat (u / 256)).toNat = u / 256 := toNat_byte (by omega)
    have hzeros : ¬(UInt8.ofNat (u % 256) = 0 ∧ UInt8.ofNat (u / 256) = 0) := by
      rintro ⟨h, h'⟩
      rw [h] at hlow
      rw [h'] at hhigh
      have hzero : UInt8.toNat 0 = 0 := rfl
      omega
    cases order with
    | little => exact ⟨_, _, rfl, hzeros⟩
    | big => exact ⟨_, _, rfl, fun h => hzeros h.symm⟩
  rw [encodeOne]
  rcases Nat.lt_or_ge c 0x10000 with hsmall | hlarge
  · obtain ⟨a, b, hbytes, hzeros⟩ := hunit hsmall hc
    exact ⟨a, b, [], by rw [if_pos hsmall, hbytes], hzeros⟩
  · obtain ⟨a, b, hbytes, hzeros⟩ := hunit (u := 0xD800 + (c - 0x10000) / 1024) (by omega) (by omega)
    exact ⟨a, b, _, by rw [if_neg (Nat.not_lt.2 hlarge), hbytes]; rfl, hzeros⟩

/-! ## Telling the encoding -/

namespace Encoding

/-- What is written in an encoding is read again in that encoding. -/
theorem decode_encode (e : Encoding) {t : Text} (ht : t.IsScalar) :
    e.decode (e.encode t) = .ok t := by
  obtain ⟨scheme, marked⟩ := e
  have hbytes : (Encoding.encode ⟨scheme, marked⟩ t).drop
      (if marked then scheme.mark.length else 0) = scheme.encode t := by
    cases marked with
    | false => rfl
    | true => exact List.drop_left
  rw [decode, hbytes]
  cases scheme with
  | utf8 => exact Utf8.decode_encode ht
  | utf16 order => exact Utf16.decode_encode order _ ht
  | utf32 order => exact Utf32.decode_encode order _ ht


/-- Bytes have no mark if the first that is not zero, of the first four, is a plain one. -/
theorem detect_of_zeros {a : UInt8} (ha : IsPlainByte a) {n : Nat} (h : n < 4)
    {bytes more : Bytes} (hbytes : bytes = List.replicate n 0 ++ a :: more) :
    detect bytes = ⟨detectUnmarked bytes, false⟩ := by
  subst hbytes
  have hzero : 0 ≠ a := ha.ne_zero.symm
  have hef : 0xEF ≠ a := (ha.ne_of_le (by decide)).symm
  have hfe : 0xFE ≠ a := (ha.ne_of_le (by decide)).symm
  have hff : 0xFF ≠ a := (ha.ne_of_le (by decide)).symm
  have hmarks : marks.find? (fun e => e.scheme.mark.isPrefixOf (List.replicate n 0 ++ a :: more))
      = none := by
    obtain rfl | rfl | rfl | rfl : n = 0 ∨ n = 1 ∨ n = 2 ∨ n = 3 := by omega
    · simp [marks, Scheme.mark, hzero, hef, hfe, hff]
    · simp [marks, Scheme.mark, List.replicate, hzero]
    · simp [marks, Scheme.mark, List.replicate, hfe]
    · simp [marks, Scheme.mark, List.replicate]
  rw [detect, hmarks]

/-- In UTF-8 neither the first byte nor the next is zero. -/
theorem detectUnmarked_utf8 {a : UInt8} (ha : a ≠ 0) {more : Bytes}
    (hmore : ∀ b ∈ more.head?, b ≠ 0) : detectUnmarked (a :: more) = .utf8 := by
  match more with
  | [] => rfl
  | [b] => rw [detectUnmarked, if_neg ha, if_neg (hmore b rfl)]
  | [_, _] => rfl
  | b :: _ :: _ :: _ => rw [detectUnmarked, if_neg ha, if_neg (hmore b rfl)]

/-- Of the two bytes of a plain character in UTF-16 one is zero, and what follows is the end or a
    character not both of whose bytes are zero. -/
theorem detectUnmarked_utf16 {a : UInt8} (ha : a ≠ 0) {more : Bytes}
    (hmore : more = [] ∨ ∃ b b' more', more = b :: b' :: more' ∧ ¬(b = 0 ∧ b' = 0)) :
    detectUnmarked (a :: 0 :: more) = .utf16 .little ∧
      detectUnmarked (0 :: a :: more) = .utf16 .big := by
  obtain rfl | ⟨b, b', more', rfl, hzeros⟩ := hmore
  · simp [detectUnmarked, ha]
  · simp [detectUnmarked, ha, hzeros]

/-- In UTF-32 all but one of the first four bytes are zero. -/
theorem detectUnmarked_utf32 {a : UInt8} (ha : a ≠ 0) (more : Bytes) :
    detectUnmarked (a :: 0 :: 0 :: 0 :: more) = .utf32 .little ∧
      detectUnmarked (0 :: 0 :: 0 :: a :: more) = .utf32 .big := by
  simp [detectUnmarked, ha]

variable {c : Nat} {rest : Text}

theorem detect_encode_utf8 (hzero : c ≠ 0) (hlt : c < 0x80) (hrest : rest.IsScalar)
    (hsecond : ∀ d ∈ rest.head?, d ≠ 0) :
    detect (Utf8.encode (c :: rest)) = ⟨.utf8, false⟩ := by
  have ha := isPlainByte_ofNat hzero hlt
  have hbytes : Utf8.encode (c :: rest) = .ofNat c :: Utf8.encode rest := by
    rw [Utf8.encode_cons, Utf8.encodeOne, if_pos hlt]
    rfl
  have hmore : ∀ b ∈ (Utf8.encode rest).head?, b ≠ 0 := by
    cases rest with
    | nil =>
      intro b hb
      cases hb
    | cons d rest =>
      obtain ⟨b, more, hone, hseq⟩ := Utf8.exists_encodeOne (Text.isScalar_cons.1 hrest).1
      rw [Utf8.encode_cons, hone]
      rintro _ ⟨⟩
      exact hseq.ne_zero (hsecond d rfl)
  rw [detect_of_zeros ha (n := 0) (by decide) hbytes, hbytes,
    detectUnmarked_utf8 ha.ne_zero hmore]

theorem detect_encode_utf16 (order : ByteOrder) (hzero : c ≠ 0) (hlt : c < 0x80)
    (hrest : rest.IsScalar) (hsecond : ∀ d ∈ rest.head?, d ≠ 0) :
    detect (Utf16.encode order (c :: rest)) = ⟨.utf16 order, false⟩ := by
  have ha := isPlainByte_ofNat hzero hlt
  have hmore : Utf16.encode order rest = [] ∨
      ∃ b b' more, Utf16.encode order rest = b :: b' :: more ∧ ¬(b = 0 ∧ b' = 0) := by
    cases rest with
    | nil => exact .inl rfl
    | cons d rest =>
      have hd := lt_of_isValidChar (Text.isScalar_cons.1 hrest).1
      obtain ⟨b, b', more, hone, hzeros⟩ := Utf16.exists_encodeOne order hd (hsecond d rfl)
      refine .inr ⟨b, b', more ++ Utf16.encode order rest, ?_, hzeros⟩
      exact List.flatMap_cons.trans (by rw [hone]; rfl)
  obtain ⟨hlittle, hbig⟩ := detectUnmarked_utf16 ha.ne_zero hmore
  cases order with
  | little =>
    have hbytes := (Utf16.encode_cons_of_lt hlt rest).1
    rw [detect_of_zeros ha (n := 0) (by decide) hbytes, hbytes, hlittle]
  | big =>
    have hbytes := (Utf16.encode_cons_of_lt hlt rest).2
    rw [detect_of_zeros ha (n := 1) (by decide) hbytes, hbytes, hbig]

theorem detect_encode_utf32 (order : ByteOrder) (hzero : c ≠ 0) (hlt : c < 0x80) :
    detect (Utf32.encode order (c :: rest)) = ⟨.utf32 order, false⟩ := by
  have ha := isPlainByte_ofNat hzero hlt
  have hbytes : Utf32.encode order (c :: rest)
      = Utf32.encodeOne order c ++ Utf32.encode order rest := List.flatMap_cons
  have hlow : c % 256 = c := Nat.mod_eq_of_lt (by omega)
  have hmiddle : c / 256 % 256 = 0 := by omega
  have hhigh : c / 65536 = 0 := Nat.div_eq_of_lt (by omega)
  obtain ⟨hlittle, hbig⟩ := detectUnmarked_utf32 ha.ne_zero (Utf32.encode order rest)
  cases order with
  | little =>
    rw [Utf32.encodeOne, hlow, hmiddle, hhigh] at hbytes
    rw [detect_of_zeros ha (n := 0) (by decide) hbytes, hbytes]
    exact congrArg (Encoding.mk · false) hlittle
  | big =>
    rw [Utf32.encodeOne, hlow, hmiddle, hhigh] at hbytes
    rw [detect_of_zeros ha (n := 3) (by decide) hbytes, hbytes]
    exact congrArg (Encoding.mk · false) hbig

/-- The encoding is told from the bytes of a text that begins plain. -/
theorem detect_encode (e : Encoding) {t : Text} (ht : t.IsScalar) (hb : t.BeginsPlain) :
    detect (e.encode t) = e := by
  cases hb with | @cons c rest hzero hlt hsecond
  obtain ⟨-, hrest⟩ := Text.isScalar_cons.1 ht
  obtain ⟨scheme, marked⟩ := e
  cases marked with
  | false =>
    cases scheme with
    | utf8 => exact detect_encode_utf8 hzero hlt hrest hsecond
    | utf16 order => exact detect_encode_utf16 order hzero hlt hrest hsecond
    | utf32 order => exact detect_encode_utf32 order hzero hlt
  | true =>
    match scheme with
    | .utf8 | .utf16 .big | .utf32 .little | .utf32 .big => rfl
    | .utf16 .little =>
      -- The mark does not go on as that of UTF-32, since the byte behind it is not zero.
      have hbytes : Encoding.encode ⟨.utf16 .little, true⟩ (c :: rest)
          = [0xFF, 0xFE] ++ .ofNat c :: 0 :: Utf16.encode .little rest :=
        congrArg ([0xFF, 0xFE] ++ ·) (Utf16.encode_cons_of_lt hlt rest).1
      have hne := (isPlainByte_ofNat hzero hlt).ne_zero
      rw [hbytes]
      simp [detect, marks, Scheme.mark, hne.symm]

end Encoding

/-! ## Documents -/

/-- The value of a text is that of its bytes, and so is what is wrong with the text. -/
theorem Json.ofBytes_encode (e : Encoding) {t : Text} (ht : t.IsScalar) (hb : t.BeginsPlain) :
    ofBytes (e.encode t) = ofText t := by
  have hmark : t.head? ≠ some byteOrderMark := by
    cases hb with | @cons c rest hzero hlt hsecond
    rintro ⟨⟩
    exact absurd hlt (by decide)
  rw [ofBytes, Encoding.detect_encode e ht hb, Encoding.decode_encode e ht, ofText, if_neg hmark]

namespace Hub

theorem Body.decode_encode {α : Type} (d : Decoder α) (e : Encoding) {t : Text} (ht : t.IsScalar)
    (hb : t.BeginsPlain) : Body.decode d (.bytes (e.encode t)) = Body.decode d (.text t) := by
  rw [Body.decode, Body.decode, Body.json, Body.json, Json.ofBytes_encode e ht hb]

/-- Both documents come out the same, or fail in the same way at the same place, from a text and
    from its bytes in any encoding. -/
theorem decoded_alike_in_every_encoding (e : Encoding) {t : Text} (ht : t.IsScalar)
    (hb : t.BeginsPlain) :
    Status.decode (.bytes (e.encode t)) = Status.decode (.text t) ∧
      Queue.decode (.bytes (e.encode t)) = Queue.decode (.text t) :=
  ⟨Body.decode_encode Status.decoder e ht hb, Body.decode_encode Queue.decoder e ht hb⟩

/-- A text that goes wrong on its second line, behind characters of up to four bytes. -/
theorem decoded_alike_past_an_emoji :
    let t : Text := "\x7b\"é😀\":\n \"ü\",\x7d"
    t.IsScalar ∧ t.BeginsPlain ∧
      (∀ e : Encoding, Status.decode (.bytes (e.encode t)) = Status.decode (.text t) ∧
        Queue.decode (.bytes (e.encode t)) = Queue.decode (.text t)) ∧
      Status.decode (.text t) = .error (.malformed (.malformed .noKey ⟨2, 6, 12⟩)) := by
  have ht : Text.IsScalar "\x7b\"é😀\":\n \"ü\",\x7d" := Text.isScalar_ofString _
  have hb : Text.BeginsPlain "\x7b\"é😀\":\n \"ü\",\x7d" :=
    .cons (by decide) (by decide) (by decide)
  exact ⟨ht, hb, fun e => decoded_alike_in_every_encoding e ht hb, rfl⟩

end Hub

end GridGauge
