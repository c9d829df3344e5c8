import GridGauge.Encoding.Fault

/-!
# UTF-8

A code point takes one to four bytes, the shortest form that holds it. The
reader refuses overlong forms and forms past `0x10FFFF`; surrogates, which
have no place in UTF-8, pass on request.

A fault covers the bytes that could still begin a code point: the first byte
that does not fit is left out, and may begin the next one.
-/

namespace GridGauge.Utf8

/-! ## Writing -/

/-- The bytes of one code point. -/
def encodeOne (c : CodePoint) : Bytes :=
  if c < 0x80 then [.ofNat c]
  else if c < 0x800 then [.ofNat (0xC0 + c / 64), .ofNat (0x80 + c % 64)]
  else if c < 0x10000 then
    [.ofNat (0xE0 + c / 4096), .ofNat (0x80 + c / 64 % 64), .ofNat (0x80 + c % 64)]
  else
    [.ofNat (0xF0 + c / 262144), .ofNat (0x80 + c / 4096 % 64), .ofNat (0x80 + c / 64 % 64),
      .ofNat (0x80 + c % 64)]

/-- The bytes of a text. -/
def encode (t : Text) : Bytes := t.flatMap encodeOne

/-! ## Reading -/

/-- Does a byte continue a code point? -/
def isTail (b : UInt8) : Bool := 0x80 ≤ b && b < 0xC0

/-- The six bits a continuation byte carries. -/
def tailBits (b : UInt8) : Nat := b.toNat - 0x80

/-- May `b` follow the first byte `lead` of three or four? The lead bytes at the ends of their
    ranges leave out overlong forms, surrogates and what is past the last code point. -/
def mayFollow (lead b : UInt8) : Bool :=
  isTail b &&
    (if lead = 0xE0 then 0xA0 ≤ b else if lead = 0xED then b < 0xA0
      else if lead = 0xF0 then 0x90 ≤ b else if lead = 0xF4 then b < 0x90 else true)

/-- What the first bytes of a sequence are. -/
inductive Head
  /-- A code point and the bytes behind it, with the number of bytes it took. -/
  | point (c : CodePoint) (length : Nat) (rest : Bytes)
  /-- Bytes that encode nothing. -/
  | fault (bytes : Bytes) (reason : FaultReason)

/-- The code point behind a lead byte of two. -/
def two (lead : UInt8) : Bytes → Head
  | [] => .fault [lead] .unexpectedEnd
  | b :: rest =>
    if isTail b then .point ((lead.toNat - 0xC0) * 64 + tailBits b) 2 rest
    else .fault [lead] .invalidContinuation

/-- The code point behind a lead byte of three. -/
def three (surrogates : Bool) (lead : UInt8) : Bytes → Head
  | [] => .fault [lead] .unexpectedEnd
  | [b] => if mayFollow lead b then .fault [lead, b] .unexpectedEnd
      else .fault [lead] .invalidContinuation
  | b :: c :: rest =>
    let point := .point ((lead.toNat - 0xE0) * 4096 + tailBits b * 64 + tailBits c) 3 rest
    if mayFollow lead b then
      if isTail c then point else .fault [lead, b] .invalidContinuation
    else if surrogates && lead = 0xED && isTail b && isTail c then point
    else .fault [lead] .invalidContinuation

/-- The code point behind a lead byte of four. -/
def four (lead : UInt8) : Bytes → Head
  | [] => .fault [lead] .unexpectedEnd
  | b :: rest =>
    if !mayFollow lead b then .fault [lead] .invalidContinuation
    else match rest with
      | [] => .fault [lead, b] .unexpectedEnd
      | c :: rest =>
        if !isTail c then .fault [lead, b] .invalidContinuation
        else match rest with
          | [] => .fault [lead, b, c] .unexpectedEnd
          | d :: rest =>
            if !isTail d then .fault [lead, b, c] .invalidContinuation
            else
              .point ((lead.toNat - 0xF0) * 262144 + tailBits b * 4096 + tailBits c * 64
                + tailBits d) 4 rest

/-- What a sequence that starts with `lead` begins with. -/
def head (surrogates : Bool) (lead : UInt8) (rest : Bytes) : Head :=
  if lead < 0x80 then .point lead.toNat 1 rest
  else if lead < 0xC2 then .fault [lead] .invalidStart
  else if lead < 0xE0 then two lead rest
  else if lead < 0xF0 then three surrogates lead rest
  else if lead < 0xF5 then four lead rest
  else .fault [lead] .invalidStart

theorem head_rest_length {surrogates : Bool} {lead : UInt8} {bytes rest : Bytes} {c : CodePoint}
    {n : Nat} (h : head surrogates lead bytes = .point c n rest) :
    rest.length ≤ bytes.length := by
  unfold head two three four at h
  repeat' split at h
  all_goals first
    | contradiction
    | (simp only [Head.point.injEq] at h
       obtain ⟨-, -, rfl⟩ := h
       simp)
  all_goals simp_all
  all_goals omega

/-- The text of the bytes behind position `position`, after the text `before`, which is given in
    reverse. -/
def decodeFrom (surrogates : Bool) (position : Nat) (before : Text) :
    Bytes → Except EncodingFault Text
  | [] => .ok before.reverse
  | lead :: bytes =>
    match h : head surrogates lead bytes with
    | .point c n rest =>
      have : rest.length < bytes.length + 1 := Nat.lt_succ_of_le (head_rest_length h)
      decodeFrom surrogates (position + n) (c :: before) rest
    | .fault faulty reason => .error ⟨.utf8, position, faulty, reason⟩
  termination_by bytes => bytes.length

/-- The text that the bytes encode. -/
def decode (surrogates : Bool) (bytes : Bytes) : Except EncodingFault Text :=
  decodeFrom surrogates 0 [] bytes

end GridGauge.Utf8
