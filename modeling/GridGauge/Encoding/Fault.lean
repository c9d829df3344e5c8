import GridGauge.Text

/-!
# Faults of encoded text

What can be wrong with bytes that should encode a text, and how it is said.
-/

namespace GridGauge

/-- Bytes in order. -/
abbrev Bytes := List UInt8

/-- The order in which the bytes of a unit are stored. -/
inductive ByteOrder
  | little
  | big
  deriving DecidableEq, Repr

/-- The ways of writing code points as bytes. -/
inductive Scheme
  | utf8
  | utf16 (order : ByteOrder)
  | utf32 (order : ByteOrder)
  deriving DecidableEq, Repr

/-- The name of a scheme in messages. -/
def Scheme.name : Scheme → Text
  | .utf8 => "utf-8"
  | .utf16 .little => "utf-16-le"
  | .utf16 .big => "utf-16-be"
  | .utf32 .little => "utf-32-le"
  | .utf32 .big => "utf-32-be"

/-- Why bytes encode no text. -/
inductive FaultReason
  /-- No code point starts with this byte. -/
  | invalidStart
  /-- A code point that was begun does not go on like this. -/
  | invalidContinuation
  /-- The bytes end inside a code point that is well-formed so far. -/
  | unexpectedEnd
  /-- The last unit lacks bytes. -/
  | truncated
  /-- The unit is too large for a code point. -/
  | outOfRange
  deriving DecidableEq, Repr

/-- The reason in words. -/
def FaultReason.message : FaultReason → Text
  | .invalidStart => "invalid start byte"
  | .invalidContinuation => "invalid continuation byte"
  | .unexpectedEnd => "unexpected end of data"
  | .truncated => "truncated data"
  | .outOfRange => "code point not in range(0x110000)"

/-- A stretch of bytes that encodes nothing. -/
structure EncodingFault where
  /-- The scheme the bytes were read by. -/
  scheme : Scheme
  /-- The position of the first of the bytes. -/
  position : Nat
  /-- The bytes themselves, at least one. -/
  bytes : Bytes
  /-- What is wrong with them. -/
  reason : FaultReason
  deriving DecidableEq, Repr

/-- The fault in words: a single byte is shown, several are only located. -/
def EncodingFault.message (f : EncodingFault) : Text :=
  let place : Text := match f.bytes with
    | [b] => "byte 0x" ++ Text.ofHex 2 b.toNat ++ " in position " ++ Text.ofNat f.position
    | bytes => "bytes in position " ++ Text.ofNat f.position ++ "-"
        ++ Text.ofNat (f.position + bytes.length - 1)
  "'" ++ f.scheme.name ++ "' codec can't decode " ++ place ++ ": " ++ f.reason.message

end GridGauge
