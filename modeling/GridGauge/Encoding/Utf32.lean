import GridGauge.Encoding.Fault

/-!
# UTF-32

A code point takes one unit of four bytes. Surrogates are read as the code
points they are; a unit past the last code point is a fault, and so is a last
unit that lacks bytes.
-/

namespace GridGauge.Utf32

/-- The four bytes of one code point. -/
def encodeOne : ByteOrder → CodePoint → Bytes
  | .little, c => [.ofNat (c % 256), .ofNat (c / 256 % 256), .ofNat (c / 65536), 0]
  | .big, c => [0, .ofNat (c / 65536), .ofNat (c / 256 % 256), .ofNat (c % 256)]

/-- The bytes of a text. -/
def encode (order : ByteOrder) (t : Text) : Bytes := t.flatMap (encodeOne order)

/-- The unit of four bytes. -/
def unit : ByteOrder → UInt8 → UInt8 → UInt8 → UInt8 → Nat
  | .little, a, b, c, d => a.toNat + 256 * (b.toNat + 256 * (c.toNat + 256 * d.toNat))
  | .big, a, b, c, d => 256 * (256 * (256 * a.toNat + b.toNat) + c.toNat) + d.toNat

/-- The text of the bytes behind position `position`, after the text `before`, which is given in
    reverse. -/
def decodeFrom (order : ByteOrder) (position : Nat) (before : Text) :
    Bytes → Except EncodingFault Text
  | a :: b :: c :: d :: rest =>
    let u := unit order a b c d
    if u < 0x110000 then decodeFrom order (position + 4) (u :: before) rest
    else .error ⟨.utf32 order, position, [a, b, c, d], .outOfRange⟩
  | [] => .ok before.reverse
  | left => .error ⟨.utf32 order, position, left, .truncated⟩

/-- The text that the bytes encode; `offset` bytes have come before them. -/
def decode (order : ByteOrder) (offset : Nat) (bytes : Bytes) : Except EncodingFault Text :=
  decodeFrom order offset [] bytes

end GridGauge.Utf32
