import GridGauge.Encoding.Fault

/-!
# UTF-16

A code point takes one unit of two bytes, or a pair of surrogate units from
`0x10000` on. A surrogate that stands alone is read as the code point it is,
so the only fault is a last unit that lacks a byte.
-/

namespace GridGauge.Utf16

/-- The two bytes of a unit. -/
def unitBytes : ByteOrder → Nat → Bytes
  | .little, u => [.ofNat (u % 256), .ofNat (u / 256)]
  | .big, u => [.ofNat (u / 256), .ofNat (u % 256)]

/-- The unit of two bytes. -/
def unit : ByteOrder → UInt8 → UInt8 → Nat
  | .little, a, b => a.toNat + 256 * b.toNat
  | .big, a, b => 256 * a.toNat + b.toNat

/-- The bytes of one code point. -/
def encodeOne (order : ByteOrder) (c : CodePoint) : Bytes :=
  if c < 0x10000 then unitBytes order c
  else
    unitBytes order (0xD800 + (c - 0x10000) / 1024)
      ++ unitBytes order (0xDC00 + (c - 0x10000) % 1024)

/-- The bytes of a text. -/
def encode (order : ByteOrder) (t : Text) : Bytes := t.flatMap (encodeOne order)

/-- Is the unit the first of a pair? -/
def isHigh (u : Nat) : Bool := 0xD800 ≤ u && u < 0xDC00

/-- Is the unit the second of a pair? -/
def isLow (u : Nat) : Bool := 0xDC00 ≤ u && u < 0xE000

/-- The code point of a pair. -/
def pair (high low : Nat) : CodePoint := 0x10000 + (high - 0xD800) * 1024 + (low - 0xDC00)

/-- The units of the bytes, and the byte that is left over if their number is odd. -/
def units (order : ByteOrder) : Bytes → List Nat × Option UInt8
  | a :: b :: rest =>
    let (us, left) := units order rest
    (unit order a b :: us, left)
  | [b] => ([], some b)
  | [] => ([], none)

/-- The code points of the units, pairs taken together. -/
def points : List Nat → Text
  | high :: low :: rest =>
    if isHigh high && isLow low then pair high low :: points rest
    else high :: points (low :: rest)
  | [u] => [u]
  | [] => []

/-- The text that the bytes encode; `offset` bytes have come before them. -/
def decode (order : ByteOrder) (offset : Nat) (bytes : Bytes) : Except EncodingFault Text :=
  match units order bytes with
  | (us, none) => .ok (points us)
  | (_, some b) => .error ⟨.utf16 order, offset + (bytes.length - 1), [b], .truncated⟩

end GridGauge.Utf16
