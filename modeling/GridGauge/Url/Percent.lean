import GridGauge.Encoding.Utf8

/-!
# Percent encoding

In an address a character that may not stand there is written as the bytes of
its UTF-8 form, each as a percent sign and two hexadecimal digits. What is
written so already is left alone. Decoding turns the escapes back into bytes
and reads these as UTF-8, with U+FFFD for each stretch that is none.
-/

namespace GridGauge

namespace Utf8

/-- What stands for bytes that encode nothing. -/
def replacement : CodePoint := 0xFFFD

/-- The text that the bytes encode, with a replacement for each fault, `fuel` bounding the number
    of code points and faults. -/
def decodeLossy : (fuel : Nat) → Bytes → Text
  | 0, _ => []
  | _ + 1, [] => []
  | fuel + 1, lead :: bytes =>
    match head false lead bytes with
    | .point c _ rest => c :: decodeLossy fuel rest
    | .fault faulty _ => replacement :: decodeLossy fuel ((lead :: bytes).drop faulty.length)

end Utf8

namespace Url

/-- The percent sign. -/
def percent : CodePoint := 0x25

/-- A hexadecimal digit in upper case. -/
def upperDigit (d : Nat) : CodePoint := if d < 10 then 48 + d else 55 + d

/-- A byte as an escape. -/
def escapeByte (b : UInt8) : Text := [percent, upperDigit (b.toNat / 16), upperDigit (b.toNat % 16)]

/-- The text with escapes for all characters but the safe ones and the escapes there are. -/
def encode (safe : CodePoint → Bool) : Text → Text
  | 0x25 :: a :: b :: rest =>
    if (Text.hexValue? a).isSome && (Text.hexValue? b).isSome then
      0x25 :: a :: b :: encode safe rest
    else
      (if safe percent then [percent] else escapeByte 0x25) ++ encode safe (a :: b :: rest)
  | c :: rest =>
    (if safe c then [c] else (Utf8.encodeOne c).flatMap escapeByte) ++ encode safe rest
  | [] => []

/-- The bytes of a text with escapes. -/
def bytes : Text → Bytes
  | 0x25 :: a :: b :: rest =>
    match Text.hexValue? a, Text.hexValue? b with
    | some m, some n => UInt8.ofNat (16 * m + n) :: bytes rest
    | _, _ => 0x25 :: bytes (a :: b :: rest)
  | c :: rest => Utf8.encodeOne c ++ bytes rest
  | [] => []

/-- The text that a text with escapes stands for. -/
def decode (t : Text) : Text :=
  let bs := bytes t
  Utf8.decodeLossy (bs.length + 1) bs

/-- May the character stand in a path as it is? -/
def isPathSafe (c : CodePoint) : Bool :=
  0x20 < c && c < 0x7F && !("\"#<>?\x60\x7b\x7d" : Text).contains c

/-- May the character stand in a query as it is? -/
def isQuerySafe (c : CodePoint) : Bool :=
  0x20 < c && c < 0x7F && !("\"#<>" : Text).contains c

end Url

end GridGauge
