import GridGauge.Encoding.Utf8
import GridGauge.Encoding.Utf16
import GridGauge.Encoding.Utf32

/-!
# Encodings of a document

A document that comes as bytes says how it is encoded by a byte order mark,
or without one by where its first bytes are zero, since its first character
is one of ASCII (`Encoding.detect`). `encode` writes a text in any of these
encodings, `decode` reads it.
-/

namespace GridGauge

/-- A scheme, with or without a byte order mark in front. -/
structure Encoding where
  scheme : Scheme
  /-- Does a byte order mark come first? -/
  marked : Bool
  deriving DecidableEq, Repr

/-- The code point that marks the byte order when it comes first. -/
def byteOrderMark : CodePoint := 0xFEFF

/-- The bytes of a text under a scheme. -/
def Scheme.encode : Scheme → Text → Bytes
  | .utf8, t => Utf8.encode t
  | .utf16 order, t => Utf16.encode order t
  | .utf32 order, t => Utf32.encode order t

/-- The bytes of the byte order mark under a scheme. -/
def Scheme.mark : Scheme → Bytes
  | .utf8 => [0xEF, 0xBB, 0xBF]
  | .utf16 .little => [0xFF, 0xFE]
  | .utf16 .big => [0xFE, 0xFF]
  | .utf32 .little => [0xFF, 0xFE, 0, 0]
  | .utf32 .big => [0, 0, 0xFE, 0xFF]

namespace Encoding

/-- The bytes of a text, behind a mark if there is to be one. -/
def encode (e : Encoding) (t : Text) : Bytes :=
  if e.marked then e.scheme.mark ++ e.scheme.encode t else e.scheme.encode t

/-- The text that the bytes encode, surrogates let through. Positions in a fault count the mark,
    except that of UTF-8, which is taken off before reading starts. -/
def decode (e : Encoding) (bytes : Bytes) : Except EncodingFault Text :=
  let skipped := if e.marked then e.scheme.mark.length else 0
  match e.scheme with
  | .utf8 => Utf8.decode true (bytes.drop skipped)
  | .utf16 order => Utf16.decode order skipped (bytes.drop skipped)
  | .utf32 order => Utf32.decode order skipped (bytes.drop skipped)

/-- The encodings with a mark, in the order in which marks are looked for: the little-endian mark
    of UTF-16 begins that of UTF-32. -/
def marks : List Encoding :=
  [⟨.utf32 .big, true⟩, ⟨.utf32 .little, true⟩, ⟨.utf16 .big, true⟩, ⟨.utf16 .little, true⟩,
    ⟨.utf8, true⟩]

/-- The scheme of bytes without a mark, told from which of the first four are zero. -/
def detectUnmarked : Bytes → Scheme
  | a :: b :: c :: d :: _ =>
    if a = 0 then if b = 0 then .utf32 .big else .utf16 .big
    else if b = 0 then if c = 0 ∧ d = 0 then .utf32 .little else .utf16 .little
    else .utf8
  | [a, b] => if a = 0 then .utf16 .big else if b = 0 then .utf16 .little else .utf8
  | _ => .utf8

/-- The encoding of a document. -/
def detect (bytes : Bytes) : Encoding :=
  match marks.find? fun e => e.scheme.mark.isPrefixOf bytes with
  | some e => e
  | none => ⟨detectUnmarked bytes, false⟩

end Encoding

end GridGauge
