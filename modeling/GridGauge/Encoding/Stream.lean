import GridGauge.Encoding.Utf8

/-!
# Reading a file of text bit by bit

A file of text in UTF-8 is read a number of characters at a time. Its bytes
are taken in pieces, each of which is decoded when characters of it are wanted
for the first time, so that a fault further on does no harm before. The size
of a piece follows from how many characters are wanted and how many bytes each
of those in the piece before took, and is never less than 8192.

All line ends are read as line feeds. A code point or line end that a piece
breaks off in waits for the next piece; the position of a fault counts from
the first byte that was waiting.
-/

namespace GridGauge.Utf8

/-- A file that is being read. -/
structure Stream where
  /-- The bytes that have not been taken. -/
  bytes : Bytes
  /-- The bytes of a code point that the last piece broke off in. -/
  begun : Bytes
  /-- Did the last piece end with a carriage return, which may be half of a line end? -/
  held : Bool
  /-- The numbers of bytes and characters of the last piece. -/
  size : Nat × Nat
  /-- The characters that are still to be handed out. -/
  ahead : Text

namespace Stream

/-- A file before anything of it is read. -/
def ofBytes (bytes : Bytes) : Stream := ⟨bytes, [], false, (0, 0), []⟩

/-- The text of a piece and the bytes of the code point it breaks off in, which must be none in the
    last piece. -/
def decodePiece (isLast : Bool) (bytes : Bytes) : Except EncodingFault (Text × Bytes) :=
  match decode false bytes with
  | .ok t => .ok (t, [])
  | .error fault =>
    if fault.reason = .unexpectedEnd && !isLast then
      return (← decode false (bytes.take fault.position), fault.bytes)
    else .error fault

/-- The number of bytes to take for `wanted` characters. -/
def pieceSize (s : Stream) (wanted : Nat) : Nat :=
  max 8192 (max wanted (s.size.1 * wanted / s.size.2))

/-- The file after one more piece was taken for `wanted` characters, and whether there was one. -/
def take (s : Stream) (wanted : Nat) : Except EncodingFault (Stream × Bool) := do
  let n := s.pieceSize wanted
  let piece := s.bytes.take n
  let isLast := piece.isEmpty
  let (t, begun) ← decodePiece isLast (s.begun ++ piece)
  let t := if s.held && (isLast || !t.isEmpty) then 13 :: t else t
  let held := if t.isEmpty then s.held && !isLast else !isLast && t.getLast? == some 13
  let t := Text.unifyBreaks (if held then t.dropLast else t)
  return (⟨s.bytes.drop n, begun, held, (piece.length, t.length), s.ahead ++ t⟩,
    !isLast || !t.isEmpty)

/-- The next `wanted` characters, or fewer at the end, and the file behind them. -/
def read (wanted : Nat) : (fuel : Nat) → Stream → Except EncodingFault (Text × Stream)
  | 0, s => .ok (s.ahead, { s with ahead := [] })
  | fuel + 1, s => do
    let missing := wanted - s.ahead.length
    if missing = 0 then return (s.ahead.take wanted, { s with ahead := s.ahead.drop wanted })
    let (s, isMore) ← s.take missing
    if isMore then read wanted fuel s else return (s.ahead, { s with ahead := [] })

end Stream

end GridGauge.Utf8
