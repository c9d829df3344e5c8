import GridGauge.Text.Printable

/-!
# Quoted texts

How a message shows a text it complains about: between apostrophes, or
between quotation marks when that spares escaping an apostrophe, with
everything that would not show written as an escape.
-/

namespace GridGauge.Text.Quoted

/-- The apostrophe. -/
def apostrophe : CodePoint := 0x27
/-- The quotation mark. -/
def quotation : CodePoint := 0x22
/-- The backslash, with which each escape begins. -/
def backslash : CodePoint := 0x5C

/-- The mark a text is put between: the apostrophe, unless it occurs and the quotation mark
    does not. -/
def mark (t : Text) : CodePoint :=
  if t.contains apostrophe && !t.contains quotation then quotation else apostrophe

/-- A code point by its number, with as few digits as its size allows: two, four or eight. -/
def numbered (c : CodePoint) : Text :=
  if c < 0x100 then backslash :: 0x78 :: ofHex 2 c
  else if c < 0x10000 then backslash :: 0x75 :: ofHex 4 c
  else backslash :: 0x55 :: ofHex 8 c

/-- One code point between marks `m`: as it stands when it shows, else as the shortest escape. -/
def escape (m : CodePoint) (c : CodePoint) : Text :=
  if c == m || c == backslash then [backslash, c]
  else if c == 9 then [backslash, 0x74]
  else if c == 10 then [backslash, 0x6E]
  else if c == 13 then [backslash, 0x72]
  else if isPrintable c then [c]
  else numbered c

/-- The text between its marks. -/
def encode (t : Text) : Text := mark t :: (t.flatMap (escape (mark t))) ++ [mark t]

/-- Octets, each given as a code point, between their marks. -/
def encodeOctets (t : Text) : Text :=
  let m := mark t
  0x62 :: m :: t.flatMap (fun c => if c < 0x7F then escape m c else numbered c) ++ [m]

/-- The text with all that is not ASCII by its number. -/
def inAscii (t : Text) : Text := t.flatMap fun c => if c < 0x80 then [c] else numbered c

end GridGauge.Text.Quoted
