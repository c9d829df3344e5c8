import GridGauge.Encoding.Utf16
import GridGauge.Json
import GridGauge.Number.Shortest

/-!
# Writing JSON

A `Style` says what stands between the parts of a value, whether text beyond
ASCII is written as it is or in escapes, and how numbers are laid out. Numbers
that no JSON text can hold are written as the words `NaN`, `Infinity` and
`-Infinity`, or as null.
-/

namespace GridGauge.Json

/-- How a value is laid out. -/
structure Style where
  /-- Between an item or member and the next. -/
  comma : Text
  /-- Between a key and its value. -/
  colon : Text
  /-- The number of blanks by which each level is indented, if each item takes its own line. -/
  indent : Option Nat
  /-- Is everything beyond ASCII escaped? -/
  ascii : Bool
  /-- The layout of floating-point numbers. -/
  layout : Layout
  /-- Are there words for numbers that are not finite? -/
  hasWords : Bool

namespace Style

/-- On one line, with blanks behind commas and colons. -/
def spaced : Style := ⟨", ", ": ", none, true, .plain, true⟩

/-- An item to a line, two blanks to a level. -/
def indented : Style := ⟨",", ": ", some 2, true, .plain, true⟩

/-- On one line without blanks, with text beyond ASCII as it is, numbers in brief and no words
    for those that are not finite. -/
def compact : Style := ⟨",", ":", none, false, .brief, false⟩

/-- The line break in front of an item at the given level. -/
def lineBreak (s : Style) (level : Nat) : Text :=
  match s.indent with
  | none => []
  | some n => 10 :: Text.repeated (n * level) 32

end Style

/-- A unit as an escape of four digits. -/
def unitEscape (u : Nat) : Text := "\\u" ++ Text.ofHex 4 u

/-- A code point inside a string. -/
def writeCodePoint (ascii : Bool) (c : CodePoint) : Text :=
  match c with
  | 0x22 => "\\\""
  | 0x5C => "\\\\"
  | 8 => "\\b"
  | 12 => "\\f"
  | 10 => "\\n"
  | 13 => "\\r"
  | 9 => "\\t"
  | c =>
    if c < 0x20 then unitEscape c
    else if !ascii || c < 0x7F then [c]
    else if c < 0x10000 then unitEscape c
    else
      unitEscape (0xD800 + (c - 0x10000) / 1024) ++ unitEscape (0xDC00 + (c - 0x10000) % 1024)

/-- A string between its quotation marks. -/
def writeString (ascii : Bool) (t : Text) : Text :=
  "\"" ++ t.flatMap (writeCodePoint ascii) ++ "\""

/-- A floating-point number. -/
def writeFloat (s : Style) (x : Binary64) : Text :=
  if x.isFinite then s.layout.number x
  else if !s.hasWords then "null"
  else if x.isNaN then "NaN"
  else if x.negative then "-Infinity"
  else "Infinity"

mutual

/-- A value at the given level. -/
def write (s : Style) (level : Nat) : Json → Text
  | .null => "null"
  | .bool true => "true"
  | .bool false => "false"
  | .int n => Text.ofInt n
  | .float x => writeFloat s x
  | .string t => writeString s.ascii t
  | .array [] => "[]"
  | .array (v :: vs) =>
    "[" ++ s.lineBreak (level + 1) ++ write s (level + 1) v ++ writeItems s (level + 1) vs
      ++ s.lineBreak level ++ "]"
  | .object [] => "\x7b\x7d"
  | .object ((k, v) :: ms) =>
    "\x7b" ++ s.lineBreak (level + 1) ++ writeString s.ascii k ++ s.colon ++ write s (level + 1) v
      ++ writeMembers s (level + 1) ms ++ s.lineBreak level ++ "\x7d"

/-- The items behind the first, each behind its comma. -/
def writeItems (s : Style) (level : Nat) : List Json → Text
  | [] => []
  | v :: vs => s.comma ++ s.lineBreak level ++ write s level v ++ writeItems s level vs

/-- The members behind the first, each behind its comma. -/
def writeMembers (s : Style) (level : Nat) : List (Text × Json) → Text
  | [] => []
  | (k, v) :: ms =>
    s.comma ++ s.lineBreak level ++ writeString s.ascii k ++ s.colon ++ write s level v
      ++ writeMembers s level ms

end

/-- The value in writing. -/
def toText (s : Style) (v : Json) : Text := write s 0 v

end GridGauge.Json
