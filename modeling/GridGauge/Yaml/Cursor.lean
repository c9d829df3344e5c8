import GridGauge.Text

/-!
# Positions in a YAML text

A cursor is the text that is still to be read, with the number of the line and
column it starts at. Columns matter, as indentation gives a block its
structure; a byte order mark takes none.
-/

namespace GridGauge.Yaml

/-- Does the character end a line? -/
def isBreak (c : CodePoint) : Bool :=
  c == 10 || c == 13 || c == 0x85 || c == 0x2028 || c == 0x2029

/-- Is it the end of the text or of a line? The end of the text is read as a zero. -/
def isBreakOrEnd (c : CodePoint) : Bool := c == 0 || isBreak c

/-- Is it a blank, or the end of the text or of a line? -/
def isBlankOrEnd (c : CodePoint) : Bool := c == 32 || c == 9 || isBreakOrEnd c

/-- A place in a text. -/
structure Cursor where
  /-- The text from here on. -/
  rest : Text
  /-- Its length. -/
  left : Nat
  /-- The number of characters before. -/
  index : Nat
  line : Nat
  column : Nat
  deriving Repr, Inhabited

namespace Cursor

/-- The start of a text. -/
def ofText (t : Text) : Cursor := ⟨t, t.length, 0, 0, 0⟩

/-- The character `n` places ahead, zero at the end of the text. -/
def peek (c : Cursor) (n : Nat) : CodePoint := (c.rest.drop n).headD 0

/-- The character ahead, zero at the end of the text. -/
def here (c : Cursor) : CodePoint := c.peek 0

/-- The place behind the next character. -/
def next (c : Cursor) : Cursor :=
  match c.rest with
  | [] => c
  | x :: rest =>
    if isBreak x && !(x == 13 && rest.head? == some 10) then
      ⟨rest, c.left - 1, c.index + 1, c.line + 1, 0⟩
    else if x == 0xFEFF then ⟨rest, c.left - 1, c.index + 1, c.line, c.column⟩
    else ⟨rest, c.left - 1, c.index + 1, c.line, c.column + 1⟩

/-- The place behind the next `n` characters. -/
def advance : (n : Nat) → Cursor → Cursor
  | 0, c => c
  | n + 1, c => advance n c.next

/-- The place behind all characters of a class. -/
def skip (p : CodePoint → Bool) (c : Cursor) : Cursor :=
  c.advance (c.rest.takeWhile p).length

/-- The characters of a class ahead, and the place behind them. -/
def span (p : CodePoint → Bool) (c : Cursor) : Text × Cursor :=
  let t := c.rest.takeWhile p
  (t, c.advance t.length)

/-- The break ahead, if there is one, and the place behind it. The two separators of Unicode stay
    as they are, and all other breaks are line feeds. -/
def lineBreak (c : Cursor) : Text × Cursor :=
  if c.here == 13 && c.peek 1 == 10 then ([10], c.advance 2)
  else if c.here == 0x2028 || c.here == 0x2029 then ([c.here], c.next)
  else if isBreak c.here then ([10], c.next)
  else ([], c)

/-- The place behind a comment, if one is ahead. -/
def skipComment (c : Cursor) : Cursor :=
  if c.here == 0x23 then c.skip (!isBreakOrEnd ·) else c

/-- Is a mark of three characters ahead that stands by itself? -/
def atMark (c : Cursor) (mark : Text) : Bool :=
  c.rest.take 3 == mark && isBlankOrEnd (c.peek 3)

/-- Is a mark of the start or end of a document ahead? -/
def atDocumentMark (c : Cursor) : Bool := c.atMark "---" || c.atMark "..."

end Cursor

end GridGauge.Yaml
