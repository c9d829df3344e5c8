import GridGauge.Encoding.Utf8
import GridGauge.Yaml.ScalarText

/-!
# Tags and directives

A tag tells the type of a node. It is written in full between angle brackets,
or as a handle and the rest of the tag, where the handle stands for how the
tag starts: two handles have a meaning, and directives give others one. An
exclamation mark alone is a tag too.

Directives stand in front of a document. Beside the meaning of handles they
tell the version of YAML, and there may be others, which are passed over.
-/

namespace GridGauge.Yaml

/-- The letters, digits and marks a name is made of. -/
def isNameCharacter (c : CodePoint) : Bool :=
  Text.isDecimalDigit c || Text.isLowerLetter c || Text.isUpperLetter c || c == 0x2D || c == 0x5F

/-- May the character stand in a tag behind its handle? -/
def isTagCharacter (c : CodePoint) : Bool :=
  isNameCharacter c || (";/?:@&=+$,.!~*'()[]%" : Text).contains c

/-- The bytes of the percent escapes ahead, and the place behind them. -/
def tagEscapes : (fuel : Nat) → (before : Bytes) → Cursor → Except Error (Bytes × Cursor)
  | 0, before, c => .ok (before, c)
  | fuel + 1, before, c =>
    if c.here == 0x25 then
      match Text.hexValue? (c.peek 1), Text.hexValue? (c.peek 2) with
      | some m, some n => tagEscapes fuel (before ++ [.ofNat (16 * m + n)]) (c.advance 3)
      | _, _ => .error .malformed
    else .ok (before, c)

/-- The text of a tag ahead, less its handle, with its escapes resolved. -/
def tagTextFrom : (fuel : Nat) → (before : Text) → Cursor → Except Error (Text × Cursor)
  | 0, before, c => .ok (before, c)
  | fuel + 1, before, c => do
    if c.here == 0x25 then
      let (bytes, c) ← tagEscapes (c.left + 1) [] c
      match Utf8.decode false bytes with
      | .ok t => tagTextFrom fuel (before ++ t) c
      | .error _ => .error .malformed
    else if isTagCharacter c.here then tagTextFrom fuel (before ++ [c.here]) c.next
    else .ok (before, c)

/-- The text of a tag ahead, of which there must be some. -/
def tagText (c : Cursor) : Except Error (Text × Cursor) := do
  require (isTagCharacter c.here)
  tagTextFrom (c.left + 1) [] c

/-- The handle ahead: an exclamation mark, or a name between two of them. -/
def tagHandle (c : Cursor) : Except Error (Text × Cursor) := do
  require (c.here == 0x21)
  if c.peek 1 == 32 then return ("!", c.next)
  let (name, c) := c.next.span isNameCharacter
  require (c.here == 0x21)
  return (0x21 :: name ++ [0x21], c.next)

/-- Is it a blank, or the end of the text or of a line? A tabulator is none here. -/
def isSpaceOrEnd (c : CodePoint) : Bool := c == 32 || isBreakOrEnd c

/-- A tag as it is written: its handle, if it has one, and the rest of it. -/
structure WrittenTag where
  handle : Option Text
  text : Text
  deriving DecidableEq, Repr

/-- The tag ahead, and the place behind it. -/
def writtenTag (c : Cursor) : Except Error (WrittenTag × Cursor) := do
  let (tag, c) ←
    if c.peek 1 == 0x3C then do
      let (t, c) ← tagText (c.advance 2)
      require (c.here == 0x3E)
      pure (WrittenTag.mk none t, c.next)
    else if isBlankOrEnd (c.peek 1) then pure (WrittenTag.mk none "!", c.next)
    else if (c.next.rest.takeWhile (!isSpaceOrEnd ·)).contains 0x21 then do
      let (handle, c) ← tagHandle c
      let (t, c) ← tagText c
      pure (WrittenTag.mk (some handle) t, c)
    else do
      let (t, c) ← tagText c.next
      pure (WrittenTag.mk (some "!") t, c)
  require (isSpaceOrEnd c.here)
  return (tag, c)

/-- A directive. -/
inductive Directive
  /-- The first number of the version of YAML. -/
  | version (major : Nat)
  /-- What a handle of tags stands for. -/
  | handle (handle meaning : Text)
  | other
  deriving DecidableEq, Repr

/-- The number ahead, and the place behind it. -/
def versionNumber (c : Cursor) : Except Error (Nat × Cursor) := do
  let (digits, c) := c.span Text.isDecimalDigit
  require (!digits.isEmpty)
  return (Text.decimalValue digits, c)

/-- The directive whose percent sign is ahead, and the place behind its line. -/
def directive (c : Cursor) : Except Error (Directive × Cursor) := do
  let (name, c) := c.next.span isNameCharacter
  require (!name.isEmpty && isSpaceOrEnd c.here)
  let (d, c) ←
    if name == "YAML" then do
      let (major, c) ← versionNumber (c.skip (· == 32))
      require (c.here == 0x2E)
      let (_, c) ← versionNumber c.next
      require (isSpaceOrEnd c.here)
      pure (Directive.version major, c)
    else if name == "TAG" then do
      let (handle, c) ← tagHandle (c.skip (· == 32))
      require (c.here == 32)
      let (meaning, c) ← tagText (c.skip (· == 32))
      require (isSpaceOrEnd c.here)
      pure (Directive.handle handle meaning, c)
    else pure (Directive.other, c.skip (!isBreakOrEnd ·))
  let c := (c.skip (· == 32)).skipComment
  require (isBreakOrEnd c.here)
  return (d, c.lineBreak.2)

end GridGauge.Yaml
