import GridGauge.Encoding.Stream
import GridGauge.Yaml.Cursor

/-!
# The text of a YAML file

A file is read in blocks of characters, the first two of them at once, and
each other when the text before it has been gone through. So the blocks in
front of one that cannot be read still count. Such a block has bytes that are
no text, or characters that may not stand in YAML.
-/

namespace GridGauge.Yaml

/-- Why a block of a file cannot be read. -/
inductive Obstacle
  /-- Its bytes encode no text. -/
  | encoding (fault : EncodingFault)
  /-- A character in it may not stand in a YAML text. -/
  | character
  deriving DecidableEq, Repr

/-- What can be read of a file, and what is in the way of reading on. -/
structure Source where
  text : Text
  obstacle : Option Obstacle
  deriving DecidableEq, Repr, Inhabited

/-- May the character stand in a YAML text? -/
def isAllowed (c : CodePoint) : Bool :=
  c == 9 || c == 10 || c == 13 || (0x20 ≤ c && c ≤ 0x7E) || c == 0x85
    || (0xA0 ≤ c && c ≤ 0xD7FF) || (0xE000 ≤ c && c ≤ 0xFFFD) || (0x10000 ≤ c && c ≤ 0x10FFFF)

namespace Source

/-- The number of characters in a block. -/
def blockLength : Nat := 4096

/-- The next `count` blocks of a file, each taken in at most `pieces` pieces, and the file behind
    them. -/
def readBlocks (pieces : Nat) : (count : Nat) → Utf8.Stream →
    Except EncodingFault (Text × Utf8.Stream)
  | 0, s => .ok ([], s)
  | count + 1, s => do
    let (t, s) ← s.read blockLength pieces
    let (more, s) ← readBlocks pieces count s
    return (t ++ more, s)

/-- What can be read of a file, `count` blocks at once to begin with, behind the text `before`. -/
def blocks (pieces : Nat) : (fuel : Nat) → (count : Nat) → (before : Text) → Utf8.Stream → Source
  | 0, _, before, _ => ⟨before, none⟩
  | fuel + 1, count, before, s =>
    match readBlocks pieces count s with
    | .error fault => ⟨before, some (.encoding fault)⟩
    | .ok (t, s) =>
      if !t.all isAllowed then ⟨before, some .character⟩
      else if t.length < count * blockLength then ⟨before ++ t, none⟩
      else blocks pieces fuel 1 (before ++ t) s

/-- What can be read of a file. -/
def ofBytes (bytes : Bytes) : Source :=
  blocks (bytes.length + 3) (bytes.length + 1) 2 [] (.ofBytes bytes)

end Source

end GridGauge.Yaml
