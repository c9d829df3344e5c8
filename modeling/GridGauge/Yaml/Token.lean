import GridGauge.Yaml.Tag

/-!
# The tokens of a YAML text

The parts a text is made of. Indentation shows as tokens of its own, which
open and close blocks; so does a key, even where nothing but the colon behind
it tells that it is one.

`Token.scan` goes through the text from left to right. It keeps the
indentation of the open blocks, the depth of brackets, and for each depth the
place where a key may have started: when the colon comes, the key's token is
put in there. A key is on one line and at most 1024 characters long.

What goes wrong in a text matters only to who wants to read that far: the
tokens in front of a fault are told all the same, up to the first place where
a key may have started, as there a token may still have to be put in.
-/

namespace GridGauge.Yaml

/-- How a scalar is written. -/
inductive ScalarStyle
  | plain
  | quoted
  deriving DecidableEq, Repr

/-- A part of a YAML text. -/
inductive Token
  | directive (d : Directive)
  | documentStart
  | documentEnd
  | blockSequenceStart
  | blockMappingStart
  | blockEnd
  | flowSequenceStart
  | flowSequenceEnd
  | flowMappingStart
  | flowMappingEnd
  | flowEntry
  | blockEntry
  | key
  | value
  | alias (name : Text)
  | anchor (name : Text)
  | tag (tag : WrittenTag)
  | scalar (style : ScalarStyle) (text : Text)
  deriving DecidableEq, Repr

/-- A place where a key may have started. -/
structure KeyStart where
  /-- The number of tokens before it. -/
  tokens : Nat
  /-- Can there be nothing but a key? -/
  required : Bool
  place : Cursor

/-- How far a text has been read. -/
structure Scan where
  cursor : Cursor
  /-- The tokens so far, the last first. -/
  tokens : List Token
  /-- Their number. -/
  count : Nat
  /-- The column of the innermost block, `-1` outside of all. -/
  indent : Int
  /-- The columns of the blocks around it, from the inside out. -/
  outer : List Int
  /-- The number of brackets that are open. -/
  depth : Nat
  /-- May a key start here? -/
  allowKey : Bool
  /-- The places where a key may have started, each with the number of brackets open there. -/
  starts : List (Nat × KeyStart)

namespace Scan

/-- The start of a text. -/
def ofText (t : Text) : Scan := ⟨.ofText t, [], 0, -1, [], 0, true, []⟩

/-- Is the scan inside of brackets? -/
def inFlow (s : Scan) : Bool := s.depth != 0

/-- The scan with one more token. -/
def emit (s : Scan) (t : Token) : Scan := { s with tokens := t :: s.tokens, count := s.count + 1 }

/-- The scan with tokens put in behind the first `n`. -/
def insert (s : Scan) (n : Nat) (new : List Token) : Scan :=
  let behind := s.count - n
  { s with
    tokens := s.tokens.take behind ++ new.reverse ++ s.tokens.drop behind
    count := s.count + new.length }

/-! ## Keys -/

/-- The scan without the place where a key of this depth may have started. -/
def dropStart (s : Scan) : Except Error Scan :=
  match s.starts.lookup s.depth with
  | some k =>
    if k.required then .error .malformed
    else .ok { s with starts := s.starts.filter fun e => e.1 != s.depth }
  | none => .ok s

/-- The scan with a key that may start here. -/
def saveStart (s : Scan) : Except Error Scan :=
  if s.allowKey then do
    let required := !s.inFlow && s.indent == s.cursor.column
    let s ← s.dropStart
    return { s with starts := (s.depth, ⟨s.count, required, s.cursor⟩) :: s.starts }
  else .ok s

/-- Has a key that started at `k` become impossible here? -/
def isStale (s : Scan) (k : KeyStart) : Bool :=
  k.place.line != s.cursor.line || 1024 < s.cursor.index - k.place.index

/-- The scan without the keys that have become impossible. -/
def dropStale (s : Scan) : Except Error Scan :=
  if s.starts.any fun e => s.isStale e.2 && e.2.required then .error .malformed
  else .ok { s with starts := s.starts.filter fun e => !s.isStale e.2 }

/-! ## Indentation -/

/-- The scan with all blocks closed whose column is right of `column`. -/
def unwind (column : Int) : (outer : List Int) → Scan → Scan
  | [], s => s
  | o :: os, s =>
    if !s.inFlow && column < s.indent then
      unwind column os { s.emit .blockEnd with indent := o, outer := os }
    else s

/-- The scan with all blocks closed whose column is right of `column`. -/
def unwindTo (s : Scan) (column : Int) : Scan := s.unwind column s.outer

/-- Would a block at this column be a new one? -/
def opens (s : Scan) (column : Nat) : Bool := s.indent < column

/-- The scan with a block at a new column. -/
def indentTo (s : Scan) (column : Nat) : Scan :=
  { s with indent := column, outer := s.indent :: s.outer }

/-- The scan with a block opened by `t` here, if the column is a new one. -/
def openBlock (s : Scan) (t : Token) : Scan :=
  if s.opens s.cursor.column then (s.indentTo s.cursor.column).emit t else s

/-! ## Single tokens -/

/-- The scan behind a sign of `n` characters. -/
def sign (s : Scan) (n : Nat) (t : Token) : Scan :=
  { s.emit t with cursor := s.cursor.advance n }

/-- The scan behind a mark at the start of a line that ends all blocks. -/
def atTop (s : Scan) : Except Error Scan := do
  let s ← (s.unwindTo (-1)).dropStart
  return { s with allowKey := false }

/-- The scan behind the blanks and comments ahead. -/
def toNext : (fuel : Nat) → Scan → Scan
  | 0, s => s
  | fuel + 1, s =>
    let c := (s.cursor.skip (· == 32)).skipComment
    if isBreak c.here then
      toNext fuel { s with cursor := c.lineBreak.2, allowKey := s.allowKey || !s.inFlow }
    else { s with cursor := c }

/-- The scan behind a directive. -/
def directive (s : Scan) : Except Error Scan := do
  let s ← s.atTop
  let (d, c) ← Yaml.directive s.cursor
  return { s.emit (.directive d) with cursor := c }

/-- The scan behind the name of an alias or anchor. -/
def named (s : Scan) (t : Text → Token) : Except Error Scan := do
  let s ← s.saveStart
  let (name, c) := s.cursor.next.span isNameCharacter
  require (!name.isEmpty
    && (isBlankOrEnd c.here || ("?:,]\x7d%@\x60" : Text).contains c.here))
  return { s.emit (t name) with cursor := c, allowKey := false }

/-- The scan behind a tag. -/
def tagged (s : Scan) : Except Error Scan := do
  let s ← s.saveStart
  let (tag, c) ← writtenTag s.cursor
  return { s.emit (.tag tag) with cursor := c, allowKey := false }

/-- The scan behind an opening bracket. -/
def openFlow (s : Scan) (t : Token) : Except Error Scan := do
  let s ← s.saveStart
  return { s.sign 1 t with depth := s.depth + 1, allowKey := true }

/-- The scan behind a closing bracket, of which there is none without an opening one. -/
def closeFlow (s : Scan) (t : Token) : Except Error Scan := do
  require s.inFlow
  let s ← s.dropStart
  return { s.sign 1 t with depth := s.depth - 1, allowKey := false }

/-- The scan behind a comma. -/
def flowEntry (s : Scan) : Except Error Scan := do
  let s ← s.dropStart
  return { s.sign 1 .flowEntry with allowKey := true }

/-- The scan behind the dash of an item. -/
def blockEntry (s : Scan) : Except Error Scan := do
  require (s.inFlow || s.allowKey)
  let s := if s.inFlow then s else s.openBlock .blockSequenceStart
  let s ← s.dropStart
  return { s.sign 1 .blockEntry with allowKey := true }

/-- The scan behind the question mark of a key. -/
def explicitKey (s : Scan) : Except Error Scan := do
  require (s.inFlow || s.allowKey)
  let s := if s.inFlow then s else s.openBlock .blockMappingStart
  let s ← s.dropStart
  return { s.sign 1 .key with allowKey := !s.inFlow }

/-- The scan behind the colon of a value. If a key may have started before, it did. -/
def value (s : Scan) : Except Error Scan := do
  match s.starts.lookup s.depth with
  | some k =>
    let s := { s with starts := s.starts.filter fun e => e.1 != s.depth }
    let s := if !s.inFlow && s.opens k.place.column then
        (s.indentTo k.place.column).insert k.tokens [.blockMappingStart, .key]
      else s.insert k.tokens [.key]
    return { s.sign 1 .value with allowKey := false }
  | none =>
    require (s.inFlow || s.allowKey)
    let s := if s.inFlow then s else s.openBlock .blockMappingStart
    let s ← s.dropStart
    return { s.sign 1 .value with allowKey := !s.inFlow }

/-- The scan behind a block scalar. -/
def blockScalar (s : Scan) : Except Error Scan := do
  let s ← s.dropStart
  let (t, c) ← block s.indent s.cursor
  return { s.emit (.scalar .quoted t) with cursor := c, allowKey := true }

/-- The scan behind a quoted scalar. -/
def quotedScalar (s : Scan) : Except Error Scan := do
  let s ← s.saveStart
  let (t, c) ← quoted s.cursor
  return { s.emit (.scalar .quoted t) with cursor := c, allowKey := false }

/-- The scan behind a plain scalar. -/
def plainScalar (s : Scan) : Except Error Scan := do
  let s ← s.saveStart
  let p := plain s.inFlow (s.indent + 1).toNat s.cursor
  return { s.emit (.scalar .plain p.text) with cursor := p.after, allowKey := p.broken }

/-- May a plain scalar start with `c`, with `next` behind it? -/
def startsPlain (flow : Bool) (c next : CodePoint) : Bool :=
  !(isBlankOrEnd c || ("-?:,[]\x7b\x7d#&*!|>'\"%@\x60" : Text).contains c)
    || (!isBlankOrEnd next && (c == 0x2D || (!flow && (c == 0x3F || c == 0x3A))))

/-- The scan behind the token ahead, of which there is one. -/
def token (s : Scan) : Except Error Scan :=
  let c := s.cursor.here
  let next := s.cursor.peek 1
  let atStart := s.cursor.column == 0
  if c == 0x25 && atStart then s.directive
  else if atStart && s.cursor.atMark "---" then return (← s.atTop).sign 3 .documentStart
  else if atStart && s.cursor.atMark "..." then return (← s.atTop).sign 3 .documentEnd
  else if c == 0x5B then s.openFlow .flowSequenceStart
  else if c == 0x7B then s.openFlow .flowMappingStart
  else if c == 0x5D then s.closeFlow .flowSequenceEnd
  else if c == 0x7D then s.closeFlow .flowMappingEnd
  else if c == 0x2C then s.flowEntry
  else if c == 0x2D && isBlankOrEnd next then s.blockEntry
  else if c == 0x3F && (s.inFlow || isBlankOrEnd next) then s.explicitKey
  else if c == 0x3A && (s.inFlow || isBlankOrEnd next) then s.value
  else if c == 0x2A then s.named .alias
  else if c == 0x26 then s.named .anchor
  else if c == 0x21 then s.tagged
  else if (c == 0x7C || c == 0x3E) && !s.inFlow then s.blockScalar
  else if c == 0x27 || c == 0x22 then s.quotedScalar
  else if startsPlain s.inFlow c next then s.plainScalar
  else .error .malformed

/-- The tokens so far in front of which none can be put in any more. -/
def settled (s : Scan) : List Token :=
  s.tokens.reverse.take (s.starts.foldl (fun n e => min n e.2.tokens) s.count)

/-- The scan behind the next token, or at the end of the text, and whether it is there. Of a text
    that is cut off the end cannot be read. -/
def step (isCut : Bool) (s : Scan) : Except Error (Scan × Bool) := do
  let s := s.toNext (s.cursor.left + 1)
  if s.cursor.rest.isEmpty && isCut then throw .ended
  let s ← s.dropStale
  let s := s.unwindTo s.cursor.column
  if s.cursor.rest.isEmpty then return (← (s.unwindTo (-1)).dropStart, true)
  let s ← s.token
  if s.cursor.rest.isEmpty && isCut then throw .ended
  return (s, false)

end Scan

/-- The tokens of a text, up to the fault that ends it if there is one. -/
structure Tokens where
  list : List Token
  fault : Option Error
  deriving DecidableEq, Repr, Inhabited

/-- The tokens of the text from here on, with all before; `before` is the scan one step back. -/
def Scan.finish (isCut : Bool) : (fuel : Nat) → (before s : Scan) → Tokens
  | 0, before, _ => ⟨before.settled, some .malformed⟩
  | fuel + 1, before, s =>
    match s.dropStale with
    | .error e => ⟨before.settled, some e⟩
    | .ok s =>
      match s.step isCut with
      | .error e => ⟨s.settled, some e⟩
      | .ok (s, true) => ⟨s.tokens.reverse, none⟩
      | .ok (next, false) => finish isCut fuel s next

/-- The tokens of a text, of which more cannot be read if it is cut off. -/
def Token.scan (isCut : Bool) (t : Text) : Tokens :=
  let s := Scan.ofText (if t.head? = some 0xFEFF then t.drop 1 else t)
  s.finish isCut (t.length + 1) s

end GridGauge.Yaml
