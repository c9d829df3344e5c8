import GridGauge.Yaml.Cursor

/-!
# Scalars in writing

A scalar is written plainly, between quotes or as a block. A line break inside
a plain or quoted scalar is folded: one break counts as a blank, and each
further one as a line feed. A block keeps its breaks or folds them, and says
how it ends.
-/

namespace GridGauge.Yaml

/-- Why a text is no YAML document of the kinds read here. -/
inductive Error
  /-- It breaks the rules of YAML. -/
  | malformed
  /-- An escape has a number that no code point has. -/
  | noCodePoint (code : Nat)
  /-- Its nodes are nested too deep. -/
  | tooDeep
  /-- It ends where it must go on, or there is no reading on. -/
  | ended
  deriving DecidableEq, Repr

/-- Fails when the condition does not hold. -/
def require (holds : Bool) : Except Error Unit := if holds then .ok () else .error .malformed

/-! ## Plain scalars -/

/-- Does a plain scalar end at `c`, with `next` behind it? -/
def endsPlain (flow : Bool) (c next : CodePoint) : Bool :=
  isBlankOrEnd c
    || (c == 0x3A && (isBlankOrEnd next || (flow && (",[]\x7b\x7d" : Text).contains next)))
    || (flow && (",?[]\x7b\x7d" : Text).contains c)

/-- The number of characters up to the end of a plain scalar or a blank in it. -/
def plainLength (flow : Bool) : Text → Nat
  | [] => 0
  | c :: rest => if endsPlain flow c (rest.headD 0) then 0 else plainLength flow rest + 1

/-- The breaks behind the first in a plain scalar, and the place behind them; none if a document
    starts or ends there. -/
def plainBreaks : (fuel : Nat) → (before : Text) → Cursor → Option (Text × Cursor)
  | 0, before, c => some (before, c)
  | fuel + 1, before, c =>
    if c.here == 32 then plainBreaks fuel before c.next
    else if isBreak c.here then
      let (b, c) := c.lineBreak
      if c.atDocumentMark then none else plainBreaks fuel (before ++ b) c
    else some (before, c)

/-- What stands for a line break and the breaks behind it in a scalar that is folded. -/
def foldBreaks (first more : Text) : Text :=
  if first != [10] then first ++ more else if more.isEmpty then [32] else more

/-- What stands between two words of a plain scalar: the text for it, empty if the scalar ends
    here; the place behind it; and whether there is a line break. -/
def plainSpace (c : Cursor) : Text × Cursor × Bool :=
  let (blanks, c) := c.span (· == 32)
  if isBreak c.here then
    let (first, c) := c.lineBreak
    if c.atDocumentMark then ([], c, true)
    else
      match plainBreaks (c.left + 1) [] c with
      | none => ([], (c.skip fun x => x == 32 || isBreak x), true)
      | some (more, c) => (foldBreaks first more, c, true)
  else (blanks, c, false)

/-- What is read of a plain scalar. -/
structure Plain where
  text : Text
  /-- The place behind it. -/
  after : Cursor
  /-- Does it end with a line break, so that a key may follow? -/
  broken : Bool

/-- The plain scalar that goes on here, after the text `before` and the space `space`. Outside of
    brackets its lines are indented by `indent` at least. -/
def plainFrom (flow : Bool) (indent : Nat) :
    (fuel : Nat) → (before space : Text) → (broken : Bool) → Cursor → Plain
  | 0, before, _, broken, c => ⟨before, c, broken⟩
  | fuel + 1, before, space, broken, c =>
    let n := plainLength flow c.rest
    if c.here == 0x23 || n == 0 then ⟨before, c, broken⟩
    else
      let before := before ++ space ++ c.rest.take n
      let (space, c, broken) := plainSpace (c.advance n)
      if space.isEmpty || c.here == 0x23 || (!flow && c.column < indent) then ⟨before, c, broken⟩
      else plainFrom flow indent fuel before space broken c

/-- The plain scalar ahead. -/
def plain (flow : Bool) (indent : Nat) (c : Cursor) : Plain :=
  plainFrom flow indent (c.left + 1) [] [] false c

/-! ## Quoted scalars -/

/-- The character of an escape of one character between quotation marks. -/
def escapes : List (CodePoint × CodePoint) :=
  [(0x30, 0), (0x61, 7), (0x62, 8), (0x74, 9), (9, 9), (0x6E, 10), (0x76, 11), (0x66, 12),
    (0x72, 13), (0x65, 27), (0x20, 32), (0x22, 0x22), (0x5C, 0x5C), (0x2F, 0x2F), (0x4E, 0x85),
    (0x5F, 0xA0), (0x4C, 0x2028), (0x50, 0x2029)]

/-- The number of hexadecimal digits of a numeric escape. -/
def escapeDigits? (c : CodePoint) : Option Nat :=
  if c == 0x78 then some 2 else if c == 0x75 then some 4 else if c == 0x55 then some 8 else none

/-- The breaks behind the first in a quoted scalar, and the place behind them. -/
def quotedBreaks : (fuel : Nat) → (before : Text) → Cursor → Except Error (Text × Cursor)
  | 0, before, c => .ok (before, c)
  | fuel + 1, before, c =>
    if c.atDocumentMark then .error .malformed
    else
      let c := c.skip fun x => x == 32 || x == 9
      if isBreak c.here then
        let (b, c) := c.lineBreak
        quotedBreaks fuel (before ++ b) c
      else .ok (before, c)

/-- The text of the escape behind a backslash, and the place behind it. -/
def escape (c : Cursor) : Except Error (Text × Cursor) :=
  match escapes.find? fun e => e.1 == c.here with
  | some (_, x) => .ok ([x], c.next)
  | none =>
    match escapeDigits? c.here with
    | some n =>
      let digits := c.next.rest.take n
      match digits.mapM Text.hexValue? with
      | some values =>
        if values.length = n then
          let code := values.foldl (fun m v => 16 * m + v) 0
          if code < 0x110000 then .ok ([code], c.next.advance n) else .error (.noCodePoint code)
        else .error .malformed
      | none => .error .malformed
    | none =>
      if isBreak c.here then
        let (_, c) := c.lineBreak
        quotedBreaks (c.left + 1) [] c
      else .error .malformed

/-- The quoted scalar that goes on here, after the text `before`, up to its closing quote. -/
def quotedFrom (quote : CodePoint) :
    (fuel : Nat) → (before : Text) → Cursor → Except Error (Text × Cursor)
  | 0, _, _ => .error .malformed
  | fuel + 1, before, c =>
    let x := c.here
    if x == quote then
      if quote == 0x27 && c.peek 1 == 0x27 then quotedFrom quote fuel (before ++ [x]) (c.advance 2)
      else .ok (before, c.next)
    else if x == 0 then .error .ended
    else if quote == 0x22 && x == 0x5C then
      match escape c.next with
      | .ok (t, c) => quotedFrom quote fuel (before ++ t) c
      | .error e => .error e
    else if x == 32 || x == 9 || isBreak x then
      let (blanks, c) := c.span fun x => x == 32 || x == 9
      if isBreak c.here then
        let (first, c) := c.lineBreak
        match quotedBreaks (c.left + 1) [] c with
        | .ok (more, c) => quotedFrom quote fuel (before ++ foldBreaks first more) c
        | .error e => .error e
      else quotedFrom quote fuel (before ++ blanks) c
    else quotedFrom quote fuel (before ++ [x]) c.next

/-- The quoted scalar whose opening quote is ahead. -/
def quoted (c : Cursor) : Except Error (Text × Cursor) :=
  quotedFrom c.here (c.left + 1) [] c.next

/-! ## Blocks -/

/-- What becomes of the line breaks at the end of a block. -/
inductive Chomping
  /-- All are dropped. -/
  | strip
  /-- The first is kept. -/
  | clip
  /-- All are kept. -/
  | keep
  deriving DecidableEq, Repr

/-- The chomping that a sign asks for. -/
def chomping? (c : CodePoint) : Option Chomping :=
  if c == 0x2B then some .keep else if c == 0x2D then some .strip else none

/-- The indentation that a digit asks for, which is not zero. -/
def indentation? (c : CodePoint) : Option Nat :=
  if Text.isDecimalDigit c then some (c - 48) else none

/-- What the first line of a block asks for, in either order, and the place behind it. -/
def blockHeader (c : Cursor) : Except Error (Chomping × Option Nat × Cursor) := do
  let (chomping, indentation, c) :=
    match chomping? c.here, indentation? c.here with
    | some s, _ =>
      match indentation? c.next.here with
      | some n => (s, some n, c.advance 2)
      | none => (s, none, c.next)
    | none, some n =>
      match chomping? c.next.here with
      | some s => (s, some n, c.advance 2)
      | none => (.clip, some n, c.next)
    | none, none => (.clip, none, c)
  require (indentation != some 0)
  require (c.here == 32 || isBreakOrEnd c.here)
  let c := (c.skip (· == 32)).skipComment
  require (isBreakOrEnd c.here)
  return (chomping, indentation, c.lineBreak.2)

/-- The empty lines in front of a block, the widest indentation of them and the first line with
    text, and the place of that text. -/
def blockIndentation :
    (fuel : Nat) → (breaks : Text) → (widest : Nat) → Cursor → Text × Nat × Cursor
  | 0, breaks, widest, c => (breaks, widest, c)
  | fuel + 1, breaks, widest, c =>
    if c.here == 32 then blockIndentation fuel breaks (max widest c.next.column) c.next
    else if isBreak c.here then
      let (b, c) := c.lineBreak
      blockIndentation fuel (breaks ++ b) widest c
    else (breaks, widest, c)

/-- The place behind the blanks up to a column. -/
def indentTo (column : Nat) (c : Cursor) : Cursor :=
  c.advance ((c.rest.takeWhile (· == 32)).length.min (column - c.column))

/-- The empty lines inside a block, and the place behind the indentation of the line after them. -/
def blockBreaks (column : Nat) : (fuel : Nat) → (before : Text) → Cursor → Text × Cursor
  | 0, before, c => (before, c)
  | fuel + 1, before, c =>
    let c := indentTo column c
    if isBreak c.here then
      let (b, c) := c.lineBreak
      blockBreaks column fuel (before ++ b) c
    else (before, c)

/-- Is there a line of a block ahead, whose lines start at `column`? -/
def atBlockLine (column : Nat) (c : Cursor) : Bool := c.column == column && c.here != 0

/-- The lines of a block from here on, after the text `before` and the empty lines `breaks`: the
    text up to its last line, the break that ends it, the empty lines behind, and the place. -/
def blockLines (folded : Bool) (column : Nat) :
    (fuel : Nat) → (before breaks : Text) → Cursor → Text × Text × Text × Cursor
  | 0, before, breaks, c => (before, [], breaks, c)
  | fuel + 1, before, breaks, c =>
    let isText (c : Cursor) : Bool := !(c.here == 32 || c.here == 9)
    let text := isText c
    let (line, c) := c.span (!isBreakOrEnd ·)
    let before := before ++ breaks ++ line
    let (ending, c) := c.lineBreak
    let (breaks, c) := blockBreaks column (c.left + 1) [] c
    if atBlockLine column c then
      let joint := if folded && ending == [10] && text && isText c then
          (if breaks.isEmpty then [32] else [])
        else ending
      blockLines folded column fuel (before ++ joint) breaks c
    else (before, ending, breaks, c)

/-- The block whose sign is ahead; what it is in is indented by `indent`, which is `-1` at the
    top. -/
def block (indent : Int) (c : Cursor) : Except Error (Text × Cursor) := do
  let folded := c.here == 0x3E
  let (chomping, indentation, c) ← blockHeader c.next
  let least := (max (indent + 1) 1).toNat
  let (column, breaks, c) := match indentation with
    | some n =>
      let column := least + n - 1
      let (breaks, c) := blockBreaks column (c.left + 1) [] c
      (column, breaks, c)
    | none =>
      let (breaks, widest, c) := blockIndentation (c.left + 1) [] 0 c
      (max least widest, breaks, c)
  let (text, ending, breaks, c) :=
    if atBlockLine column c then blockLines folded column (c.left + 1) [] breaks c
    else ([], [], breaks, c)
  return match chomping with
    | .strip => (text, c)
    | .clip => (text ++ ending, c)
    | .keep => (text ++ ending ++ breaks, c)

end GridGauge.Yaml
