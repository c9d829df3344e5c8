import GridGauge.Literal.Number
import GridGauge.Text.Identifier

/-!
# Tokens of expressions

An expression is a list of tokens: names and the words of the language,
numbers, texts, and signs. Lines count only outside of brackets; a backslash
at the end of a line goes on with the next, and a comment reaches to the end
of its line.

Reading stops at the first thing that no token begins with
(`Tokens.ending`), which need not be the first flaw of the expression: what
stands before it is looked at first.
-/

namespace GridGauge.Literal

/-- What a token is. -/
inductive TokenKind
  | name (t : Text)
  /-- A word that is no name. -/
  | word (t : Text)
  | number (n : Numeral)
  /-- A text as it is written: the letters in front, the mark, how many marks there are on either
      side, and what is between. -/
  | text (letters : Text) (marks : Nat) (content : Text)
  | sign (t : Text)
  | newline
  /-- Blanks at the start of a line. -/
  | indent
  /-- The end. -/
  | finish
  deriving DecidableEq, Repr

/-- A token. -/
structure Token where
  kind : TokenKind
  /-- The number of brackets that are open behind it. -/
  depth : Nat
  line : Nat
  deriving DecidableEq, Repr

/-- The words that are no names. -/
def reservedWords : List Text :=
  Text.splitAtEach 32 ("False None True and as assert async await break class continue def del "
    ++ "elif else except finally for from global if import in is lambda nonlocal not or pass "
    ++ "raise return try while with yield")

/-- The signs of more than one character, longer ones first. -/
def longSigns : List Text :=
  Text.splitAtEach 32
    "... **= //= <<= >>= == != <= >= <> -> := += -= *= /= %= &= |= ^= @= ** // << >>"

/-- Where the reader of tokens stands. -/
structure Place where
  rest : Text
  /-- The brackets that are open, the innermost first, each with its line. -/
  brackets : List (CodePoint × Nat) := []
  line : Nat := 1
  /-- Does a line start here? -/
  atStart : Bool := true

namespace Place

variable (p : Place)

/-- A token that ends at the place. -/
def token (kind : TokenKind) : Token := ⟨kind, p.brackets.length, p.line⟩

/-- What comes of a step of the reader. -/
inductive Step
  | passed (p : Place)
  | token (t : Token) (p : Place)

/-- Is the character a blank between tokens? -/
def isSpace (c : CodePoint) : Bool := c == 32 || c == 9 || c == 12

/-- The first character that does not belong in an identifier. -/
def strayCharacter? : Text → Option CodePoint
  | [] => none
  | c :: rest =>
    if Text.startsIdentifier c then rest.find? (!Text.isInIdentifier ·) else some c

/-- May these letters stand in front of a text? -/
def areTextLetters (letters : Text) : Bool :=
  let small := letters.lowerLetters
  (["", "b", "r", "u", "f", "br", "rb", "fr", "rf"] : List Text).contains small

/-- What is before the marks that close a text, and what is behind them; a backslash goes with the
    character behind it. `seen` counts the marks just before the place. -/
def content? (mark : CodePoint) (marks : Nat) : (seen : Nat) → Text → Option (Text × Text)
  | _, [] => none
  | seen, [c] => if c == mark && seen + 1 == marks then some ([], []) else none
  | seen, c :: d :: rest =>
    if c == mark then
      if seen + 1 == marks then some ([], d :: rest)
      else (content? mark marks (seen + 1) (d :: rest)).map fun (t, rest) => (c :: t, rest)
    else if c == 10 && marks == 1 then none
    else if c == 0x5C then
      (content? mark marks 0 rest).map fun (t, rest) => (c :: d :: t, rest)
    else (content? mark marks 0 (d :: rest)).map fun (t, rest) => (c :: t, rest)

/-- The number of line feeds in a text. -/
def lineFeeds (t : Text) : Nat := (t.filter (· == 10)).length

/-- The number of line feeds in the rest of the expression, but for one at its end. -/
def feedsInside (t : Text) : Nat := lineFeeds t.dropLast

/-- The number of line feeds behind backslashes, up to one that is not, but for one at the end. -/
def passedFeeds : Text → Nat
  | 0x5C :: c :: rest => (if c == 10 && !rest.isEmpty then 1 else 0) + passedFeeds rest
  | c :: rest => if c == 10 then 0 else passedFeeds rest
  | [] => 0

/-- The step over a text, whose marks come after its letters. -/
def stepText (letters : Text) (mark : CodePoint) (rest : Text) : Except Flaw Step :=
  let marks := if Text.startsWith rest [mark, mark] then 3 else 1
  let inside := rest.drop (marks - 1)
  match content? mark marks 0 inside with
  | none =>
    .error (if marks == 3 then .unterminatedLines (p.line + feedsInside inside)
      else .unterminated (p.line + passedFeeds inside))
  | some (content, rest) =>
    let content := content.take (content.length - (marks - 1))
    let q := { p with rest, line := p.line + lineFeeds content }
    .ok (.token (p.token (.text letters marks content)) q)

/-- The step over a name or a word, or over a text with letters in front. What is beyond ASCII in a
    name is looked at when all of it is read. -/
def stepName : Except Flaw Step :=
  let (name, rest) := p.rest.span Numeral.isInWord
  let asText := match rest with
    | mark :: rest =>
      if (mark == 0x22 || mark == 0x27) && areTextLetters name then some (mark, rest) else none
    | [] => none
  match asText with
  | some (mark, rest) => p.stepText name mark rest
  | none =>
    match if name.all (· < 0x80) then none else strayCharacter? name with
    | some c => .error (.character c)
    | none =>
      let kind := if reservedWords.contains name then .word name else .name name
      .ok (.token (p.token kind) { p with rest })

/-- The most brackets in brackets. -/
def depthLimit : Nat := 200

/-- The bracket that a bracket closes. -/
def openingOf? (c : CodePoint) : Option CodePoint :=
  ([(0x29, 0x28), (0x5D, 0x5B), (0x7D, 0x7B)] : List (CodePoint × CodePoint)).lookup c

/-- The step over a sign. -/
def stepSign (c : CodePoint) (rest : Text) : Except Flaw Step :=
  let go (sign : Text) (q : Place) : Except Flaw Step := .ok (.token (q.token (.sign sign)) q)
  match longSigns.find? (Text.startsWith p.rest) with
  | some sign => go sign { p with rest := p.rest.drop sign.length }
  | none =>
    match openingOf? c with
    | some wanted =>
      match p.brackets with
      | [] => .error (.unmatched c)
      | (opening, line) :: outer =>
        if opening == wanted then go [c] { p with rest, brackets := outer }
        else .error (.mismatched c opening (if line == p.line then none else some line))
    | none =>
      if c == 0x28 || c == 0x5B || c == 0x7B then
        if depthLimit ≤ p.brackets.length then .error .tooNested
        else go [c] { p with rest, brackets := (c, p.line) :: p.brackets }
      else if Text.isPrintable c then go [c] { p with rest }
      else .error (.character c)

/-- The step at the start of a line. Blanks count there, unless there is nothing behind them but
    perhaps a comment. -/
def stepStart : Step :=
  let (blanks, rest) := p.rest.span isSpace
  let behind := if rest.head? == some 0x23 then rest.dropWhile (· != 10) else rest
  match behind with
  | 10 :: rest => .passed { p with rest, line := p.line + 1 }
  | _ =>
    let q := { p with rest, atStart := false }
    if blanks.isEmpty || !p.brackets.isEmpty || rest.head? == some 0x23 then .passed q
    else .token (q.token .indent) q

/-- A step of the reader. -/
def step : Except Flaw Step :=
  let neverClosed? : Option Flaw := p.brackets.head?.map fun (c, line) => .neverClosed c line
  if p.atStart then .ok p.stepStart
  else match p.rest with
    | [] =>
      match neverClosed? with
      | some f => .error f
      | none => .ok (.token (p.token .finish) p)
    | c :: rest =>
      if isSpace c then .ok (.passed { p with rest := rest.dropWhile isSpace })
      else if c == 0x23 then .ok (.passed { p with rest := rest.dropWhile (· != 10) })
      else if c == 10 then
        let q := { p with rest, line := p.line + 1, atStart := true }
        .ok (if p.brackets.isEmpty then .token (p.token .newline) q else .passed q)
      else if c == 0x5C then
        match rest with
        | [10] => .error (neverClosed?.getD .unexpectedEnd)
        | 10 :: rest => .ok (.passed { p with rest, line := p.line + 1 })
        | _ => .error .behindBackslash
      else if c == 0x22 || c == 0x27 then p.stepText [] c rest
      else if Text.isDecimalDigit c
          || (c == 0x2E && (rest.head?.map Text.isDecimalDigit).getD false) then do
        let (n, rest) ← Numeral.read p.rest
        let q := { p with rest }
        return .token (q.token (.number n)) q
      else if Numeral.beginsWord c then p.stepName
      else p.stepSign c rest

end Place

/-- The tokens of an expression as far as they can be read. -/
structure Tokens where
  all : List Token
  /-- Why there are no more. -/
  ending : Option Flaw
  /-- The innermost bracket that is open there, and its line. -/
  opening : Option (CodePoint × Nat)
  deriving Repr

/-- The tokens from a place on. -/
def Place.tokens : (fuel : Nat) → Place → Tokens
  | 0, _ => ⟨[], none, none⟩
  | fuel + 1, p =>
    match p.step with
    | .error f => ⟨[], some f, p.brackets.head?⟩
    | .ok (.passed q) => tokens fuel q
    | .ok (.token t q) =>
      if t.kind == .finish then ⟨[t], none, none⟩
      else
        let more := tokens fuel q
        { more with all := t :: more.all }

/-- The tokens of an expression. Each step but the one at the start of a line takes a character. -/
def Tokens.ofText (t : Text) : Tokens := Place.tokens (2 * t.length + 2) { rest := t }

end GridGauge.Literal
