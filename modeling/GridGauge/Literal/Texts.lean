import GridGauge.Encoding.Utf8
import GridGauge.Literal.Node
import GridGauge.Literal.Token

/-!
# Texts in expressions

The letters in front of a text say what it is: octets with `b`, with `r` a
backslash stands for itself, and with `f` there are fields in braces. Else a
backslash begins an escape. Texts one after the other are one text.
-/

namespace GridGauge.Literal

/-! ## Escapes -/

/-- The octets that a text takes where escapes are looked for: a character beyond ASCII stands there
    as an escape itself. -/
def escapeWidth (t : Text) : Nat := t.length + 9 * (t.filter (0x80 ≤ ·)).length

/-- The number of digits behind the letter of an escape by number. -/
def escapeDigits? (letter : CodePoint) : Option Nat :=
  ([(0x78, 2), (0x75, 4), (0x55, 8)] : List (CodePoint × Nat)).lookup letter

/-- What is wrong with the name of a character, and how many octets of it are read: it stands in
    braces, and is not empty. -/
def nameFlaw? (known : Text → Bool) : Text → Option (Nat × EscapeReason)
  | 0x7B :: rest =>
    match Text.breakAt 0x7D rest with
    | (name, none) => some (1 + escapeWidth name, .malformedName)
    | ([], some _) => some (1, .malformedName)
    | (name, some _) => if known name then none else some (2 + escapeWidth name, .unknownName)
  | _ => some (0, .malformedName)

/-- May a character have this name? Names are in letters of ASCII, digits, blanks and hyphens. -/
def isCharacterName (t : Text) : Bool :=
  1 < t.length && t.all fun c =>
    Text.isLowerLetter c || Text.isUpperLetter c || Text.isDecimalDigit c || c == 32 || c == 0x2D

/-- The first flaw in the escapes of a text, `position` octets behind its start. -/
def escapeFlaw? : (fuel : Nat) → (position : Nat) → Text → Option Flaw
  | 0, _, _ => none
  | _ + 1, _, [] => none
  | fuel + 1, position, 0x5C :: c :: rest =>
    if 0x80 ≤ c then escapeFlaw? fuel (position + 16) rest
    else match escapeDigits? c with
      | some wanted =>
        let digits := (rest.take wanted).takeWhile fun d => (Text.hexValue? d).isSome
        let last := position + 1 + digits.length
        let value := digits.foldl (fun n d => 16 * n + (Text.hexValue? d).getD 0) 0
        if digits.length < wanted then some (.escape position last (.truncated c wanted))
        else if 0x10FFFF < value then some (.escape position last .tooLarge)
        else escapeFlaw? fuel (last + 1) (rest.drop wanted)
      | none =>
        if c == 0x4E then
          match nameFlaw? isCharacterName rest with
          | some (read, reason) => some (.escape position (position + 1 + read) reason)
          | none => escapeFlaw? fuel (position + 2) rest
        else escapeFlaw? fuel (position + 2) rest
  | fuel + 1, position, c :: rest => escapeFlaw? fuel (position + escapeWidth [c]) rest

/-- The first flaw in the escapes of octets. -/
def octetFlaw? : (position : Nat) → Text → Option Flaw
  | position, 0x5C :: 0x78 :: a :: b :: rest =>
    if (Text.hexValue? a).isSome && (Text.hexValue? b).isSome then octetFlaw? (position + 4) rest
    else some (.octetEscape position)
  | position, 0x5C :: 0x78 :: _ => some (.octetEscape position)
  | position, 0x5C :: _ :: rest => octetFlaw? (position + 2) rest
  | position, _ :: rest => octetFlaw? (position + 1) rest
  | _, [] => none

/-- The text up to the first brace, those in the name of a character aside, and the rest. -/
def beforeBrace (isRaw : Bool) : (fuel : Nat) → Text → Text × Text
  | 0, t => (t, [])
  | _ + 1, [] => ([], [])
  | fuel + 1, c :: rest =>
    let escaped := if isRaw || c != 0x5C then none else rest.head?
    if escaped == some 0x4E then
      let name := if (rest.drop 1).head? == some 0x7B then
          let inside := rest.takeWhile (· != 0x7D)
          inside ++ (rest.drop inside.length).take 1
        else [0x4E]
      let (before, behind) := beforeBrace isRaw fuel (rest.drop name.length)
      (c :: name ++ before, behind)
    else if c == 0x7B || c == 0x7D then ([], c :: rest)
    else
      let (before, behind) := beforeBrace isRaw fuel rest
      (c :: before, behind)

/-- The first flaw in a text with fields. Two braces of a kind stand for one. -/
def fieldFlaw? (isRaw : Bool) : (fuel : Nat) → Text → Option Flaw
  | 0, _ => none
  | fuel + 1, t =>
    let (before, behind) := beforeBrace isRaw (t.length + 1) t
    let flaw := if isRaw then none else escapeFlaw? (before.length + 1) 0 before
    flaw.or (match behind with
      | 0x7B :: 0x7B :: rest => fieldFlaw? isRaw fuel rest
      | 0x7D :: 0x7D :: rest => fieldFlaw? isRaw fuel rest
      | 0x7D :: _ => some (.fieldBrace false)
      | _ :: rest =>
        let inside := rest.takeWhile (· != 0x7D)
        if inside.length == rest.length then some (.fieldBrace true)
        else if inside.all Place.isSpace then some .emptyField
        else none
      | [] => none)

/-! ## Texts -/

/-- What a text is. -/
structure TextKind where
  isOctets : Bool
  isRaw : Bool
  hasFields : Bool

/-- What the letters in front of a text say. -/
def TextKind.ofLetters (letters : Text) : TextKind :=
  let small := letters.lowerLetters
  ⟨small.contains 0x62, small.contains 0x72, small.contains 0x66⟩

/-- The first flaw in a text of a kind. -/
def TextKind.flaw? (kind : TextKind) (content : Text) : Option Flaw :=
  if kind.isOctets then
    if content.any (0x80 ≤ ·) then some .octetsBeyondAscii
    else if kind.isRaw then none else octetFlaw? 0 content
  else if kind.hasFields then fieldFlaw? kind.isRaw (content.length + 1) content
  else if kind.isRaw || !content.contains 0x5C then none
  else escapeFlaw? (content.length + 1) 0 content

/-- Texts one after the other, as one node. -/
def joinedTexts : (isOctets : Option Bool) → (hasFields : Bool) → List (Text × Text) →
    Except Flaw Node
  | isOctets, hasFields, [] =>
    .ok (if hasFields then .other .fields else if isOctets == some true then .octets else .text)
  | isOctets, hasFields, (letters, content) :: more =>
    let kind := TextKind.ofLetters letters
    match kind.flaw? content with
    | some f => .error f
    | none =>
      if (isOctets.map (· != kind.isOctets)).getD false then .error .mixedTexts
      else joinedTexts (some kind.isOctets) (hasFields || kind.hasFields) more

end GridGauge.Literal
