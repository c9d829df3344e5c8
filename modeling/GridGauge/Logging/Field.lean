import GridGauge.Number.Fixed
import GridGauge.Number.Limit
import GridGauge.Text.Quoted

/-!
# Fields

In the format of a line a percent sign begins a field. Behind it stand the
name of what is to be shown in brackets, then flags, a width, a greatest
length or a number of places, and at the end a letter, which says how a value
is written: `%(name)-10.4s` shows the first four characters of a name, padded
on the right to ten.

A field need not fit its value, and then it cannot be filled
(`Field.fill?`): no letter makes a number of a word.
-/

namespace GridGauge.Logging

/-- What a field can show. -/
inductive Value
  | text (t : Text)
  | integer (n : Int)
  | number (x : Binary64)
  /-- Anything else, as it is shown. -/
  | other (shown : Text)
  deriving DecidableEq, Repr

namespace Value

/-- Nothing at all. -/
def nothing : Value := .other "None"

/-- The value as a text, unless it is too long for one. -/
def toText? : Value → Option Text
  | text t => some t
  | integer n => if withinDigitLimit n then some (Text.ofInt n) else none
  | number x => some x.toText
  | other shown => some shown

/-- The value as a text in which words are quoted. -/
def toQuoted? : Value → Option Text
  | text t => some (Text.Quoted.encode t)
  | v => v.toText?

/-- The value as an integer, a number being cut off at the point. -/
def toInteger? : Value → Option Int
  | integer n => some n
  | number x => if x.isFinite then some x.truncate else none
  | _ => none

/-- The value as a floating-point number. -/
def toNumber? : Value → Option Binary64
  | integer n => Binary64.ofInt? n
  | number x => some x
  | _ => none

/-- The value as a character: one by its number, or a text of just one. -/
def toCharacter? : Value → Option CodePoint
  | integer n => if 0 ≤ n ∧ n < 0x110000 then some n.toNat else none
  | text [c] => some c
  | _ => none

end Value

/-- How a value is laid out. -/
structure Field where
  /-- The name of what is shown. Without one it is all there is, if no field stands before. -/
  name : Option Text
  flags : Text
  width : Nat
  /-- The greatest length of a text, or the number of places of a number. -/
  precision : Option Nat
  conversion : CodePoint
  deriving DecidableEq, Repr

/-- A piece of a format. -/
inductive Piece
  /-- A character that stands for itself. -/
  | character (c : CodePoint)
  | field (f : Field)
  /-- A field that the format ends in the middle of. -/
  | unfinished
  deriving DecidableEq, Repr

/-! ## Reading a format -/

/-- The characters that say how a field is laid out. -/
def isFlag (c : CodePoint) : Bool := ("#0+ -" : Text).contains c

/-- The name up to the bracket that closes it, other brackets in it being in pairs, and the text
    behind it. -/
def fieldName? : (depth : Nat) → Text → Option (Text × Text)
  | _, [] => none
  | 0, 0x29 :: rest => some ([], rest)
  | depth + 1, 0x29 :: rest => (fieldName? depth rest).map fun (name, rest) => (0x29 :: name, rest)
  | depth, 0x28 :: rest =>
    (fieldName? (depth + 1) rest).map fun (name, rest) => (0x28 :: name, rest)
  | depth, c :: rest => (fieldName? depth rest).map fun (name, rest) => (c :: name, rest)

/-- The number at the start of a text, zero if there is none, and the text behind it. -/
def number (t : Text) : Nat × Text :=
  let (digits, rest) := t.span Text.isDecimalDigit
  (Text.decimalValue digits, rest)

/-- The field behind its percent sign, and the text behind it, unless the text ends before. A
    letter for the size of numbers may stand before the last, and says nothing. -/
def field? (t : Text) : Option (Field × Text) := do
  let (name, rest) ← match t with
    | 0x28 :: rest => (fieldName? 0 rest).map fun (name, rest) => (some name, rest)
    | rest => some (none, rest)
  let (flags, rest) := rest.span isFlag
  let (width, rest) := number rest
  let (precision, rest) := match rest with
    | 0x2E :: rest =>
      let (n, rest) := number rest
      (some n, rest)
    | rest => (none, rest)
  let rest := match rest with
    | 0x68 :: rest | 0x6C :: rest | 0x4C :: rest => rest
    | rest => rest
  match rest with
  | conversion :: rest => some (⟨name, flags, width, precision, conversion⟩, rest)
  | [] => none

/-- The pieces of a format. Two percent signs are one that stands for itself. -/
def pieces : (fuel : Nat) → Text → List Piece
  | 0, _ => []
  | _ + 1, [] => []
  | fuel + 1, 0x25 :: 0x25 :: rest => .character 0x25 :: pieces fuel rest
  | fuel + 1, 0x25 :: rest =>
    match field? rest with
    | some (f, rest) => .field f :: pieces fuel rest
    | none => [.unfinished]
  | fuel + 1, c :: rest => .character c :: pieces fuel rest

/-! ## Filling a field -/

/-- The letters of integers, of which the last three are of other bases than ten. -/
def integerLetters : Text := "diuoxX"

/-- The letters of floating-point numbers. -/
def numberLetters : Text := "eEfFgG"

/-- What is written for a value, in parts: a sign, a mark of the base, and the rest. -/
structure Parts where
  sign : Text
  mark : Text
  rest : Text
  deriving DecidableEq, Repr

namespace Field

variable (f : Field)

/-- Does the field have the flag? -/
def has (flag : CodePoint) : Bool := f.flags.contains flag

/-- The sign of a number that is negative or not: for the latter there is one only if a flag asks
    for it. -/
def signOf (negative : Bool) : Text :=
  if negative then "-" else if f.has 0x2B then "+" else if f.has 0x20 then " " else ""

/-- The digits of a natural number under the letter of the field, and the mark of their base. -/
def digitsOf (n : Nat) : Text × Text :=
  let inHex := Text.digitsFrom 16 (n + 1) n []
  if f.conversion == 0x6F then ("0o", Text.digitsFrom 8 (n + 1) n [])
  else if f.conversion == 0x78 then ("0x", inHex)
  else if f.conversion == 0x58 then
    ("0X", inHex.map fun c => if Text.isLowerLetter c then c - 32 else c)
  else ("", Text.ofNat n)

/-- An integer under the field, with zeros before its digits to as many as the precision. -/
def integerParts (n : Int) : Parts :=
  let (mark, digits) := f.digitsOf n.natAbs
  ⟨f.signOf (n < 0), if f.has 0x23 then mark else "",
    Text.repeated (f.precision.getD 0 - digits.length) 48 ++ digits⟩

/-- The figures that the letter of the field asks for. -/
def figures : Figures :=
  let n := f.precision.getD 6
  if f.conversion == 0x65 || f.conversion == 0x45 then .scientific n
  else if f.conversion == 0x66 || f.conversion == 0x46 then .fixed n
  else .general n

/-- A floating-point number under the field. -/
def numberParts (x : Binary64) : Parts :=
  ⟨f.signOf (x.negative && !x.isNaN), "",
    f.figures.magnitude (f.has 0x23) (Text.isUpperLetter f.conversion) x⟩

/-- Is the value written as a number? -/
def isNumeric : Bool := integerLetters.contains f.conversion || numberLetters.contains f.conversion

/-- A text under the field, cut to the precision. -/
def textParts (t : Text) : Parts := ⟨"", "", t.take (f.precision.getD t.length)⟩

/-- The parts of a value under the field, if it fits. A number with a point is no integer in other
    bases than ten. -/
def parts? (v : Value) : Option Parts :=
  if integerLetters.contains f.conversion then do
    let decimal := (integerLetters.take 3).contains f.conversion
    let n ← match v with
      | .number _ => if decimal then v.toInteger? else none
      | v => v.toInteger?
    if decimal && !withinDigitLimit n then none else some (f.integerParts n)
  else if numberLetters.contains f.conversion then v.toNumber?.map f.numberParts
  else if f.conversion == 0x73 then v.toText?.map f.textParts
  else if f.conversion == 0x72 then v.toQuoted?.map f.textParts
  else if f.conversion == 0x61 then v.toQuoted?.map (f.textParts ∘ Text.Quoted.inAscii)
  else if f.conversion == 0x63 then v.toCharacter?.map fun c => ⟨"", "", [c]⟩
  else none

/-- The parts padded to the width: on the right with the flag `-`, with zeros behind the sign of a
    number with the flag `0`, else on the left. -/
def pad (p : Parts) : Text :=
  let head := p.sign ++ p.mark
  let missing := f.width - (head.length + p.rest.length)
  if f.has 0x2D then head ++ p.rest ++ Text.repeated missing 32
  else if f.isNumeric && f.has 0x30 then head ++ Text.repeated missing 48 ++ p.rest
  else Text.repeated missing 32 ++ head ++ p.rest

/-- The greatest width and the greatest precision. -/
def sizeLimit : Nat := Nat.pow 2 31 - 1

/-- The text of a value under the field, if it fits. -/
def fill? (v : Value) : Option Text :=
  if sizeLimit < f.width || sizeLimit < f.precision.getD 0 then none else (f.parts? v).map f.pad

end Field

/-- The text of pieces one after the other, if all of them can be filled. A field without a name
    shows the value at hand, which is there for the first field only. -/
def fillAll? (value : Text → Option Value) : (atHand : Option Value) → List Piece → Option Text
  | _, [] => some []
  | v, .character c :: ps => (fillAll? value v ps).map (c :: ·)
  | _, .unfinished :: _ => none
  | atHand, .field f :: ps => do
    let v ← match f.name with
      | some name => value name
      | none => atHand
    return (← f.fill? v) ++ (← fillAll? value none ps)

end GridGauge.Logging
