import GridGauge.Literal.Flaw
import GridGauge.Number.Reading

/-!
# Numbers in expressions

A number is decimal, with a point and a power of ten if it likes, or it is an
integer in base sixteen, eight or two behind `0x`, `0o` or `0b`. A low line
may stand between two digits. The letter `j` makes a decimal number imaginary.
No letter follows a number, unless a word that can stand behind it begins
there.
-/

namespace GridGauge.Literal

/-- What a number is. -/
inductive Numeral
  /-- An integer, with the number of its digits if it is written in base ten. -/
  | integer (n : Nat) (digits : Nat)
  | real
  | imaginary
  deriving DecidableEq, Repr

namespace Numeral

/-- Can the character begin an identifier, or be a letter beyond ASCII? -/
def beginsWord (c : CodePoint) : Bool :=
  Text.isLowerLetter c || Text.isUpperLetter c || c == 0x5F || 0x80 ≤ c

/-- Can the character be part of a word? -/
def isInWord (c : CodePoint) : Bool := beginsWord c || Text.isDecimalDigit c

/-- The words that can stand right behind a number. -/
def wordsBehind : List Text := ["and", "else", "for", "or", "not"]

/-- The beginnings of words that can stand right behind a number. -/
def beginningsBehind : List Text := ["if", "in", "is"]

/-- Does the text begin with something that can stand right behind a number? -/
def goesOnAsWord (t : Text) : Bool :=
  beginningsBehind.any (Text.startsWith t) || wordsBehind.any fun w =>
    Text.startsWith t w && !((t.drop w.length).head?.map isInWord).getD false

/-- The text behind a number of a kind, if the number can end before it. -/
def atEnd (kind : Text) (t : Text) : Except Flaw Text :=
  let joins := (t.head?.map fun c => c < 0x80 && isInWord c).getD false
  if joins && !goesOnAsWord t then .error (.number kind) else .ok t

/-- The text behind the digits at the front, in which a low line stands only between two; nothing
    if it does elsewhere. -/
def behindDigits : Text → Option Text
  | 0x5F :: c :: rest => if Text.isDecimalDigit c then behindDigits rest else none
  | [0x5F] => none
  | c :: rest => if Text.isDecimalDigit c then behindDigits rest else some (c :: rest)
  | [] => some []

/-- The name of decimal numbers. -/
def decimalKind : Text := "decimal"

/-- The text behind decimal digits. -/
def decimals (t : Text) : Except Flaw Text :=
  match behindDigits t with
  | some rest => .ok rest
  | none => .error (.number decimalKind)

/-- A base other than ten. -/
structure Base where
  size : Nat
  kind : Text
  deriving Repr

/-- The value of a digit of a base. -/
def Base.value? (b : Base) (c : CodePoint) : Option Nat :=
  (Text.hexValue? c).filter (· < b.size)

/-- The number in a base at the front of a text, of which the value so far is given, and the text
    behind it. With `needed` there must be a digit. -/
def based (b : Base) (needed : Bool) (n : Nat) : Text → Except Flaw (Numeral × Text)
  | [] => if needed then .error (.number b.kind) else .ok (.integer n 0, [])
  | c :: rest =>
    match b.value? c with
    | some d => based b false (n * b.size + d) rest
    | none =>
      if c == 0x5F && !needed then based b true n rest
      else if Text.isDecimalDigit c then .error (.digit c b.kind)
      else if needed then .error (.number b.kind)
      else (atEnd b.kind (c :: rest)).map fun t => (.integer n 0, t)

/-- The number in a base behind its two characters. A low line may come first. -/
def ofBase (b : Base) : Text → Except Flaw (Numeral × Text)
  | 0x5F :: rest => based b true 0 rest
  | rest => based b true 0 rest

/-- What follows the digits of a decimal number: nothing more, or the letter of imaginary ones. -/
def suffix (plain : Numeral) : Text → Except Flaw (Numeral × Text)
  | c :: rest =>
    if c == 0x6A || c == 0x4A then (atEnd "imaginary" rest).map fun t => (.imaginary, t)
    else (atEnd decimalKind (c :: rest)).map fun t => (plain, t)
  | [] => .ok (plain, [])

/-- What follows the digits and the places: perhaps a power of ten. A letter without any digits
    behind it belongs to what follows. -/
def power (plain : Numeral) (t : Text) : Except Flaw (Numeral × Text) :=
  match t with
  | e :: rest =>
    if e != 0x65 && e != 0x45 then suffix plain t
    else
      let isSigned := rest.head? == some 0x2B || rest.head? == some 0x2D
      let digits := if isSigned then rest.drop 1 else rest
      if (digits.head?.map Text.isDecimalDigit).getD false then do suffix .real (← decimals digits)
      else if isSigned then .error (.number decimalKind)
      else (atEnd decimalKind t).map fun t => (plain, t)
  | [] => .ok (plain, [])

/-- What follows the digits before the point. -/
def fraction (plain : Numeral) : Text → Except Flaw (Numeral × Text)
  | 0x2E :: c :: rest =>
    if Text.isDecimalDigit c then do power .real (← decimals (c :: rest))
    else power .real (c :: rest)
  | 0x2E :: rest => power .real rest
  | rest => power plain rest

/-- Can the number go on with the character, so that it may start with zeros? -/
def goesOnWith (c : CodePoint) : Bool := (".eEjJ" : Text).contains c

/-- The decimal number at the front of a text that starts with a digit. An integer starts with a
    zero only if it is zero. -/
def ofDecimal (t : Text) : Except Flaw (Numeral × Text) := do
  let behind ← decimals t
  let digits := (t.take (t.length - behind.length)).filter Text.isDecimalDigit
  let n := Text.decimalValue digits
  if t.head? == some 0x30 && n != 0 && !(behind.head?.map goesOnWith).getD false then
    throw .leadingZeros
  else fraction (.integer n digits.length) behind

/-- The number at the front of a text that starts with a digit, or with a point and a digit. -/
def read (t : Text) : Except Flaw (Numeral × Text) :=
  match t with
  | 0x30 :: c :: rest =>
    if c == 0x78 || c == 0x58 then ofBase ⟨16, "hexadecimal"⟩ rest
    else if c == 0x6F || c == 0x4F then ofBase ⟨8, "octal"⟩ rest
    else if c == 0x62 || c == 0x42 then ofBase ⟨2, "binary"⟩ rest
    else ofDecimal t
  | 0x2E :: _ => fraction .real t
  | _ => ofDecimal t

end Numeral

end GridGauge.Literal
