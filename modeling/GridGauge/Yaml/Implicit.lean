import GridGauge.Encoding.Base64
import GridGauge.Number.Reading
import GridGauge.Text.Case
import GridGauge.Yaml.Moment
import GridGauge.Yaml.ScalarText

/-!
# What a plain scalar means

A plain scalar that looks like a null, a truth value, an integer, a number, a
date or a time is one, and any other is a text. Integers are written in base
two, eight (a zero in front), ten or sixteen, or in base sixty with colons
between the digits; underscores may stand anywhere behind the first digit. A
number has a point, and its exponent a sign. The looks are those of the text
but for one line break at its end.

What looks like a number need not be one: nothing may be left of it without
underscores, or it may be too long. A date or time may have a part that is out
of its range. And a tag can ask for a scalar that the text does not look like,
also for bytes, which nothing looks like.

What is not a number is one and the same wherever it is written `.nan`. In
words that only a tag makes a number of, it is made anew each time.
-/

namespace GridGauge.Yaml

/-- Why a text is not the scalar it should be. -/
inductive ScalarError
  /-- It is no integer or number. -/
  | number (e : NumberError)
  /-- It is empty, but for underscores. -/
  | empty
  /-- It is no truth value. -/
  | noTruth (word : Text)
  /-- It is no date or time. -/
  | noMoment
  /-- A part of a date or time is out of its range. -/
  | moment (e : Timestamp.Error)
  /-- A date or time is asked for of a mapping that stands for a text. -/
  | noText
  deriving DecidableEq, Repr

/-- The error in words. -/
def ScalarError.message : ScalarError → Text
  | .number e => e.message
  | .empty => "string index out of range"
  | .noTruth word => Text.Quoted.encode word
  | .noMoment => "'NoneType' object has no attribute 'groupdict'"
  | .moment e => e.message
  | .noText => "expected string or bytes-like object, got 'list'"

/-- The types of scalars, and the two signs that are no scalars. -/
inductive ScalarKind
  | null
  | truth
  | integer
  | number
  | text
  | bytes
  /-- A date, or a time. -/
  | moment
  /-- The sign of a mapping that is merged into the one it stands in. -/
  | merge
  /-- The sign of a default value, which nothing here reads. -/
  | value
  deriving DecidableEq, Repr

/-- The words for nothing. -/
def nullWords : List Text := ["", "~", "null", "Null", "NULL"]

/-- The words for true. -/
def trueWords : List Text :=
  ["yes", "Yes", "YES", "true", "True", "TRUE", "on", "On", "ON"]

/-- The words for false. -/
def falseWords : List Text :=
  ["no", "No", "NO", "false", "False", "FALSE", "off", "Off", "OFF"]

/-! ## The looks of numbers -/

/-- Is the character a digit below `base`, or an underscore? -/
def isDigitOf (base : Nat) (c : CodePoint) : Bool :=
  c == 0x5F || (Text.hexValue? c).any (· < base)

/-- Are these digits, the first of them no underscore? -/
def isDigits (t : Text) : Bool :=
  match t with
  | [] => false
  | c :: rest => Text.isDecimalDigit c && rest.all (isDigitOf 10)

/-- Is this a number of minutes or seconds: one digit, or two of which the first is below six? -/
def isSixtieth (t : Text) : Bool :=
  match t with
  | [c] => Text.isDecimalDigit c
  | [c, d] => 48 ≤ c && c ≤ 53 && Text.isDecimalDigit d
  | _ => false

/-- Are these the digits of an integer in base sixty, with colons between them? -/
def isSixties (t : Text) : Bool :=
  match Text.splitAtEach 0x3A t with
  | whole :: part :: parts => isDigits whole && (part :: parts).all isSixtieth
  | _ => false

/-- Does the text look like an integer? -/
def isInteger (t : Text) : Bool :=
  match (Reading.sign t).2 with
  | 0x30 :: 0x62 :: digits => !digits.isEmpty && digits.all (isDigitOf 2)
  | 0x30 :: 0x78 :: digits => !digits.isEmpty && digits.all (isDigitOf 16)
  | 0x30 :: digits => digits.all (isDigitOf 8)
  | t => isDigits t || isSixties t

/-- Is this nothing, or an exponent with its sign? -/
def isExponent (t : Text) : Bool :=
  match t with
  | [] => true
  | e :: sign :: digit :: rest =>
    (e == 0x65 || e == 0x45) && (sign == 0x2B || sign == 0x2D)
      && (digit :: rest).all Text.isDecimalDigit
  | _ => false

/-- Is this a number with a point, without sign? Digits stand before it, or right behind it. -/
def isPointed (signed : Bool) (t : Text) : Bool :=
  match Text.breakAt 0x2E t with
  | (whole, some rest) =>
    let fraction := rest.takeWhile (isDigitOf 10)
    let exponent := rest.dropWhile (isDigitOf 10)
    isExponent exponent
      && (isDigits whole || (whole.isEmpty && !signed && isDigits fraction))
  | _ => false

/-- Is this a number in base sixty, with a point in its last part? -/
def isPointedSixties (t : Text) : Bool :=
  match Text.breakAt 0x2E t with
  | (before, some fraction) => isSixties before && fraction.all (isDigitOf 10)
  | _ => false

/-- The words for infinity. -/
def infinityWords : List Text := [".inf", ".Inf", ".INF"]

/-- The words for what is not a number. -/
def nanWords : List Text := [".nan", ".NaN", ".NAN"]

/-- Does the text look like a number? -/
def isNumber (t : Text) : Bool :=
  let unsigned := (Reading.sign t).2
  nanWords.contains t || infinityWords.contains unsigned
    || isPointed (unsigned.length != t.length) unsigned || isPointedSixties unsigned

/-- The text less one line break at its end. -/
def lineOf (t : Text) : Text := if t.getLast? == some 10 then t.dropLast else t

/-- What a text looks like, all of it. -/
def kindOfLine (t : Text) : ScalarKind :=
  if nullWords.contains t then .null
  else if trueWords.contains t || falseWords.contains t then .truth
  else if t == "<<" then .merge
  else if t == "=" then .value
  else if isNumber t then .number
  else if isInteger t then .integer
  else if Moment.isLike t then .moment
  else .text

/-- What the text of a plain scalar looks like. A line break alone looks like nothing else. -/
def kindOf (t : Text) : ScalarKind :=
  if t == [10] then .text
  else kindOfLine (lineOf t)

/-! ## Integers -/

/-- The text less its underscores. -/
def bare (t : Text) : Text := t.filter (· != 0x5F)

/-- The value of digits of a base. -/
def valueOf (base : Nat) (t : Text) : Nat :=
  t.foldl (fun n c => base * n + (Text.hexValue? c).getD 0) 0

/-- The letters that say behind a zero what base an integer is of. -/
def baseLetters : List (Nat × Text) := [(2, "bB"), (8, "oO"), (16, "xX")]

/-- The text less a zero and a letter for the base in front of it. -/
def withoutBase (base : Nat) (t : Text) : Text :=
  match t with
  | 0x30 :: c :: rest =>
    if ((List.lookup base baseLetters).getD []).contains c then rest else t
  | t => t

/-- The integer of the base that a text holds. It may have a sign of its own, and once more tell
    the base. -/
def integerOfBase (base : Nat) (t : Text) : Except ScalarError Int :=
  let (negative, digits) := Reading.sign (Reading.normalize t)
  let digits := withoutBase base digits
  if !digits.isEmpty && digits.all fun c => (Text.hexValue? c).any (· < base) then
    let n : Int := valueOf base digits
    .ok (if negative then -n else n)
  else .error (.number (.notIntegerOfBase base t))

/-- The integer without sign that is written. Each part of one in base sixty has the limit of digits
    that one in base ten has. -/
def unsignedInteger : Text → Except ScalarError Int
  | [] => .error .empty
  | [0x30] => .ok 0
  | 0x30 :: 0x62 :: digits => integerOfBase 2 digits
  | 0x30 :: 0x78 :: digits => integerOfBase 16 digits
  | 0x30 :: digits => integerOfBase 8 (0x30 :: digits)
  | t => do
    let parts ← (Text.splitAtEach 0x3A t).mapM fun p => (Reading.integer p).mapError .number
    return parts.foldl (fun n p => 60 * n + p) 0

/-- The integer that is written. -/
def integer (t : Text) : Except ScalarError Int := do
  let (negative, t) := Reading.sign (bare t)
  let n ← unsignedInteger t
  return if negative then -n else n

/-! ## Numbers -/

/-- The number in base sixty whose digits are given, the last first; `weight` is that of the
    first of them. There is none if a weight is too large for a number. -/
def sixtiesSum : (weight : Nat) → (sum : Binary64) → List Binary64 → Except ScalarError Binary64
  | _, sum, [] => .ok sum
  | weight, sum, digit :: digits =>
    match Binary64.ofInt? weight with
    | some w => sixtiesSum (weight * 60) (sum.add (digit.multiply w)) digits
    | none => .error (.number .tooLarge)

/-- The number that is written in decimal. It may have a sign of its own. -/
def decimal (t : Text) : Except ScalarError Binary64 := (Reading.number t).mapError .number

/-- The word for what is not a number. -/
def nanWord : Text := ".nan"

/-- The text of a number, less its sign: without underscores, and in small letters. -/
def numberText (t : Text) : Bool × Text := Reading.sign (bare t).lower

/-- The number that is written. -/
def number (t : Text) : Except ScalarError Binary64 := do
  if (bare t).isEmpty then throw .empty
  let (negative, t) := numberText t
  if t == nanWord then return .nan
  let x ←
    if t == ".inf" then pure (Binary64.infinity false)
    else if t.contains 0x3A then do
      sixtiesSum 1 .zero (← (Text.splitAtEach 0x3A t).mapM decimal).reverse
    else decimal t
  return if negative then x.negate else x

/-- The number that is written, as a scalar. What is not a number has `id` for its own number unless
    it is that of the word. -/
def numberScalar (id : Nat) (t : Text) : Except ScalarError Scalar := do
  let x ← number t
  return if x.isNaN && (numberText t).2 != nanWord then .ownNaN id else .float x

/-! ## All kinds -/

/-- The truth value of a word. -/
def truth (t : Text) : Except ScalarError Bool :=
  let word := t.lower
  if trueWords.contains word then .ok true
  else if falseWords.contains word then .ok false
  else .error (.noTruth word)

/-- The date or time that is written, but for one line break at the end. -/
def moment (t : Text) : Except ScalarError Scalar :=
  match Moment.written? (lineOf t) with
  | some w => w.check.mapError .moment
  | none => .error .noMoment

/-- The scalar of a kind that a text is, the text of the node `id`. There is none if the text is not
    one of bytes, and for the two signs. -/
def scalar? (id : Nat) (t : Text) : ScalarKind → Except ScalarError (Option Scalar)
  | .null => .ok (some .null)
  | .truth => (truth t).map fun b => some (.bool b)
  | .integer => (integer t).map fun n => some (.int n)
  | .number => (numberScalar id t).map some
  | .text => .ok (some (.text t))
  | .bytes => .ok ((Base64.decode? t).map .bytes)
  | .moment => (moment t).map some
  | .merge | .value => .ok none

end GridGauge.Yaml
