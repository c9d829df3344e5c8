import GridGauge.Number.Binary64
import GridGauge.Number.Limit
import GridGauge.Text.Blank
import GridGauge.Text.Digit
import GridGauge.Text.Quoted

/-!
# Numbers in settings

A number that a person writes into a setting, a variable or an option may
stand between blanks, carry a sign, and have single underscores between its
digits. The digits and blanks of every script count, except that of the blanks
of ASCII only the six that move the carriage do.
-/

namespace GridGauge

/-- Why something is not the number asked for. -/
inductive NumberError
  /-- The text is no integer. -/
  | notInteger (t : Text)
  /-- The text is no integer of this base. -/
  | notIntegerOfBase (base : Nat) (t : Text)
  /-- The text is no number. -/
  | notNumber (t : Text)
  /-- These octets are no integer. -/
  | notIntegerOctets (t : Text)
  /-- These octets are no number. -/
  | notNumberOctets (t : Text)
  /-- The text has this many digits, more than the limit. -/
  | tooManyDigits (digits : Nat)
  /-- An integer has more digits than may be written. -/
  | tooLong
  /-- A value of this type is no integer. -/
  | typeNotInteger (type : Text)
  /-- A value of this type is no number. -/
  | typeNotNumber (type : Text)
  /-- An integer is too large for a floating-point number. -/
  | tooLarge
  /-- Infinity is no integer. -/
  | infinite
  /-- What is not a number is no integer. -/
  | nan
  deriving DecidableEq, Repr

/-- A text that is no integer, quoted and as much of it as a message shows. -/
def shownStart (t : Text) : Text := (Text.Quoted.encode t).take 200

/-- The error in words. -/
def NumberError.message : NumberError → Text
  | .notInteger t => "invalid literal for int() with base 10: " ++ shownStart t
  | .notIntegerOfBase base t =>
    "invalid literal for int() with base " ++ Text.ofNat base ++ ": " ++ shownStart t
  | .notNumber t => "could not convert string to float: " ++ Text.Quoted.encode t
  | .notIntegerOctets t =>
    "invalid literal for int() with base 10: "
      ++ (Text.Quoted.encodeOctets (t.take 200)).take 200
  | .notNumberOctets t => "could not convert string to float: " ++ Text.Quoted.encodeOctets t
  | .tooManyDigits digits => tooManyDigitsMessage digits
  | .tooLong => tooLongToWriteMessage
  | .typeNotInteger type =>
    "int() argument must be a string, a bytes-like object or a real number, not '" ++ type ++ "'"
  | .typeNotNumber type =>
    "float() argument must be a string or a real number, not '" ++ type ++ "'"
  | .tooLarge => "int too large to convert to float"
  | .infinite => "cannot convert float infinity to integer"
  | .nan => "cannot convert float NaN to integer"

namespace Reading

/-- May `c` stand at the ends of a number? -/
def isBlank (c : CodePoint) : Bool := Text.isAsciiBlank c || (0x80 ≤ c && Text.isBlank c)

/-- The text as a number is read from it: without the blanks at its ends, each digit as that of
    ASCII. -/
def normalize (t : Text) : Text :=
  (Text.trimBy isBlank t).map fun c => match Text.digitValue? c with
    | some d => 48 + d
    | none => c

/-- The digits of a run with single underscores between them, and the text behind it; the run
    begins with a digit. -/
def digits? : Text → Option (Text × Text)
  | [] => none
  | c :: rest =>
    if Text.isDecimalDigit c then
      match rest with
      | 0x5F :: more =>
        (digits? more).map fun (ds, rest) => (c :: ds, rest)
      | rest =>
        match digits? rest with
        | some (ds, rest) => some (c :: ds, rest)
        | none => some ([c], rest)
    else none

/-- A sign, if there is one, and the text behind it. -/
def sign : Text → Bool × Text
  | 0x2D :: rest => (true, rest)
  | 0x2B :: rest => (false, rest)
  | rest => (false, rest)

/-- The integer that a text holds. -/
def integer (t : Text) : Except NumberError Int :=
  let (negative, rest) := sign (normalize t)
  match digits? rest with
  | some (digits, []) =>
    if digitLimit < digits.length then .error (.tooManyDigits digits.length)
    else
      let n : Int := Text.decimalValue digits
      .ok (if negative then -n else n)
  | _ => .error (.notInteger t)

/-- The words for numbers that have no digits. -/
def words : List (Text × Binary64) :=
  [("inf", .infinity false), ("infinity", .infinity false), ("nan", .nan)]

/-- The power of ten of a number, which makes up the text; none is written as nothing. -/
def power? : Text → Option Int
  | [] => some 0
  | c :: rest =>
    if c = 0x65 ∨ c = 0x45 then
      let (negative, rest) := sign rest
      match digits? rest with
      | some (digits, []) =>
        let n : Int := Text.decimalValue digits
        some (if negative then -n else n)
      | _ => none
    else none

/-- The number without sign that makes up the text. -/
def unsigned? (t : Text) : Option Binary64 :=
  match words.find? fun w => w.1 == t.lowerLetters with
  | some (_, x) => some x
  | none => do
    let (whole, rest) := (digits? t).getD ([], t)
    let (fraction, rest) := match rest with
      | 0x2E :: rest => (digits? rest).getD ([], rest)
      | rest => ([], rest)
    guard (!(whole ++ fraction).isEmpty)
    let power ← power? rest
    return .ofDecimal false (Text.decimalValue (whole ++ fraction)) (power - fraction.length)

/-- The number that a text holds. -/
def number (t : Text) : Except NumberError Binary64 :=
  let (negative, rest) := sign (normalize t)
  match unsigned? rest with
  | some x => .ok (if negative then x.negate else x)
  | none => .error (.notNumber t)

/-! ## Octets -/

/-- The integer that octets hold, which are read as a text of ASCII. -/
def integerOfOctets (t : Text) : Except NumberError Int :=
  match if t.all (· < 0x80) then integer t else .error (.notInteger t) with
  | .error (.notInteger t) => .error (.notIntegerOctets t)
  | result => result

/-- The number that octets hold, which are read as a text of ASCII. -/
def numberOfOctets (t : Text) : Except NumberError Binary64 :=
  match if t.all (· < 0x80) then number t else .error (.notNumber t) with
  | .error (.notNumber t) => .error (.notNumberOctets t)
  | result => result

end Reading

end GridGauge
