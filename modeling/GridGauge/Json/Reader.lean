import GridGauge.Encoding
import GridGauge.Json
import GridGauge.Json.Flaw
import GridGauge.Number.Binary64

/-!
# Reading JSON

A reader takes the text in front of it and gives a value with the text behind
it. It stops at the first flaw; the stop carries the text from the flaw on,
from which its place follows at the end (`Json.ofText`).

Values nest to a fixed depth: `value` recurs on the depth that is left, and
the loops over the items of an array and the members of an object take the
reader of what they hold as an argument. The loops count down from the length
of the whole text, which is never reached.

Beyond the grammar of JSON the words `NaN`, `Infinity` and `-Infinity` are
numbers. Of members with the same key, the last gives the value and the first
the place.
-/

namespace GridGauge.Json

/-- Why reading stops short. -/
inductive Stop
  /-- There is a flaw in front of this text. -/
  | flaw (flaw : Flaw) (rest : Text)
  /-- An integer has this many digits, more than the limit. -/
  | tooLong (digits : Nat)
  /-- There are too many containers around this one. -/
  | tooDeep (container : Container)

/-- A reader gives what it reads and the text behind it. -/
abbrev Reader (α : Type) := Text → Except Stop (α × Text)

namespace Reader

/-- Is `c` a blank between the parts of a JSON text? -/
def isSpace (c : CodePoint) : Bool := c == 32 || c == 9 || c == 10 || c == 13

/-- The text less the blanks in front. -/
def skipSpace (t : Text) : Text := t.dropWhile isSpace

/-! ## Strings -/

/-- The character an escape other than `u` stands for. -/
def escaped? (c : CodePoint) : Option CodePoint :=
  match c with
  | 0x22 => some 0x22
  | 0x5C => some 0x5C
  | 0x2F => some 0x2F
  | 0x62 => some 8
  | 0x66 => some 12
  | 0x6E => some 10
  | 0x72 => some 13
  | 0x74 => some 9
  | _ => none

/-- The unit of four hexadecimal digits. -/
def unit? (a b c d : CodePoint) : Option Nat := do
  let a ← Text.hexValue? a
  let b ← Text.hexValue? b
  let c ← Text.hexValue? c
  let d ← Text.hexValue? d
  return 4096 * a + 256 * b + 16 * c + d

/-- The reversed text `before` with one more unit: the second unit of a pair joins the first, when
    that was written as the escape just before. -/
def joinUnit (afterEscape : Bool) (u : Nat) (before : Text) : Text :=
  match before with
  | [] => [u]
  | high :: rest =>
    if afterEscape && Utf16.isHigh high && Utf16.isLow u then Utf16.pair high u :: rest
    else u :: high :: rest

/-- The string that goes on with the text given, after the reversed part `before`; `opening` is
    the text from its first quotation mark on. A `u` escape needs some text behind it. -/
def stringFrom (opening : Text) (afterEscape : Bool) (before : Text) : Reader Text
  | [] => .error (.flaw .openString opening)
  | 0x22 :: rest => .ok (before.reverse, rest)
  | [0x5C] => .error (.flaw .openString opening)
  | 0x5C :: 0x75 :: digits =>
    match digits with
    | a :: b :: c :: d :: next :: rest =>
      match unit? a b c d with
      | some u => stringFrom opening true (joinUnit afterEscape u before) (next :: rest)
      | none => .error (.flaw .badUnitEscape (0x75 :: digits))
    | _ => .error (.flaw .badUnitEscape (0x75 :: digits))
  | 0x5C :: e :: rest =>
    match escaped? e with
    | some c => stringFrom opening false (c :: before) rest
    | none => .error (.flaw .badEscape (0x5C :: e :: rest))
  | c :: rest =>
    if c < 0x20 then .error (.flaw .control (c :: rest))
    else stringFrom opening false (c :: before) rest

/-- The string behind a quotation mark. -/
def string : Reader Text := fun t => stringFrom (0x22 :: t) false [] t

/-! ## Numbers -/

/-- The digits of a fraction and the text behind them: none, unless a point with a digit behind it
    comes first. -/
def fraction (t : Text) : Text × Text :=
  match t with
  | 0x2E :: digits =>
    match digits.span Text.isDecimalDigit with
    | ([], _) => ([], t)
    | (ds, rest) => (ds, rest)
  | _ => ([], t)

/-- The power of ten of a number and the text behind it, if it has one: `e`, a sign if any, and at
    least one digit. -/
def power? (t : Text) : Option (Int × Text) :=
  match t with
  | e :: rest =>
    if e == 0x65 || e == 0x45 then
      let (negative, rest) := match rest with
        | 0x2D :: rest => (true, rest)
        | 0x2B :: rest => (false, rest)
        | rest => (false, rest)
      match rest.span Text.isDecimalDigit with
      | ([], _) => none
      | (digits, rest) =>
        let n : Int := Text.decimalValue digits
        some (if negative then -n else n, rest)
    else none
  | [] => none

/-- The number with the integer part `digits`, behind which `t` follows. -/
def numberFrom (negative : Bool) (digits : Text) (t : Text) : Except Stop (Json × Text) :=
  let (fractionDigits, rest) := fraction t
  match power? rest with
  | some (power, rest) =>
    .ok (.float (.ofDecimal negative (Text.decimalValue (digits ++ fractionDigits))
      (power - fractionDigits.length)), rest)
  | none =>
    if !fractionDigits.isEmpty then
      .ok (.float (.ofDecimal negative (Text.decimalValue (digits ++ fractionDigits))
        (-(fractionDigits.length : Int))), rest)
    else if digitLimit < digits.length then .error (.tooLong digits.length)
    else
      let n : Int := Text.decimalValue digits
      .ok (.int (if negative then -n else n), rest)

/-- The number in front of `t`, which starts without a sign; `start` is the text from the sign on.
    A zero in front is the whole integer part. -/
def unsigned (negative : Bool) (start : Text) (t : Text) : Except Stop (Json × Text) :=
  match t with
  | 0x30 :: rest => numberFrom negative [0x30] rest
  | _ =>
    match t.span Text.isDecimalDigit with
    | ([], _) => .error (.flaw .noValue start)
    | (digits, rest) => numberFrom negative digits rest

/-! ## Values -/

/-- The words that are values. -/
def words : List (Text × Json) :=
  [("null", .null), ("true", .bool true), ("false", .bool false), ("NaN", .float .nan),
    ("Infinity", .float (.infinity false)), ("-Infinity", .float (.infinity true))]

/-- The value in front of the text, when that is no container. -/
def scalar (t : Text) : Except Stop (Json × Text) :=
  match t with
  | 0x22 :: rest => (string rest).map fun (s, rest) => (.string s, rest)
  | _ =>
    match words.find? fun w => t.startsWith w.1 with
    | some (word, value) => .ok (value, t.drop word.length)
    | none =>
      match t with
      | 0x2D :: rest => unsigned true t rest
      | _ => unsigned false t t

/-- The items of an array from one item on, after the reversed items `before`. -/
def items (item : Reader Json) : (fuel : Nat) → (before : List Json) → Reader Json
  | 0, _, t => .error (.flaw .noValue t)
  | fuel + 1, before, t =>
    match item t with
    | .error stop => .error stop
    | .ok (v, rest) =>
      match skipSpace rest with
      | 0x5D :: rest => .ok (.array (v :: before).reverse, rest)
      | 0x2C :: rest => items item fuel (v :: before) (skipSpace rest)
      | rest => .error (.flaw .noComma rest)

/-- The array behind its bracket, of no more than `most` items. -/
def array (most : Nat) (item : Reader Json) : Reader Json := fun t =>
  match skipSpace t with
  | 0x5D :: rest => .ok (.array [], rest)
  | rest => items item most [] rest

/-- The members of an object from one key on, after the members `before`. -/
def members (item : Reader Json) : (fuel : Nat) → (before : Members) → Reader Json
  | 0, _, t => .error (.flaw .noKey t)
  | fuel + 1, before, t =>
    match t with
    | 0x22 :: rest =>
      match string rest with
      | .error stop => .error stop
      | .ok (key, rest) =>
        match skipSpace rest with
        | 0x3A :: rest =>
          match item (skipSpace rest) with
          | .error stop => .error stop
          | .ok (v, rest) =>
            match skipSpace rest with
            | 0x7D :: rest => .ok (.object (before.put key v), rest)
            | 0x2C :: rest => members item fuel (before.put key v) (skipSpace rest)
            | rest => .error (.flaw .noComma rest)
        | rest => .error (.flaw .noColon rest)
    | t => .error (.flaw .noKey t)

/-- The object behind its brace, of no more than `most` members. -/
def object (most : Nat) (item : Reader Json) : Reader Json := fun t =>
  match skipSpace t with
  | 0x7D :: rest => .ok (.object [], rest)
  | rest => members item most [] rest

/-- The value in front of the text, with at most `depth` containers around each other and no more
    than `most` values in each. A text has no more values than characters. -/
def value (most : Nat) : (depth : Nat) → Reader Json
  | 0, 0x5B :: _ => .error (.tooDeep .array)
  | 0, 0x7B :: _ => .error (.tooDeep .object)
  | 0, t => scalar t
  | depth + 1, 0x5B :: rest => array most (value most depth) rest
  | depth + 1, 0x7B :: rest => object most (value most depth) rest
  | _ + 1, t => scalar t

/-- The most containers around each other. -/
def depthLimit : Nat := 990

end Reader

/-! ## Documents -/

/-- The stop as an error of the whole text. -/
def Stop.error (whole : Text) : Stop → Error
  | .flaw f rest => .malformed f (.after (whole.take (whole.length - rest.length)))
  | .tooLong digits => .tooLong digits
  | .tooDeep c => .tooDeep c

/-- The value that is all of a text but for blanks at both ends. -/
def ofUnmarkedText (t : Text) : Except Error Json :=
  match Reader.value (t.length + 1) Reader.depthLimit (Reader.skipSpace t) with
  | .error stop => .error (stop.error t)
  | .ok (v, rest) =>
    match Reader.skipSpace rest with
    | [] => .ok v
    | rest => .error ((Stop.flaw .extra rest).error t)

/-- The value of a text, which must not start with a byte order mark. -/
def ofText (t : Text) : Except Error Json :=
  if t.head? = some byteOrderMark then .error (.malformed .mark (.after []))
  else ofUnmarkedText t

/-- The value of a document in whichever encoding it is. -/
def ofBytes (bytes : Bytes) : Except Error Json :=
  match (Encoding.detect bytes).decode bytes with
  | .error fault => .error (.undecodable fault)
  | .ok t => ofUnmarkedText t

end GridGauge.Json
