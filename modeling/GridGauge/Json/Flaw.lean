import GridGauge.Encoding.Fault
import GridGauge.Number.Limit

/-!
# Flaws of a JSON text

What can be wrong with a text, or with bytes, that should hold one JSON value.
-/

namespace GridGauge.Json

/-- What is wrong at a place of a text. -/
inductive Flaw
  /-- No value starts here. -/
  | noValue
  /-- An array or object neither ends nor goes on. -/
  | noComma
  /-- A key has no colon behind it. -/
  | noColon
  /-- No key starts here. -/
  | noKey
  /-- The string that starts here does not end. -/
  | openString
  /-- A control character stands unescaped in a string. -/
  | control
  /-- A backslash starts no escape. -/
  | badEscape
  /-- A `u` escape lacks one of its four digits. -/
  | badUnitEscape
  /-- More text follows the value. -/
  | extra
  /-- A byte order mark stands in front. -/
  | mark
  deriving DecidableEq, Repr

/-- The flaw in words. -/
def Flaw.message : Flaw → Text
  | .noValue => "Expecting value"
  | .noComma => "Expecting ',' delimiter"
  | .noColon => "Expecting ':' delimiter"
  | .noKey => "Expecting property name enclosed in double quotes"
  | .openString => "Unterminated string starting at"
  | .control => "Invalid control character at"
  | .badEscape => "Invalid \\escape"
  | .badUnitEscape => "Invalid \\uXXXX escape"
  | .extra => "Extra data"
  | .mark => "Unexpected UTF-8 BOM (decode using utf-8-sig)"

/-- A place in a text. -/
structure Place where
  /-- The number of the line, from one. -/
  line : Nat
  /-- The number of the character in its line, from one. -/
  column : Nat
  /-- The number of characters before. -/
  offset : Nat
  deriving DecidableEq, Repr

/-- The place after the text `before`. Only a line feed ends a line. -/
def Place.after (before : Text) : Place where
  line := before.count 10 + 1
  column := (before.reverse.takeWhile (· != 10)).length + 1
  offset := before.length

/-- The place in words. -/
def Place.message (p : Place) : Text :=
  "line " ++ Text.ofNat p.line ++ " column " ++ Text.ofNat p.column
    ++ " (char " ++ Text.ofNat p.offset ++ ")"

/-- A container of values. -/
inductive Container
  | array
  | object
  deriving DecidableEq, Repr

/-- Why a document holds no JSON value. -/
inductive Error
  /-- The text is malformed at a place. -/
  | malformed (flaw : Flaw) (place : Place)
  /-- An integer has this many digits, more than the limit. -/
  | tooLong (digits : Nat)
  /-- Arrays and objects nest too deep; the first that does is of this sort. -/
  | tooDeep (container : Container)
  /-- The bytes encode no text. -/
  | undecodable (fault : EncodingFault)
  deriving DecidableEq, Repr

/-- The error in words. -/
def Error.message : Error → Text
  | .malformed flaw place => flaw.message ++ ": " ++ place.message
  | .tooLong digits => tooManyDigitsMessage digits
  | .tooDeep .array =>
    "maximum recursion depth exceeded while decoding a JSON array from a unicode string"
  | .tooDeep .object =>
    "maximum recursion depth exceeded while decoding a JSON object from a unicode string"
  | .undecodable fault => fault.message

end GridGauge.Json
