import GridGauge.Number.Limit
import GridGauge.Text.Printable

/-!
# Flaws of expressions

What can be wrong with an expression, by cause: with its characters and
tokens, with its brackets, with how its parts stand together.
-/

namespace GridGauge.Literal

/-- Why an escape in a text stands for no character. -/
inductive EscapeReason
  /-- There are too few hexadecimal digits behind this letter, which asks for so many. -/
  | truncated (letter : CodePoint) (digits : Nat)
  /-- The number is too large for a code point. -/
  | tooLarge
  /-- The name of a character is not in braces. -/
  | malformedName
  /-- No character has this name. -/
  | unknownName
  deriving DecidableEq, Repr

/-- The reason in words. -/
def EscapeReason.message : EscapeReason → Text
  | truncated letter digits =>
    "truncated \\" ++ [letter] ++ Text.repeated digits 0x58 ++ " escape"
  | tooLarge => "illegal Unicode character"
  | malformedName => "malformed \\N character escape"
  | unknownName => "unknown Unicode character name"

/-- What is wrong with an expression. -/
inductive Flaw
  /-- A bracket that is never closed, and its line. -/
  | neverClosed (opening : CodePoint) (line : Nat)
  /-- A bracket that closes nothing. -/
  | unmatched (closing : CodePoint)
  /-- A bracket that closes another kind, which was opened on another line if one is given. -/
  | mismatched (closing opening : CodePoint) (line : Option Nat)
  /-- There are too many brackets in brackets. -/
  | tooNested
  /-- A text without its closing mark, found out on this line. -/
  | unterminated (line : Nat)
  /-- A text of several lines without its closing marks, found out on this line. -/
  | unterminatedLines (line : Nat)
  /-- A character that nothing consists of. -/
  | character (c : CodePoint)
  /-- A number of this kind that goes on as no number does. -/
  | number (kind : Text)
  /-- A digit that is too large for a number of this kind. -/
  | digit (d : CodePoint) (kind : Text)
  /-- A number of more than one digit that starts with zero. -/
  | leadingZeros
  /-- A number of more digits than are read. -/
  | tooManyDigits (digits : Nat)
  /-- Something behind a backslash outside of a text. -/
  | behindBackslash
  /-- The end where more is needed. -/
  | unexpectedEnd
  /-- Blanks at the start of a line. -/
  | unexpectedIndent
  /-- A text next to octets. -/
  | mixedTexts
  /-- Octets beyond ASCII. -/
  | octetsBeyondAscii
  /-- A bad escape in a text, from one position to another. -/
  | escape (first last : Nat) (reason : EscapeReason)
  /-- A bad escape in octets. -/
  | octetEscape (position : Nat)
  /-- A brace in a text with fields that opens none, or that is not closed. -/
  | fieldBrace (isOpening : Bool)
  /-- A field with nothing in it. -/
  | emptyField
  /-- Something that fits nowhere. -/
  | misfit
  /-- Two expressions with nothing between them. -/
  | forgottenComma
  /-- A condition with one case. -/
  | missingElse
  /-- A statement of old in the place of a call. -/
  | missingParentheses (name : Text)
  /-- A name with an equals sign behind it. -/
  | assignment
  /-- Another thing with an equals sign behind it. -/
  | assignmentTo (what : Text)
  /-- The same in the place of an argument. -/
  | argumentAssignment
  /-- A constant in the place of the name of an argument. -/
  | constantArgument (name : Text)
  /-- A thing that cannot be named on the way. -/
  | naming (what : Text)
  /-- A thing that cannot stand for each of some others. -/
  | loopTarget (what : Text)
  /-- A star, or two, in round brackets. -/
  | starred (double : Bool)
  /-- A star in front of a value of a dictionary. -/
  | starredValue
  /-- A star, or two, in front of what is made for each of some others. -/
  | starredEach (double : Bool)
  /-- Several things made for each of some others, without brackets. -/
  | severalEach
  /-- A thing made for each of some others among other arguments, without brackets. -/
  | eachArgument
  /-- An argument without a name behind one with a name, or behind two stars. -/
  | lateArgument (unpacking : Bool)
  /-- An argument with a star behind two stars. -/
  | lateStar
  /-- A key with a colon and no value. -/
  | missingValue
  /-- A key without a colon. -/
  | missingColon
  /-- A parameter with an equals sign and no value. -/
  | missingUsualValue
  /-- A parameter without a usual value behind one with one. -/
  | lateParameter
  /-- Parameters in brackets. -/
  | bracketedParameters
  /-- A slash with no parameter in front. -/
  | earlySlash
  /-- A second slash among parameters. -/
  | secondSlash
  /-- A slash behind a star. -/
  | lateSlash
  /-- A slash and a star with no comma between. -/
  | slashStar
  /-- A star with no parameter behind it. -/
  | bareStar
  /-- A second star among parameters. -/
  | secondStar
  /-- A usual value for the rest of the arguments, of those with a name or of those without. -/
  | setRest (named : Bool)
  /-- A parameter behind the one for the rest of the arguments with a name. -/
  | behindRest
  deriving DecidableEq, Repr

/-- What is said when there is no more to say. -/
def invalidText : Text := "invalid syntax"

/-- The flaw in words. -/
def Flaw.message : Flaw → Text
  | neverClosed opening _ => "'" ++ [opening] ++ "' was never closed"
  | unmatched closing => "unmatched '" ++ [closing] ++ "'"
  | mismatched closing opening line =>
    "closing parenthesis '" ++ [closing] ++ "' does not match opening parenthesis '" ++ [opening]
      ++ "'" ++ (match line with
        | some n => (" on line " : Text) ++ Text.ofNat n
        | none => [])
  | tooNested => "too many nested parentheses"
  | unterminated line =>
    "unterminated string literal (detected at line " ++ Text.ofNat line ++ ")"
  | unterminatedLines line =>
    "unterminated triple-quoted string literal (detected at line " ++ Text.ofNat line ++ ")"
  | character c =>
    let number := (Text.ofHex 4 c).map fun d => if Text.isLowerLetter d then d - 32 else d
    if Text.isPrintable c then "invalid character '" ++ [c] ++ "' (U+" ++ number ++ ")"
    else "invalid non-printable character U+" ++ number
  | number kind => "invalid " ++ kind ++ " literal"
  | digit d kind => "invalid digit '" ++ [d] ++ "' in " ++ kind ++ " literal"
  | leadingZeros =>
    "leading zeros in decimal integer literals are not permitted; "
      ++ "use an 0o prefix for octal integers"
  | tooManyDigits digits =>
    tooManyDigitsMessage digits
      ++ " - Consider hexadecimal for huge integer literals to avoid decimal conversion limits."
  | behindBackslash => "unexpected character after line continuation character"
  | unexpectedEnd => "unexpected EOF while parsing"
  | unexpectedIndent => "unexpected indent"
  | mixedTexts => "cannot mix bytes and nonbytes literals"
  | octetsBeyondAscii => "bytes can only contain ASCII literal characters"
  | escape first last reason =>
    "(unicode error) 'unicodeescape' codec can't decode bytes in position " ++ Text.ofNat first
      ++ "-" ++ Text.ofNat last ++ ": " ++ reason.message
  | octetEscape position => "(value error) invalid \\x escape at position " ++ Text.ofNat position
  | fieldBrace true => "f-string: expecting '\x7d'"
  | fieldBrace false => "f-string: single '\x7d' is not allowed"
  | emptyField => "f-string: empty expression not allowed"
  | misfit => invalidText
  | forgottenComma => invalidText ++ ". Perhaps you forgot a comma?"
  | missingElse => "expected 'else' after 'if' expression"
  | missingParentheses name =>
    "Missing parentheses in call to '" ++ name ++ "'. Did you mean " ++ name ++ "(...)?"
  | assignment => invalidText ++ ". Maybe you meant '==' or ':=' instead of '='?"
  | assignmentTo what =>
    "cannot assign to " ++ what ++ " here. Maybe you meant '==' instead of '='?"
  | argumentAssignment => "expression cannot contain assignment, perhaps you meant \"==\"?"
  | constantArgument name => "cannot assign to " ++ name
  | naming what => "cannot use assignment expressions with " ++ what
  | loopTarget what => "cannot assign to " ++ what
  | starred false => "cannot use starred expression here"
  | starred true => "cannot use double starred expression here"
  | starredValue => "cannot use a starred expression in a dictionary value"
  | starredEach false => "iterable unpacking cannot be used in comprehension"
  | starredEach true => "dict unpacking cannot be used in dict comprehension"
  | severalEach => "did you forget parentheses around the comprehension target?"
  | eachArgument => "Generator expression must be parenthesized"
  | lateArgument false => "positional argument follows keyword argument"
  | lateArgument true => "positional argument follows keyword argument unpacking"
  | lateStar => "iterable argument unpacking follows keyword argument unpacking"
  | missingValue => "expression expected after dictionary key and ':'"
  | missingColon => "':' expected after dictionary key"
  | missingUsualValue => "expected default value expression"
  | lateParameter => "non-default argument follows default argument"
  | bracketedParameters => "Lambda expression parameters cannot be parenthesized"
  | earlySlash => "at least one argument must precede /"
  | secondSlash => "/ may appear only once"
  | lateSlash => "/ must be ahead of *"
  | slashStar => "expected comma between / and *"
  | bareStar => "named arguments must follow bare *"
  | secondStar => "* argument may appear only once"
  | setRest false => "var-positional argument cannot have default value"
  | setRest true => "var-keyword argument cannot have default value"
  | behindRest => "arguments cannot follow var-keyword argument"

end GridGauge.Literal
