import GridGauge.Encoding.Surrogate
import GridGauge.Literal.Grammar
import GridGauge.Number.Binary64

/-!
# Literals

A literal is an expression that is its own value: a number, a text, one of the
constants, and tuples, sets and dictionaries of literals. A number may have a
sign, and a real number an imaginary part.

What is in a set, and what is a key of a dictionary, must not be a set or a
dictionary itself, nor a tuple with one in it.
-/

namespace GridGauge

/-- Why a text is no literal. -/
inductive LiteralError
  /-- It is no expression. -/
  | flaw (f : Literal.Flaw)
  /-- There are surrogates in it. -/
  | surrogates (f : SurrogateFault)
  /-- There is a zero in it. -/
  | zero
  /-- There is an expression of this kind in it. -/
  | other (kind : Text)
  /-- There is a dictionary with another one in it. -/
  | noKey
  /-- A value of this type is in a set, or is a key. -/
  | changing (type : Text)
  /-- A number is too large for an imaginary part. -/
  | tooLarge
  deriving DecidableEq, Repr

/-- The error in words. -/
def LiteralError.message : LiteralError → Text
  | .flaw f => f.message
  | .surrogates f => f.message
  | .zero => "source code string cannot contain null bytes"
  | .other kind => "malformed node or string on line 1: <ast." ++ kind ++ " object>"
  | .noKey => "malformed node or string: None"
  | .changing type => "unhashable type: '" ++ type ++ "'"
  | .tooLarge => "int too large to convert to float"

namespace Literal

/-- What is kept of a value: the type that keeps it out of sets, if it has one or is made of it. -/
abbrev Value := Option Text

namespace Node

/-- The error of a node that is no part of a literal. -/
def unfit : Node → LiteralError
  | noKey => .noKey
  | x => .other x.kindName

/-- The value of a number, which may have a sign. -/
def signedNumber : Node → Except LiteralError Numeral
  | number n => .ok n
  | signed (number n) => .ok n
  | signed x => .error x.unfit
  | x => .error x.unfit

/-- The value of a sum: a real number and an imaginary one. -/
def sumValue (whole x y : Node) : Except LiteralError Value := do
  let n ← x.signedNumber
  match y with
  | number .imaginary =>
    match n with
    | .imaginary => throw whole.unfit
    | .real => return none
    | .integer n _ => if (Binary64.ofInt? n).isSome then return none else throw .tooLarge
  | number _ => throw whole.unfit
  | y => throw y.unfit

mutual

/-- The value of a literal. -/
def value : Node → Except LiteralError Value
  | number _ | text | octets | constant _ | ellipsis => .ok none
  | emptySet => .ok (some "set")
  | tuple items => tupleValue items
  | set items => do
    setValue items
    return some "set"
  | dictionary entries => do
    dictionaryValue entries
    return some "dict"
  | signed x => do
    let _ ← (signed x).signedNumber
    return none
  | sum x y => sumValue (sum x y) x y
  | x => .error x.unfit

/-- What is kept of a tuple: the first type that keeps one of its items out of sets. -/
def tupleValue : List Node → Except LiteralError Value
  | [] => .ok none
  | x :: xs => do
    let v ← value x
    return v.or (← tupleValue xs)

/-- The items of a set, one after the other. -/
def setValue : List Node → Except LiteralError Unit
  | [] => .ok ()
  | x :: xs => do
    match ← value x with
    | some type => throw (.changing type)
    | none => setValue xs

/-- The keys and the values of a dictionary, one after the other. -/
def dictionaryValue : List Node → Except LiteralError Unit
  | entry k v :: es => do
    let key ← value k
    let _ ← value v
    match key with
    | some type => throw (.changing type)
    | none => dictionaryValue es
  | _ => .ok ()

end

end Node

/-- The value of a text that is a literal, blanks in front aside. -/
def read (t : Text) : Except LiteralError Value := do
  let t := t.dropWhile fun c => c == 32 || c == 9
  match SurrogateFault.find? (fun _ => false) 0 t with
  | some f => throw (.surrogates f)
  | none =>
    if t.contains 0 then throw .zero
    let node ← (Node.ofText (Text.unifyBreaks t)).mapError .flaw
    node.value

end Literal

end GridGauge
