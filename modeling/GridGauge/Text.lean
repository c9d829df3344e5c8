/-!
# Text

A text is a list of code points. A surrogate is a code point like any other
here: a 16-bit escape can write one alone, and nothing between reading it and
reporting it may drop it, so `Char` is too narrow.

`Text` is an abbreviation of a list, so that all of the theory of lists is at
hand; a string literal is read as a text where one is expected.
-/

namespace GridGauge

/-- A number below `0x110000`. -/
abbrev CodePoint := Nat

/-- A text: its code points in order. -/
abbrev Text := List CodePoint

namespace Text

/-- The code points of a string. -/
def ofString (s : String) : Text := s.toList.map Char.toNat

instance : Coe String Text := ⟨ofString⟩

/-- The text as a string, when it holds no surrogate. -/
def toString? (t : Text) : Option String :=
  (t.mapM fun c : CodePoint => if h : c.isValidChar then some (Char.ofNatAux c h) else none).map
    String.ofList

/-- Is `c` one half of a surrogate pair? -/
def isSurrogate (c : CodePoint) : Bool := 0xD800 ≤ c && c ≤ 0xDFFF

/-- Is `c` one of `0` to `9`? -/
def isDecimalDigit (c : CodePoint) : Bool := 48 ≤ c && c ≤ 57

/-- Is `c` one of the 26 lower-case letters of ASCII? -/
def isLowerLetter (c : CodePoint) : Bool := 97 ≤ c && c ≤ 122

/-- Is `c` one of the 26 upper-case letters of ASCII? -/
def isUpperLetter (c : CodePoint) : Bool := 65 ≤ c && c ≤ 90

/-- The value of a hexadecimal digit of either case. -/
def hexValue? (c : CodePoint) : Option Nat :=
  if isDecimalDigit c then some (c - 48)
  else if 97 ≤ c && c ≤ 102 then some (c - 87)
  else if 65 ≤ c && c ≤ 70 then some (c - 55)
  else none

/-- The digit of value `d`, in lower case from ten on. -/
def digit (d : Nat) : CodePoint := if d < 10 then 48 + d else 87 + d

/-- The digits of `n` in base `b`, most significant first, `fuel` bounding their number. -/
def digitsFrom (b : Nat) : (fuel : Nat) → (n : Nat) → Text → Text
  | 0, _, acc => acc
  | fuel + 1, n, acc =>
    if n < b then digit n :: acc else digitsFrom b fuel (n / b) (digit (n % b) :: acc)

/-- The decimal digits of a natural number. -/
def ofNat (n : Nat) : Text := (Nat.toDigits 10 n).map Char.toNat

/-- An integer in decimal, with a minus sign when negative. -/
def ofInt : Int → Text
  | .ofNat n => ofNat n
  | .negSucc n => 45 :: ofNat (n + 1)

/-- The code point `c`, `n` times. -/
def repeated (n : Nat) (c : CodePoint) : Text := List.replicate n c

/-- `n` in hexadecimal with at least `width` digits, padded with zeros. -/
def ofHex (width n : Nat) : Text :=
  let digits := digitsFrom 16 (n + 1) n []
  repeated (width - digits.length) 48 ++ digits

/-- A natural number in decimal with at least `width` digits, padded with zeros. -/
def ofNatPadded (width n : Nat) : Text :=
  let digits := ofNat n
  repeated (width - digits.length) 48 ++ digits

/-- The value of a list of decimal digits. -/
def decimalValue (digits : Text) : Nat := digits.foldl (fun n c => 10 * n + (c - 48)) 0

/-- The text with each ASCII letter in lower case. -/
def lowerLetters (t : Text) : Text := t.map fun c => if isUpperLetter c then c + 32 else c

/-- The parts of a text between the occurrences of `separator`: one more than there are of them. -/
def splitAtEach (separator : CodePoint) : Text → List Text
  | [] => [[]]
  | c :: rest =>
    if c = separator then [] :: splitAtEach separator rest
    else match splitAtEach separator rest with
      | [] => [[c]]
      | part :: parts => (c :: part) :: parts

/-- The texts one after the other with `separator` between them. -/
def join (separator : Text) : List Text → Text
  | [] => []
  | [t] => t
  | t :: ts => t ++ separator ++ join separator ts

theorem splitAtEach_ne_nil (c : CodePoint) (t : Text) : splitAtEach c t ≠ [] := by
  cases t with
  | nil => simp [splitAtEach]
  | cons d t =>
    rw [splitAtEach]
    split
    · simp
    · split <;> simp

/-- The text before the first occurrence of `c`, and the text after it if there is one. -/
def breakAt (c : CodePoint) (t : Text) : Text × Option Text :=
  match t.span (· != c) with
  | (before, []) => (before, none)
  | (before, _ :: after) => (before, some after)

/-- The text less every `c` at its end. -/
def dropTrailing (c : CodePoint) (t : Text) : Text :=
  (t.reverse.dropWhile (· == c)).reverse

/-- The text with each kind of line end as a line feed. -/
def unifyBreaks : Text → Text
  | 13 :: 10 :: rest => 10 :: unifyBreaks rest
  | 13 :: rest => 10 :: unifyBreaks rest
  | c :: rest => c :: unifyBreaks rest
  | [] => []

/-- Does `t` begin with `start`? -/
def startsWith (t start : Text) : Bool := start.isPrefixOf t

/-- Does `t` end in `ending`? -/
def endsWith (t ending : Text) : Bool := ending.isSuffixOf t

end Text

end GridGauge
