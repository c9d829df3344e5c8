import GridGauge.Text

/-!
# The limit of digits

Integers are read and written in decimal up to a number of digits only, so
that no document can make the work grow out of hand.
-/

namespace GridGauge

/-- The most digits an integer may be read or written with. -/
def digitLimit : Nat := 4300

/-- What is said of a text with more digits than the limit. -/
def tooManyDigitsMessage (digits : Nat) : Text :=
  "Exceeds the limit (" ++ Text.ofNat digitLimit ++ " digits) for integer string conversion: "
    ++ "value has " ++ Text.ofNat digits
    ++ " digits; use sys.set_int_max_str_digits() to increase the limit"

/-- What is said of an integer that takes more digits than the limit to write. -/
def tooLongToWriteMessage : Text :=
  "Exceeds the limit (" ++ Text.ofNat digitLimit ++ " digits) for integer string conversion; "
    ++ "use sys.set_int_max_str_digits() to increase the limit"

/-- Can the integer be written within the limit? -/
def withinDigitLimit (n : Int) : Bool := n.natAbs < Nat.pow 10 digitLimit

end GridGauge
