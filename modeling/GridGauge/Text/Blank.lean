import GridGauge.Text

/-!
# Blanks

The code points that count as blank: those whose bidirectional class is a
separator or whose category is a space, 29 in all. Trimming removes them at
both ends of a text; inside, they stay.
-/

namespace GridGauge.Text

/-- Is `c` blank? -/
def isBlank (c : CodePoint) : Bool :=
  (9 ≤ c && c ≤ 13) || (28 ≤ c && c ≤ 32) || c == 0x85 || c == 0xA0 || c == 0x1680
    || (0x2000 ≤ c && c ≤ 0x200A) || c == 0x2028 || c == 0x2029 || c == 0x202F || c == 0x205F
    || c == 0x3000

/-- Is `c` one of the six blanks a number written in ASCII may stand between? -/
def isAsciiBlank (c : CodePoint) : Bool := (9 ≤ c && c ≤ 13) || c == 32

/-- The text less the code points of a class at both of its ends. -/
def trimBy (p : CodePoint → Bool) (t : Text) : Text :=
  ((t.dropWhile p).reverse.dropWhile p).reverse

/-- The text less the blanks at both of its ends. -/
def trim (t : Text) : Text := trimBy isBlank t

end GridGauge.Text
