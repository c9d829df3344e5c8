import GridGauge.Text.Case
import GridGauge.Url.Name.Composed
import GridGauge.Url.Name.Context
import GridGauge.Url.Name.Direction
import GridGauge.Url.Name.Letter
import GridGauge.Url.Name.Punycode

/-!
# Names

The name of a server is one or more labels with full stops between them, and
maybe one behind the last. A name with a character beyond ASCII is written in
ASCII label by label (RFC 5891): a label that has such a character is checked
and written in Punycode; one of ASCII is checked too, in the form that it
stands for if it is in Punycode already.

Such a name is in lower case first, and the full stops of East Asian scripts
count as one. A label has at most 63 characters in ASCII, a name 253, without
the full stop behind it.
-/

namespace GridGauge.Url.Name

/-- Does the code point end a label? -/
def isStop (c : CodePoint) : Bool := c == 0x2E || c == 0x3002 || c == 0xFF0E || c == 0xFF61

/-- The parts of a text between full stops. -/
def parts (t : Text) : List Text :=
  Text.splitAtEach 0x2E (t.map fun c => if isStop c then 0x2E else c)

/-- Hyphens are not at either end of a label, nor at its third and fourth place both. -/
def hasFairHyphens (t : Text) : Bool :=
  t.head? != some 0x2D && t.getLast? != some 0x2D && (t.drop 2).take 2 != [0x2D, 0x2D]

/-- May each code point stand where it does? `before` is what stands before the text, last code
    point first. -/
def haveContext (before : Text) : Text → Bool
  | [] => true
  | c :: rest =>
    (isLetter c || isInContext before c rest) && haveContext (c :: before) rest

/-- Is it a label? -/
def isLabel (t : Text) : Bool :=
  !t.isEmpty && hasFairHyphens t && !(t.head?.map Text.isMark).getD false && haveContext [] t
    && isComposed t && isDirected t

/-- The most characters of a label in ASCII. -/
def labelLimit : Nat := 63

/-- The most characters of a name in ASCII. -/
def nameLimit : Nat := 253

/-- What a label in Punycode begins with. -/
def punycodeMark : Text := "xn--"

/-- The label in ASCII. -/
def labelInAscii? (t : Text) : Option Text :=
  let written : Option Text :=
    if t.any (0x80 ≤ ·) then if isLabel t then some (punycodeMark ++ Punycode.encode t) else none
    else if Text.startsWith t punycodeMark then
      let code := t.drop punycodeMark.length
      if code.isEmpty || code.getLast? == some 0x2D then none
      else ((Punycode.decode? code).filter isLabel).map fun _ => t
    else if isLabel t then some t
    else none
  written.filter (·.length ≤ labelLimit)

/-- The name in ASCII. -/
def inAscii? (name : Text) : Option Text :=
  let name := Text.lower name
  let ps := parts name
  let closed := ps.getLast? == some []
  let labels := if closed then ps.dropLast else ps
  if nameLimit + 1 < name.length || labels.isEmpty then none
  else
    (labels.mapM labelInAscii?).bind fun (labels : List Text) =>
      let ascii := Text.join [0x2E] labels
      if ascii.length ≤ nameLimit then some (if closed then ascii ++ [0x2E] else ascii) else none

end GridGauge.Url.Name
