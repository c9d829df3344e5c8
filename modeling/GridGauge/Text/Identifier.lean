import GridGauge.Text.Digit
import GridGauge.Text.Mark
import GridGauge.Text.Word

/-!
# Identifiers

The code points that identifiers are made of (the properties XID_Start and
XID_Continue of Unicode, version 14, and the low line): nearly all characters
of words, and marks behind them, but no figures that are not digits.
-/

namespace GridGauge.Text

/-- The runs in identifiers of what is neither part of a word nor a mark. -/
def identifierRuns : Runs :=
  [(0xB7, 0xB7), (0x387, 0x387), (0x203F, 0x2040), (0x2054, 0x2054), (0x2118, 0x2118),
   (0x212E, 0x212E), (0xFE33, 0xFE34), (0xFE4D, 0xFE4F), (0xFF3F, 0xFF3F)]

/-- The runs of characters of words and of marks that are not part of identifiers. -/
def noIdentifierRuns : Runs :=
  [(0xB2, 0xB3), (0xB9, 0xB9), (0xBC, 0xBE), (0x37A, 0x37A), (0x488, 0x489), (0x9F4, 0x9F9),
   (0xB72, 0xB77), (0xBF0, 0xBF2), (0xC78, 0xC7E), (0xD58, 0xD5E), (0xD70, 0xD78), (0xF2A, 0xF33),
   (0x1372, 0x137C), (0x17F0, 0x17F9), (0x1ABE, 0x1ABE), (0x2070, 0x2070), (0x2074, 0x2079),
   (0x2080, 0x2089), (0x20DD, 0x20E0), (0x20E2, 0x20E4), (0x2150, 0x215F), (0x2189, 0x2189),
   (0x2460, 0x249B), (0x24EA, 0x24FF), (0x2776, 0x2793), (0x2CFD, 0x2CFD), (0x2E2F, 0x2E2F),
   (0x3192, 0x3195), (0x3220, 0x3229), (0x3248, 0x324F), (0x3251, 0x325F), (0x3280, 0x3289),
   (0x32B1, 0x32BF), (0xA670, 0xA672), (0xA830, 0xA835), (0xFC5E, 0xFC63), (0xFDFA, 0xFDFB),
   (0xFE70, 0xFE70), (0xFE72, 0xFE72), (0xFE74, 0xFE74), (0xFE76, 0xFE76), (0xFE78, 0xFE78),
   (0xFE7A, 0xFE7A), (0xFE7C, 0xFE7C), (0xFE7E, 0xFE7E), (0x10107, 0x10133), (0x10175, 0x10178),
   (0x1018A, 0x1018B), (0x102E1, 0x102FB), (0x10320, 0x10323), (0x10858, 0x1085F),
   (0x10879, 0x1087F), (0x108A7, 0x108AF), (0x108FB, 0x108FF), (0x10916, 0x1091B),
   (0x109BC, 0x109BD), (0x109C0, 0x109CF), (0x109D2, 0x109FF), (0x10A40, 0x10A48),
   (0x10A7D, 0x10A7E), (0x10A9D, 0x10A9F), (0x10AEB, 0x10AEF), (0x10B58, 0x10B5F),
   (0x10B78, 0x10B7F), (0x10BA9, 0x10BAF), (0x10CFA, 0x10CFF), (0x10E60, 0x10E7E),
   (0x10F1D, 0x10F26), (0x10F51, 0x10F54), (0x10FC5, 0x10FCB), (0x11052, 0x11065),
   (0x111E1, 0x111F4), (0x1173A, 0x1173B), (0x118EA, 0x118F2), (0x11C5A, 0x11C6C),
   (0x11FC0, 0x11FD4), (0x16B5B, 0x16B61), (0x16E80, 0x16E96), (0x1D2E0, 0x1D2F3),
   (0x1D360, 0x1D378), (0x1E8C7, 0x1E8CF), (0x1EC71, 0x1ECAB), (0x1ECAD, 0x1ECAF),
   (0x1ECB1, 0x1ECB4), (0x1ED01, 0x1ED2D), (0x1ED2F, 0x1ED3D), (0x1F100, 0x1F10C)]

/-- The runs in identifiers that are neither marks nor digits and still do not begin one. -/
def laterIdentifierRuns : Runs :=
  [(0xB7, 0xB7), (0x387, 0x387), (0xE33, 0xE33), (0xEB3, 0xEB3), (0x1369, 0x1371), (0x19DA, 0x19DA),
   (0x203F, 0x2040), (0x2054, 0x2054), (0xFE33, 0xFE34), (0xFE4D, 0xFE4F), (0xFF3F, 0xFF3F),
   (0xFF9E, 0xFF9F)]

/-- The marks that begin an identifier. -/
def firstIdentifierRuns : Runs :=
  [(0x1885, 0x1886)]

/-- Is the code point part of identifiers? -/
def isInIdentifier (c : CodePoint) : Bool :=
  if c < 0x80 then isWord c
  else identifierRuns.has c || ((isWord c || isMark c) && !noIdentifierRuns.has c)

/-- Can the code point begin an identifier? -/
def startsIdentifier (c : CodePoint) : Bool :=
  isInIdentifier c && !isDigit c && !laterIdentifierRuns.has c
    && (!isMark c || firstIdentifierRuns.has c)

end GridGauge.Text
