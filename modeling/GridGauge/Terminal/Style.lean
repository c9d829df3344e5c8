import GridGauge.Number.Reading
import GridGauge.Text.Case

/-!
# Styles

A style is asked for in words: effects, `not` in front of those that are to
be off, a colour, `on` in front of that of the background, and `link` in front
of an address. The order of the words does not count, and the last one wins
where several say different things: `Style.toText` writes all of them alike.

Two texts ask for the same style when they have the same name (`styleName`),
which for a text that asks for none is the text itself in lower case.
-/

namespace GridGauge.Terminal

/-- The effects by their spellings. -/
def effectSpellings : List (Text × Text) :=
  [("dim", "dim"), ("d", "dim"), ("bold", "bold"), ("b", "bold"), ("italic", "italic"),
    ("i", "italic"), ("underline", "underline"), ("u", "underline"), ("blink", "blink"),
    ("blink2", "blink2"), ("reverse", "reverse"), ("r", "reverse"), ("conceal", "conceal"),
    ("c", "conceal"), ("strike", "strike"), ("s", "strike"), ("underline2", "underline2"),
    ("uu", "underline2"), ("frame", "frame"), ("encircle", "encircle"), ("overline", "overline"),
    ("o", "overline")]

/-- The effects in the order in which they are written. -/
def effects : List Text :=
  ["bold", "dim", "italic", "underline", "blink", "blink2", "reverse", "conceal", "strike",
    "underline2", "frame", "encircle", "overline"]

/-- The names of colours, several to a line. -/
def colourNames : List Text :=
  ["black red green yellow blue magenta cyan white bright_black bright_red bright_green",
   "bright_yellow bright_blue bright_magenta bright_cyan bright_white grey0 gray0",
   "navy_blue dark_blue blue3 blue1 dark_green deep_sky_blue4 dodger_blue3 dodger_blue2",
   "green4 spring_green4 turquoise4 deep_sky_blue3 dodger_blue1 green3 spring_green3",
   "dark_cyan light_sea_green deep_sky_blue2 deep_sky_blue1 spring_green2 cyan3",
   "dark_turquoise turquoise2 green1 spring_green1 medium_spring_green cyan2 cyan1",
   "dark_red deep_pink4 purple4 purple3 blue_violet orange4 grey37 gray37 medium_purple4",
   "slate_blue3 royal_blue1 chartreuse4 dark_sea_green4 pale_turquoise4 steel_blue",
   "steel_blue3 cornflower_blue chartreuse3 cadet_blue sky_blue3 steel_blue1 pale_green3",
   "sea_green3 aquamarine3 medium_turquoise chartreuse2 sea_green2 sea_green1",
   "aquamarine1 dark_slate_gray2 dark_magenta dark_violet purple light_pink4 plum4",
   "medium_purple3 slate_blue1 yellow4 wheat4 grey53 gray53 light_slate_grey",
   "light_slate_gray medium_purple light_slate_blue dark_olive_green3 dark_sea_green",
   "light_sky_blue3 sky_blue2 dark_sea_green3 dark_slate_gray3 sky_blue1 chartreuse1",
   "light_green pale_green1 dark_slate_gray1 red3 medium_violet_red magenta3",
   "dark_orange3 indian_red hot_pink3 medium_orchid3 medium_orchid medium_purple2",
   "dark_goldenrod light_salmon3 rosy_brown grey63 gray63 medium_purple1 gold3",
   "dark_khaki navajo_white3 grey69 gray69 light_steel_blue3 light_steel_blue yellow3",
   "dark_sea_green2 light_cyan3 light_sky_blue1 green_yellow dark_olive_green2",
   "dark_sea_green1 pale_turquoise1 deep_pink3 magenta2 hot_pink2 orchid medium_orchid1",
   "orange3 light_pink3 pink3 plum3 violet light_goldenrod3 tan misty_rose3 thistle3",
   "plum2 khaki3 light_goldenrod2 light_yellow3 grey84 gray84 light_steel_blue1 yellow2",
   "dark_olive_green1 honeydew2 light_cyan1 red1 deep_pink2 deep_pink1 magenta1",
   "orange_red1 indian_red1 hot_pink dark_orange salmon1 light_coral pale_violet_red1",
   "orchid2 orchid1 orange1 sandy_brown light_salmon1 light_pink1 pink1 plum1 gold1",
   "navajo_white1 misty_rose1 thistle1 yellow1 light_goldenrod1 khaki1 wheat1 cornsilk1",
   "grey100 gray100 grey3 gray3 grey7 gray7 grey11 gray11 grey15 gray15 grey19 gray19",
   "grey23 gray23 grey27 gray27 grey30 gray30 grey35 gray35 grey39 gray39 grey42 gray42",
   "grey46 gray46 grey50 gray50 grey54 gray54 grey58 gray58 grey62 gray62 grey66 gray66",
   "grey70 gray70 grey74 gray74 grey78 gray78 grey82 gray82 grey85 gray85 grey89 gray89",
   "grey93 gray93 default"]

/-- Is it the name of a colour? -/
def isColourName (t : Text) : Bool :=
  colourNames.any fun line => (Text.splitAtEach 32 line).contains t

/-- What is between an opening and a closing text. -/
def between? (opening closing t : Text) : Option Text :=
  if Text.startsWith t opening && Text.endsWith (t.drop opening.length) closing then
    some ((t.drop opening.length).take (t.length - opening.length - closing.length))
  else none

/-- Is it six hexadecimal digits in lower case, behind a number sign? -/
def isHexColour (t : Text) : Bool :=
  match t with
  | 0x23 :: digits =>
    digits.length == 6 && digits.all fun c => (Text.hexValue? c).isSome && !Text.isUpperLetter c
  | _ => false

/-- Are these the three parts of a colour between commas? One that is not a number is an error. -/
def areComponents (t : Text) : Except NumberError Bool :=
  if t.isEmpty || !t.all fun c => Text.isDigit c || c == 0x2C then .ok false
  else
    match Text.splitAtEach 0x2C t with
    | [red, green, blue] => do
      let red ← Reading.integer red
      let green ← Reading.integer green
      let blue ← Reading.integer blue
      return red ≤ 255 && green ≤ 255 && blue ≤ 255
    | _ => .ok false

/-- Is it a colour, in lower case: a name, six digits, a number up to 255, or three of them? -/
def isColour (t : Text) : Except NumberError Bool :=
  if isColourName t || isHexColour t then .ok true
  else
    match between? "color(" ")" t, between? "rgb(" ")" t with
    | some n, _ =>
      .ok (!n.isEmpty && n.length ≤ 3 && n.all Text.isDecimalDigit && Text.decimalValue n ≤ 255)
    | none, some parts => areComponents parts
    | none, none => .ok false

/-- What a text asks for. -/
structure Style where
  /-- The effects that are set, with whether they are on. -/
  set : List (Text × Bool) := []
  colour : Option Text := none
  background : Option Text := none
  link : Option Text := none
  deriving DecidableEq, Repr

namespace Style

/-- The style with an effect set. -/
def put (s : Style) (effect : Text) (on : Bool) : Style :=
  { s with set := (effect, on) :: s.set }

/-- The style that words ask for besides `s`, if they do. -/
def ofWords : List Text → Style → Except NumberError (Option Style)
  | [], s => .ok (some s)
  | first :: rest, s =>
    let word := Text.lower first
    if word == "on" then
      match rest with
      | [] => .ok none
      | colour :: rest => do
        let colour := Text.lower colour
        if ← isColour colour then ofWords rest { s with background := some colour }
        else return none
    else if word == "not" then
      match rest with
      | [] => .ok none
      | name :: rest =>
        match effectSpellings.lookup name with
        | some effect => ofWords rest (s.put effect false)
        | none => .ok none
    else if word == "link" then
      match rest with
      | [] => .ok none
      | address :: rest => ofWords rest { s with link := some address }
    else
      match effectSpellings.lookup word with
      | some effect => ofWords rest (s.put effect true)
      | none => do
        if ← isColour word then ofWords rest { s with colour := some word } else return none

/-- The words of a text. -/
def wordsOf (t : Text) : List Text :=
  (Text.splitAtEach 32 (t.map fun c => if Text.isBlank c then 32 else c)).filter
    (!List.isEmpty ·)

/-- The style that a text asks for, if it does. -/
def ofText (t : Text) : Except NumberError (Option Style) :=
  if Text.trim t == "none" then .ok (some {}) else ofWords (wordsOf t) {}

/-- The style in words. -/
def toText (s : Style) : Text :=
  let effects := effects.filterMap fun effect =>
    (s.set.lookup effect).map fun on => if on then effect else "not " ++ effect
  let behind (word : Text) (t : Option Text) : List Text := (t.map (word ++ ·)).toList
  let words := effects ++ s.colour.toList ++ behind "on " s.background ++ behind "link " s.link
  if words.isEmpty then "none" else Text.join [32] words

end Style

/-- The name by which the style is known that a text asks for. -/
def styleName (t : Text) : Except NumberError Text :=
  (Style.ofText t).map fun
    | some s => s.toText
    | none => Text.lower (Text.trim t)

end GridGauge.Terminal
