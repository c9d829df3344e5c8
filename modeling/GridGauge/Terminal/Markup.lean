import GridGauge.Literal
import GridGauge.Terminal.Emoji
import GridGauge.Terminal.Style
import GridGauge.Terminal.Wrap

/-!
# Markup

A text for the terminal may hold tags in square brackets that ask for a style
from here on, or end one: `[/name]` the innermost of that name, `[/]` the
innermost of all. Styles do not show on a plain terminal, so of a tag nothing
is left; but to end a style that has not begun is an error. What stands behind
an equals sign in a tag belongs to its style, and is read with the name when
the text is drawn.

A tag begins with a small letter or one of `#/@`; brackets around anything
else stand for themselves. So does a tag with a backslash in front. Between
tags, the name of a picture between colons stands for the picture.

A tag whose name begins with `@` has no style but data behind its equals sign:
a literal, or a name with its arguments in round brackets. They are looked at
where the tag is ended (`OpenStyle.checkData`).
-/

namespace GridGauge.Terminal

/-- Why markup cannot be followed. -/
inductive MarkupError
  /-- The tag ends a style, but none of its name has begun. -/
  | notOpen (tag : Text) (position : Nat)
  /-- There is no style to end. -/
  | nothingOpen (position : Nat)
  /-- A part of a colour is no number. -/
  | unreadable (e : NumberError)
  /-- The data of a tag, or a part of it, are no literal. -/
  | data (part whole : Text) (e : LiteralError)
  deriving DecidableEq, Repr

/-- The error in words. -/
def MarkupError.message : MarkupError → Text
  | .notOpen tag position =>
    "closing tag '[" ++ tag ++ "]' at position " ++ Text.ofNat position
      ++ " doesn't match any open tag"
  | .nothingOpen position =>
    "closing tag '[/]' at position " ++ Text.ofNat position ++ " has nothing to close"
  | .unreadable e => e.message
  | .data part whole e =>
    let place : Text := match e with
      | .flaw _ => Text.Quoted.encode part ++ (" in " : Text)
      | _ => []
    "error parsing " ++ place ++ Text.Quoted.encode whole ++ "; " ++ e.message

/-- A piece of markup. -/
inductive Piece
  | text (t : Text)
  /-- A tag with what is between its brackets, and where it begins. -/
  | tag (content : Text) (position : Nat)
  deriving DecidableEq, Repr

/-- May a tag begin with the character? -/
def startsTag (c : CodePoint) : Bool := Text.isLowerLetter c || ("#/@" : Text).contains c

/-- What is between the brackets of a tag, the text behind its opening bracket given. -/
def tagContent? (t : Text) : Option Text :=
  let content := t.takeWhile fun c => c != 0x5D && c != 0x5B
  if (content.head?.map startsTag) = some true && t[content.length]? = some 0x5D then some content
  else none

/-- Markup half taken to pieces. -/
structure Scan where
  /-- The position of the next character. -/
  position : Nat := 0
  /-- The characters still to come of a tag that is dealt with. -/
  skip : Nat := 0
  /-- The text since the last tag. -/
  plain : Text := []
  /-- The backslashes behind it. -/
  slashes : Nat := 0

/-- The backslashes as text. -/
def Scan.slashText (s : Scan) (n : Nat) : Text := s.plain ++ Text.repeated n 0x5C

/-- A piece of text, unless it is empty. -/
def textPiece (t : Text) : List Piece := if t.isEmpty then [] else [.text t]

/-- The pieces of a tag with what is in front of it. Of the backslashes right in front of a tag
    each two stand for one, and one that is over makes text of the tag. -/
def Scan.tagPieces (s : Scan) (content : Text) : List Piece :=
  textPiece s.plain ++ textPiece (Text.repeated (s.slashes / 2) 0x5C)
    ++ [if s.slashes % 2 = 0 then .tag content s.position
        else .text ([0x5B] ++ content ++ [0x5D])]

/-- The pieces of the rest of some markup. -/
def scanMarkup : Text → Scan → List Piece
  | [], s => textPiece (s.slashText s.slashes)
  | c :: rest, s =>
    let next := { s with position := s.position + 1 }
    if 0 < s.skip then scanMarkup rest { next with skip := s.skip - 1 }
    else if c = 0x5C then scanMarkup rest { next with slashes := s.slashes + 1 }
    else match if c = 0x5B then tagContent? rest else none with
      | some content =>
        s.tagPieces content
          ++ scanMarkup rest { position := next.position, skip := content.length + 1 }
      | none => scanMarkup rest { next with plain := s.slashText s.slashes ++ [c], slashes := 0 }

/-- The pieces of markup. -/
def piecesOf (markup : Text) : List Piece := scanMarkup markup {}

/-! ## Styles -/

/-- A style that goes on: its name, what stands behind an equals sign in its tag, and where in what
    shows it begins. -/
structure OpenStyle where
  name : Text
  parameters : Option Text
  start : Nat
  deriving DecidableEq, Repr

namespace OpenStyle

/-- Is it no style, but data? -/
def isData (style : OpenStyle) : Bool := style.name.head? == some 0x40

/-- The stretch that the style has if it ends at a position. -/
def spanTo (style : OpenStyle) (stop : Nat) : Span where
  start := style.start
  stop := stop
  style := style.name ++ (style.parameters.map ((" " : Text) ++ ·)).getD []

end OpenStyle

/-- The literal in the data of a tag: the arguments behind a name, none if there is only the name,
    and else all of the data. -/
def literalOf (data : Text) : Text :=
  let (name, arguments) := data.span (· != 0x28)
  let isCall := name.all fun c => Text.isWord c || c == 0x2E
  if isCall && arguments.isEmpty then "()"
  else if isCall && arguments.getLast? == some 0x29 && !arguments.contains 10 then arguments
  else data

/-- Refuses a tag with data that are no literal, when it is ended. -/
def OpenStyle.checkData (style : OpenStyle) : Except MarkupError Unit :=
  let data := style.parameters.getD []
  if !style.isData || data.isEmpty then .ok ()
  else
    let part := literalOf (Text.trim data)
    match Literal.read part with
    | .ok _ => .ok ()
    | .error e => .error (.data part data e)

/-- What shows of markup so far, and the styles that go on, the innermost first. -/
structure Rendering where
  shown : Styled
  openStyles : List OpenStyle
  deriving DecidableEq, Repr

namespace Rendering

/-- The rendering when a style has been ended and these go on. -/
def endStyle (r : Rendering) (style : OpenStyle) (others : List OpenStyle) :
    Except MarkupError Rendering := do
  style.checkData
  let shown := if style.isData then r.shown else r.shown.mark (style.spanTo r.shown.text.length)
  return ⟨shown, others⟩

/-- The rendering behind a tag. -/
def follow (r : Rendering) (content : Text) (position : Nat) : Except MarkupError Rendering :=
  let (name, parameters) := Text.breakAt 0x3D content
  match name with
  | 0x2F :: name =>
    if (Text.trim name).isEmpty then
      match r.openStyles with
      | [] => .error (.nothingOpen position)
      | style :: outer => r.endStyle style outer
    else do
      let name ← (styleName (Text.trim name)).mapError .unreadable
      match r.openStyles.find? (·.name == name) with
      | some style => r.endStyle style (r.openStyles.eraseP (·.name == name))
      | none => throw (.notOpen content position)
  | name => do
    let name ← (styleName name).mapError .unreadable
    return { r with openStyles := ⟨name, parameters, r.shown.text.length⟩ :: r.openStyles }

/-- What shows in the end. The styles that still go on end here. -/
def finish (r : Rendering) : Styled :=
  r.openStyles.foldl (fun t style => t.mark (style.spanTo t.text.length)) r.shown

end Rendering

/-! ## What shows -/

/-- The text with brackets for those that have a backslash in front. -/
def unescape : Text → Text
  | 0x5C :: 0x5B :: rest => 0x5B :: unescape rest
  | c :: rest => c :: unescape rest
  | [] => []

/-- The text without the characters that ring a bell or move backwards or down. -/
def withoutControls (t : Text) : Text :=
  t.filter fun (c : CodePoint) => !([7, 8, 11, 12, 13] : Text).contains c

/-- A text without markup, as it shows. -/
def plainText (t : Text) : Text := withoutControls (Emoji.replace t)

/-- What shows behind more pieces. -/
def render : List Piece → Rendering → Except MarkupError Rendering
  | [], r => .ok r
  | .text t :: ps, r =>
    render ps { r with shown := { r.shown with text := r.shown.text ++ plainText (unescape t) } }
  | .tag content position :: ps, r =>
    match r.follow content position with
    | .ok r => render ps r
    | .error e => .error e

/-- What shows of markup. -/
def markedText (markup : Text) : Except MarkupError Styled :=
  (render (piecesOf markup) ⟨.plain [], []⟩).map Rendering.finish

/-! ## Printing -/

/-- Refuses a text with a style that cannot be read. What asks for no style is none. -/
def Styled.check (t : Styled) : Except MarkupError Unit :=
  t.spans.forM fun s => ((Style.ofText s.style).mapError .unreadable).map fun _ => ()

/-- Lines as they are printed. -/
def printedLines (lines : List Text) : Text := lines.flatMap (· ++ [10])

/-- A text printed on a terminal with `columns` cells in a line. -/
def printed (columns : Nat) (t : Text) : Text :=
  if columns = 0 then [] else printedLines (linesOf columns .fold t)

/-- Markup printed. -/
def printedMarkup (columns : Nat) (markup : Text) : Except MarkupError Text := do
  let t ← markedText markup
  if columns = 0 then return []
  let lines := wrap columns .fold t
  lines.forM Styled.check
  return printedLines (lines.map Styled.text)

end GridGauge.Terminal
