import GridGauge.Terminal.Styled
import GridGauge.Terminal.Width
import GridGauge.Text.Blank

/-!
# Lines of a given width

A text is broken into lines that take no more than a given number of cells. It
is broken between words, a word keeping the blanks behind it; what is left of
them at the end of a line is dropped as far as it goes beyond the width.

A word that is too wide for any line is either folded, so that nothing is
lost, or cut with an ellipsis at the end.
-/

namespace GridGauge.Terminal

/-- What happens to a word that is wider than a line. -/
inductive Overflow
  | fold
  | ellipsis
  deriving DecidableEq, Repr

/-- The parts of a line between its tabs, each but the last with spaces behind it up to the next
    multiple of eight cells, the line starting at `column`. -/
def spreadParts : (column : Nat) → List Text → Text
  | _, [] => []
  | _, [part] => part
  | column, part :: parts =>
    let column := column + width (part ++ spaces 1)
    let missing := (8 - column % 8) % 8
    part ++ spaces (1 + missing) ++ spreadParts (column + missing) parts

/-- The line with spaces for its tabs. -/
def expandTabs (line : Text) : Text := spreadParts 0 (Text.splitAtEach 9 line)

/-- The line with spaces for its tabs. It is divided at each of them. -/
def Styled.expandTabs (line : Styled) : Styled :=
  if line.text.contains 9 then
    let place (position : Nat) := (Terminal.expandTabs (line.text.take position)).length
    ⟨Terminal.expandTabs line.text,
      (line.spans.filter fun s => s.start < s.stop).map fun s =>
        ⟨place s.start, place s.stop, s.style⟩⟩
  else line

/-! ## Words -/

theorem length_dropWhile_le (p : CodePoint → Bool) (t : Text) :
    (t.dropWhile p).length ≤ t.length :=
  (List.dropWhile_sublist p).length_le

/-- The words of a text, each with the blanks behind it, and the first also with those in front of
    it. A blank text has none. -/
def words (t : Text) : List Text :=
  match _start : t.dropWhile Text.isBlank with
  | [] => []
  | _ :: inner =>
    let rest := (inner.dropWhile (!Text.isBlank ·)).dropWhile Text.isBlank
    t.take (t.length - rest.length) :: words rest
termination_by t.length
decreasing_by
  have h₁ := length_dropWhile_le Text.isBlank t
  have h₂ := length_dropWhile_le Text.isBlank (inner.dropWhile (!Text.isBlank ·))
  have h₃ := length_dropWhile_le (!Text.isBlank ·) inner
  rw [_start, List.length_cons] at h₁
  omega

/-- The text less the blanks at its end. -/
def trimEnd (t : Text) : Text := (t.reverse.dropWhile Text.isBlank).reverse

/-- The number of blanks at the end of a text. -/
def endBlanks (t : Text) : Nat := (t.reverse.takeWhile Text.isBlank).length

/-! ## Breaking -/

/-- Lines in the making. -/
structure Lines where
  /-- The lines that are done, the last one first. -/
  done : List Text
  current : Text
  /-- The cells that the words of the current line take. -/
  cells : Nat
  deriving DecidableEq, Repr

/-- Has no text come yet? -/
def Lines.isEmpty (s : Lines) : Bool := s.done.isEmpty && s.current.isEmpty

/-- The lines with a text at the start of a new one. -/
def Lines.start (s : Lines) (t : Text) : Lines :=
  if s.isEmpty then ⟨[], t, width t⟩ else ⟨s.current :: s.done, t, width t⟩

/-- All lines in order. -/
def Lines.toList (s : Lines) : List Text := (s.current :: s.done).reverse

/-- The lines with one more word. One that does not fit goes to a new line, unless the current one
    takes no cells. -/
def Lines.addWord (most : Nat) (o : Overflow) (s : Lines) (word : Text) : Lines :=
  let w := width (trimEnd word)
  if s.cells + w ≤ most then ⟨s.done, s.current ++ word, s.cells + width word⟩
  else if most < w then match o with
    | .fold => (pieces most word).foldl Lines.start s
    | .ellipsis => s.start word
  else if s.cells ≠ 0 ∧ !s.isEmpty then s.start word
  else ⟨s.done, s.current ++ word, s.cells⟩

/-- A line broken into lines of at most `most` cells, but for blanks at their ends and, without
    folding, for words that are wider. -/
def breakLine (most : Nat) (o : Overflow) (line : Text) : List Text :=
  match words line with
  | [] => [line]
  | ws => (ws.foldl (Lines.addWord most o) ⟨[], [], 0⟩).toList

/-- The line less those blanks at its end that go beyond `most` characters. -/
def dropExcessBlanks (most : Nat) (line : Text) : Text :=
  line.take (line.length - min (endBlanks line) (line.length - most))

/-- The line cut to at most `most` cells. -/
def truncate (most : Nat) (o : Overflow) (line : Text) : Text :=
  if width line ≤ most then line
  else match o with
  | .fold => fit line most
  | .ellipsis => fit line (most - 1) ++ [0x2026]

/-- The line less excess blanks, and cut to at most `most` cells. -/
def Styled.cut (most : Nat) (o : Overflow) (line : Styled) : Styled :=
  let line := line.become (dropExcessBlanks most line.text)
  line.become (truncate most o line.text)

/-- The text broken into lines of at most `most` cells. -/
def wrap (most : Nat) (o : Overflow) (t : Styled) : List Styled :=
  (t.divide 1 (Text.splitAtEach 10 t.text)).flatMap fun line =>
    let line := line.expandTabs
    (line.divide 0 (breakLine most o line.text)).map (Styled.cut most o)

/-- A text without styles, broken into lines of at most `most` cells. -/
def linesOf (most : Nat) (o : Overflow) (t : Text) : List Text :=
  (wrap most o (.plain t)).map Styled.text

/-- The line in the middle of `total` cells. -/
def center (total : Nat) (line : Text) : Text :=
  let line := truncate total .fold (trimEnd line)
  fit (spaces ((total - width line) / 2) ++ line) total

end GridGauge.Terminal
