import GridGauge.Text

/-!
# Texts with styles

Stretches of a text may have styles. They do not show on a plain terminal, but
what asks for a style is read when the text is drawn, and may turn out not to
be readable. So it counts which of the stretches are left when a text has been
brought into lines.

A text that is divided loses the stretches that are empty; one that stays whole
keeps them. If a text is cut short, the stretches behind its end are lost.
-/

namespace GridGauge.Terminal

/-- A stretch of a text with a style. -/
structure Span where
  start : Nat
  stop : Nat
  /-- What asks for the style. -/
  style : Text
  deriving DecidableEq, Repr

namespace Span

/-- What is in `length` characters from a position on of a stretch, unless that is nothing. -/
def within? (position length : Nat) (s : Span) : Option Span :=
  let start := max s.start position
  let stop := min s.stop (position + length)
  if start < stop then some ⟨start - position, stop - position, s.style⟩ else none

/-- The stretches with one more, in the order in which they start. Of those that start together the
    last one comes first. -/
def insert (s : Span) : List Span → List Span
  | [] => [s]
  | t :: ts => if s.start ≤ t.start then s :: t :: ts else t :: insert s ts

end Span

/-- A text with styles. -/
structure Styled where
  text : Text
  /-- The stretches with styles, in the order in which they start. -/
  spans : List Span
  deriving DecidableEq, Repr

namespace Styled

/-- A text without styles. -/
def plain (t : Text) : Styled := ⟨t, []⟩

/-- The text with one more stretch that has a style. -/
def mark (t : Styled) (s : Span) : Styled := { t with spans := s.insert t.spans }

/-- The text with others before and behind it. -/
def between (before after : Text) (t : Styled) : Styled :=
  ⟨before ++ t.text ++ after,
    t.spans.map fun s => ⟨s.start + before.length, s.stop + before.length, s.style⟩⟩

/-- Another text in place of the text. If it is shorter, it is cut. -/
def become (text : Text) (t : Styled) : Styled where
  text := text
  spans :=
    if text.length < t.text.length then
      (t.spans.filter (·.start < text.length)).map fun s =>
        { s with stop := min s.stop text.length }
    else t.spans

@[simp] theorem text_become (text : Text) (t : Styled) : (t.become text).text = text := rfl

/-- Parts of the text, the first from a position on, with `gap` characters between one and the
    next. -/
def partsFrom (t : Styled) (gap : Nat) : (position : Nat) → List Text → List Styled
  | _, [] => []
  | position, part :: parts =>
    ⟨part, t.spans.filterMap (Span.within? position part.length)⟩
      :: partsFrom t gap (position + part.length + gap) parts

/-- The text divided into parts with `gap` characters between one and the next. -/
def divide (t : Styled) (gap : Nat) (parts : List Text) : List Styled :=
  match parts with
  | [_] => [t]
  | parts => t.partsFrom gap 0 parts

end Styled

end GridGauge.Terminal
