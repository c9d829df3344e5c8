import GridGauge.Terminal.Markup
import GridGauge.Terminal.Table

/-!
# Panels

A panel is a frame across the whole terminal, with a title in the middle of
the line above and a table in it. On a terminal of fewer than five cells there
is room for neither.
-/

namespace GridGauge.Terminal

/-- The title of a panel as it shows: on one line, with a space on both sides. -/
def panelTitle (markup : Text) : Except MarkupError Styled :=
  (markedText markup).map fun t =>
    let line := t.become (t.text.map fun c => if c = 10 then 32 else c)
    line.expandTabs.between (spaces 1) (spaces 1)

/-- The line above what is in a panel. -/
def panelTop (columns : Nat) (title : Styled) : Styled :=
  let along : CodePoint := 0x2500
  if columns ≤ 4 then .plain ([0x256D] ++ Text.repeated (columns - 2) along ++ [0x256E])
  else
    let room := columns - 4
    let title := title.become (truncate room .fold title.text)
    let free := room - width title.text
    let middle := title.between (Text.repeated (free / 2) along)
      (Text.repeated (free - free / 2) along)
    (middle.become (truncate room .fold middle.text)).between [0x256D, along] [along, 0x256E]

/-- The lines of a panel with a table in it, below the line above. -/
def panelLines (columns : Nat) (top : Text) (t : Table) : List Text :=
  let inside := columns - 4
  let body := if inside = 0 then [] else (t.lines inside).map fun line =>
    [0x2502] ++ spaces 1 ++ fit line inside ++ spaces 1 ++ [0x2502]
  let bottom := [0x2570] ++ Text.repeated (columns - 2) 0x2500 ++ [0x256F]
  ([top] ++ body ++ [bottom]).map (truncate columns .fold)

/-- A panel with a title and a table in it, printed on a terminal with `columns` cells in a line. -/
def printedPanel (columns : Nat) (title : Text) (t : Table) : Except MarkupError Text := do
  if columns = 0 then return []
  let top := panelTop columns (← panelTitle title)
  top.check
  return printedLines (panelLines columns top.text t)

end GridGauge.Terminal
