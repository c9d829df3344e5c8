import GridGauge.Terminal.Wrap

/-!
# Tables

A table has a title, a row of headings and rows below it, and is drawn with
lines around its cells. A column is as wide as what is widest in it, with a
space on both sides. If the whole is too wide, the widest columns are narrowed
until it fits, and what no longer fits in a cell is broken into lines or cut.
-/

namespace GridGauge.Terminal

/-- A table. -/
structure Table where
  title : Text
  headings : List Text
  rows : List (List Text)
  deriving DecidableEq, Repr

/-- The characters of a line across a table: at its left end, along it, where columns meet, and at
    its right end. -/
structure Rule where
  left : CodePoint
  along : CodePoint
  between : CodePoint
  right : CodePoint
  deriving DecidableEq, Repr

namespace Rule

/-- The line above the headings. -/
def top : Rule := ⟨0x250F, 0x2501, 0x2533, 0x2513⟩
/-- What is around the headings. -/
def heading : Rule := ⟨0x2503, 32, 0x2503, 0x2503⟩
/-- The line below the headings. -/
def belowHeadings : Rule := ⟨0x2521, 0x2501, 0x2547, 0x2529⟩
/-- What is around the cells of a row. -/
def row : Rule := ⟨0x2502, 32, 0x2502, 0x2502⟩
/-- The line below the last row. -/
def bottom : Rule := ⟨0x2514, 0x2500, 0x2534, 0x2518⟩

/-- The texts between the characters of a rule. -/
def around (r : Rule) (ts : List Text) : Text :=
  [r.left] ++ Text.join [r.between] ts ++ [r.right]

/-- The line across columns of these widths. -/
def line (r : Rule) (widths : List Nat) : Text :=
  r.around (widths.map fun w => Text.repeated w r.along)

end Rule

/-! ## Widths of columns -/

/-- The cells that columns take together. -/
def totalOf (widths : List Nat) : Nat := widths.foldr (· + ·) 0

/-- The quotient rounded to the nearest integer, a half to the even one. -/
def roundedQuotient (n d : Nat) : Nat :=
  let q := n / d
  if d < 2 * (n % d) ∨ (2 * (n % d) = d ∧ q % 2 = 1) then q + 1 else q

/-- The widths after `excess` cells are taken from the columns of width `widest`, of which there
    are `count`: from each an even share of what is left to take, but no more than `most`. -/
def takeShares (widest most : Nat) : (excess count : Nat) → List Nat → List Nat
  | _, _, [] => []
  | excess, count, w :: ws =>
    if w = widest ∧ 0 < count then
      let share := min most (roundedQuotient excess count)
      (w - share) :: takeShares widest most (excess - share) (count - 1) ws
    else w :: takeShares widest most excess count ws

/-- The greatest of some numbers, or zero. -/
def greatest (ns : List Nat) : Nat := ns.foldl max 0

/-- The widths after one round of narrowing: the widest columns give up what there is too much,
    but become no narrower than the next ones. -/
def narrowOnce (total : Nat) (widths : List Nat) : List Nat :=
  let widest := greatest widths
  let next := greatest (widths.filter (· != widest))
  let excess := totalOf widths - total
  takeShares widest (min excess (widest - next)) excess (widths.count widest) widths

/-- The widths narrowed to a total, in as many rounds as it takes. -/
def narrow (total : Nat) : (fuel : Nat) → List Nat → List Nat
  | 0, widths => widths
  | fuel + 1, widths =>
    if totalOf widths ≤ total then widths else narrow total fuel (narrowOnce total widths)

namespace Table

variable (t : Table)

/-- The headings and all rows. -/
def allRows : List (List Text) := t.headings :: t.rows

/-- The cells of a column. -/
def column (i : Nat) : List Text := t.allRows.filterMap (·[i]?)

/-- The width a column takes by itself when `total` cells are to be had. -/
def ownWidth (total i : Nat) : Nat :=
  max 1 (min total (greatest ((t.column i).map width) + 2))

/-- The number of cells that the lines between and around the columns take. -/
def ruleCells : Nat := t.headings.length + 1

/-- The widths of the columns in a table of at most `total` cells. -/
def widths (total : Nat) : List Nat :=
  let room := total - t.ruleCells
  let own := (List.range t.headings.length).map (t.ownWidth room)
  narrow room (totalOf own) own

/-! ## Drawing -/

/-- The lines of a cell, with a space on both sides; there are none where there is no room. -/
def cellLines (w : Nat) (text : Text) : List Text :=
  if w < 3 then []
  else (linesOf (w - 2) .ellipsis text).map fun line => spaces 1 ++ fit line (w - 2) ++ spaces 1

/-- The lines of a row. Its cells get blank lines where others have more: headings above, other
    cells below. -/
def rowLines (r : Rule) (blanksAbove : Bool) (widths : List Nat) (cells : List Text) :
    List Text :=
  let columns := List.zipWith (fun w text => (w, cellLines w text)) widths cells
  let height := max 1 (greatest (columns.map fun c => c.2.length))
  let filled := columns.map fun (w, lines) =>
    let blanks := List.replicate (height - lines.length) (spaces w)
    if blanksAbove && !lines.isEmpty then blanks ++ lines else lines ++ blanks
  (List.range height).map fun i => r.around (filled.map fun lines => (lines[i]?).getD [])

/-- The lines of the table in at most `total` cells, but for the lines between columns, which are
    always there. -/
def lines (total : Nat) : List Text :=
  let ws := t.widths total
  (linesOf (totalOf ws + t.ruleCells) .fold t.title).map (center (totalOf ws + t.ruleCells))
    ++ [Rule.top.line ws]
    ++ rowLines .heading true ws t.headings
    ++ [Rule.belowHeadings.line ws]
    ++ t.rows.flatMap (rowLines .row false ws)
    ++ [Rule.bottom.line ws]

end Table

end GridGauge.Terminal
