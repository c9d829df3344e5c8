import GridGauge.Terminal.Cell

/-!
# Widths on a terminal

The width of a text is the number of cells it takes. A joined character takes
none of its own, and a selector behind a character that can grow takes one
more (`width`).

What is drawn as one is a cluster: a character with all that is put on it or
joined to it (`clusters`). A text is made to take a given number of cells by
spaces at its end or by cutting it between clusters (`fit`); a cut through a
cluster of two cells leaves a space. Cut into pieces, it loses nothing
(`pieces`).
-/

namespace GridGauge.Terminal

/-- The cells that a selector adds behind the last character that takes cells. -/
def growth (last : Option CodePoint) : Nat := if (last.map growing.has).getD false then 1 else 0

/-- The cells of the rest of a text. The first character may be joined to what is before it, and
    `last` is the last character before that takes cells and can still grow. -/
def widthFrom : (joined : Bool) → (last : Option CodePoint) → Text → Nat
  | _, _, [] => 0
  | true, last, _ :: rest => widthFrom false last rest
  | false, last, c :: rest =>
    if c = joiner then widthFrom true last rest
    else if c = pictureSelector then growth last + widthFrom false none rest
    else if cells c = 0 then widthFrom false last rest
    else cells c + widthFrom false (some c) rest

/-- The number of cells a text takes. -/
def width (t : Text) : Nat := widthFrom false none t

/-- The spaces that fill a number of cells. -/
def spaces (n : Nat) : Text := Text.repeated n 32

/-! ## Clusters -/

/-- A stretch of a text that is drawn as one, and the cells it takes. -/
structure Cluster where
  text : Text
  cells : Nat
  deriving DecidableEq, Repr

/-- The clusters with a character in the last of them, which comes first, and with more cells for
    it. -/
def extend (c : CodePoint) (more : Nat) : List Cluster → List Cluster
  | [] => [⟨[c], 0⟩]
  | k :: ks => ⟨k.text ++ [c], k.cells + more⟩ :: ks

/-- The clusters of a text whose beginning has the clusters `before`, the last of them first. -/
def clustersFrom : (joined : Bool) → (last : Option CodePoint) → (before : List Cluster) →
    Text → List Cluster
  | _, _, before, [] => before.reverse
  | true, last, before, c :: rest => clustersFrom false last (extend c 0 before) rest
  | false, last, before, c :: rest =>
    if c = joiner then clustersFrom (!before.isEmpty) last (extend c 0 before) rest
    else if c = pictureSelector then
      clustersFrom false (if growth last = 0 then last else none) (extend c (growth last) before)
        rest
    else if cells c = 0 then clustersFrom false last (extend c 0 before) rest
    else clustersFrom false (some c) (⟨[c], cells c⟩ :: before) rest

/-- The clusters of a text. -/
def clusters (t : Text) : List Cluster := clustersFrom false none [] t

/-- The text of clusters. -/
def textOf (ks : List Cluster) : Text := ks.flatMap Cluster.text

theorem textOf_reverse_extend (c : CodePoint) (more : Nat) (ks : List Cluster) :
    textOf (extend c more ks).reverse = textOf ks.reverse ++ [c] := by
  cases ks <;> simp [extend, textOf]

/-- Nothing is lost between clusters. -/
theorem textOf_clustersFrom (joined : Bool) (last : Option CodePoint) (before : List Cluster)
    (t : Text) : textOf (clustersFrom joined last before t) = textOf before.reverse ++ t := by
  induction t generalizing joined last before with
  | nil => cases joined <;> simp [clustersFrom]
  | cons c rest ih =>
    cases joined with
    | true => rw [clustersFrom, ih, textOf_reverse_extend, List.append_assoc, List.singleton_append]
    | false =>
      rw [clustersFrom]
      split
      · rw [ih, textOf_reverse_extend, List.append_assoc, List.singleton_append]
      · split
        · rw [ih, textOf_reverse_extend, List.append_assoc, List.singleton_append]
        · split
          · rw [ih, textOf_reverse_extend, List.append_assoc, List.singleton_append]
          · rw [ih]
            simp [textOf]

theorem textOf_clusters (t : Text) : textOf (clusters t) = t := by
  rw [clusters, textOf_clustersFrom]
  rfl

/-! ## Cutting -/

/-- The first `total` cells of clusters. -/
def firstCells : (total : Nat) → List Cluster → Text
  | 0, _ => []
  | _, [] => []
  | total, k :: ks =>
    if k.cells ≤ total then k.text ++ firstCells (total - k.cells) ks else spaces 1
termination_by structural _ ks => ks

/-- The text cut or filled with spaces at its end, so that it takes `total` cells. -/
def fit (t : Text) (total : Nat) : Text :=
  if total = 0 then []
  else
    let w := width t
    if total < w then firstCells total (clusters t) else t ++ spaces (total - w)

/-- The pieces of clusters that take at most `most` cells each, with the piece that comes before,
    of `size` cells. -/
def piecesFrom (most : Nat) : (piece : Text) → (size : Nat) → List Cluster → List Text
  | piece, _, [] => [piece]
  | piece, size, k :: ks =>
    if most < size + k.cells then piece :: piecesFrom most k.text k.cells ks
    else piecesFrom most (piece ++ k.text) (size + k.cells) ks

/-- The pieces of a text that take at most `most` cells each. -/
def pieces (most : Nat) (t : Text) : List Text := piecesFrom most [] 0 (clusters t)

end GridGauge.Terminal
