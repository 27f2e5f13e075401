import VideoTerminal.Word

/-
  This file defines the positions of cells that a selection
  runs between, in reading order.

  Key definitions include:
    * `Point`
    * `Point.Before`
    * `Point.shift`
-/

namespace VideoTerminal

------------------------------------------------------------
-- Points
------------------------------------------------------------

/-
  The position of a cell.  Rows from zero on are screen rows,
  and negative ones belong to the history.
-/
structure Point where
  col : Nat
  row : Int
  deriving DecidableEq, Repr

namespace Point

/- One point comes before another in reading order. -/
def Before
    (p q : Point) : Prop :=
  p.row < q.row ∨ (p.row = q.row ∧ p.col < q.col)

instance
    (p q : Point) : Decidable (p.Before q) := by
  unfold Before
  infer_instance

/-
  Move a point down by some rows, or up by negative ones.  The
  row is kept in a word.
-/
def shift
    (p : Point)
    (delta : Int) : Point :=
  { p with row := Word.signed (p.row + delta) }

end Point

end VideoTerminal
