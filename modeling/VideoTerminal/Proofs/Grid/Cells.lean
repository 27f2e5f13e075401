import VideoTerminal.Proofs.Grid.Edit
import VideoTerminal.Selection.Snap

/-
  The cells at points of a screen and its history.

  Main declarations:
    * `Grid.cellAt?`
    * `Grid.showsAt`
    * `Grid.FitsWidth`
    * `Grid.WellFormed.fitsWidth`
-/

namespace VideoTerminal

namespace Grid

/- The cell at a point of the screen or its history. -/
def cellAt?
    (grid : Grid)
    (point : Point) : Option Cell :=
  (grid.lineAt? point.row).bind (·.get? point.col)

/- A point has a cell that shows a character of its own. -/
def showsAt
    (grid : Grid)
    (point : Point) : Bool :=
  (grid.cellAt? point).any (!·.placeholder)

/- The lines of a screen and its history have its width. -/
def FitsWidth
    (grid : Grid) : Prop :=
  ∀ row, ∀ line ∈ grid.lineAt? row, line.width = grid.cols

section

variable {grid : Grid}

theorem showsAt_iff
    {point : Point} :
    grid.showsAt point ↔
      ∃ cell ∈ grid.cellAt? point,
        cell.placeholder = false := by
  unfold showsAt
  rw [Option.any_eq_true]
  simp only [Bool.not_eq_true']
  exact Iff.rfl

/- There are cells in the rows of the screen and its history. -/
theorem row_of_showsAt
    {point : Point}
    (hShows : grid.showsAt point) :
    -(grid.scrollback.size : Int) ≤ point.row ∧
      point.row < grid.rows := by
  rcases showsAt_iff.mp hShows with ⟨cell, hCell, _⟩
  rcases Option.bind_eq_some_iff.mp hCell with
    ⟨line, hLine, _⟩
  have hSome : (grid.lineAt? point.row).isSome := by
    rw [hLine]
    rfl
  exact
    ⟨neg_size_le_of_lineAt?_isSome hSome,
      row_lt_rows_of_lineAt?_isSome hSome⟩

theorem WellFormed.fitsWidth
    {cols rows capacity : Nat}
    (hGrid : grid.WellFormed cols rows capacity) :
    grid.FitsWidth := by
  intro row line hLine
  rw [hGrid.cols_eq]
  cases row with
  | ofNat row => exact (hGrid.of_line?_eq_some hLine).width_eq
  | negSucc age =>
      exact (hGrid.history.of_get?_eq_some hLine).width_eq

/- A cell is where there is a line, up to the right edge. -/
theorem FitsWidth.cellAt?_isSome_iff
    (hGrid : grid.FitsWidth)
    {point : Point} :
    (grid.cellAt? point).isSome ↔
      (grid.lineAt? point.row).isSome ∧
        point.col < grid.cols := by
  unfold cellAt?
  cases hLine : grid.lineAt? point.row with
  | none => simp
  | some line =>
      have hWidth := hGrid point.row line hLine
      unfold Line.width at hWidth
      unfold Line.get?
      simp [hWidth]

end

end Grid

end VideoTerminal
