import VideoTerminal.Grid.Basic

/-
  This file defines the operations that change cells of a
  screen in place.

  Key definitions include:
    * `Grid.insertBlanks`
    * `Grid.deleteCells`
    * `Grid.breakWideAt`
    * `Grid.clear`
    * `Grid.fillWith`
    * `Grid.eraseRect`
    * `Grid.clearScrollback`
-/

namespace VideoTerminal

namespace Grid

------------------------------------------------------------
-- Insertion and Deletion
------------------------------------------------------------

/- Insert `n` blanks in a screen row. -/
def insertBlanks
    (grid : Grid)
    (col row n : Nat)
    (blank : Cell) : Grid :=
  if col < grid.cols ∧ row < grid.rows then
    grid.modifyLine row (·.insertBlanks col n blank)
  else
    grid

/- Delete `n` cells of a screen row. -/
def deleteCells
    (grid : Grid)
    (col row n : Nat)
    (blank : Cell) : Grid :=
  if col < grid.cols ∧ row < grid.rows then
    grid.modifyLine row (·.deleteCells col n blank)
  else
    grid

------------------------------------------------------------
-- Overwriting
------------------------------------------------------------

/-
  Take a wide character apart before one of its halves is
  overwritten: what is in the other half becomes a space.
-/
def breakWideAt
    (grid : Grid)
    (col row : Nat) : Grid :=
  match grid.get? col row with
  | none => grid
  | some cell =>
    if cell.wide ∧ col + 1 < grid.cols then
      grid.modifyCell (col + 1) row fun next =>
        { next with char := ' ', placeholder := false }
    else if cell.placeholder ∧ 0 < col then
      grid.modifyCell (col - 1) row fun previous =>
        { previous with char := ' ', wide := false }
    else
      grid

------------------------------------------------------------
-- Filling and Erasing
------------------------------------------------------------

/- Replace every cell of the screen. -/
def clear
    (grid : Grid)
    (blank : Cell) : Grid :=
  markAllDirty
    { grid with lines := grid.lines.map (·.fill blank) }

/- Fill the screen with one character. -/
def fillWith
    (grid : Grid)
    (char : Char)
    (blank : Cell) : Grid :=
  grid.clear { blank with char := char }

/-
  Erase the rectangle between two opposite corners, as far as
  it lies on the screen.
-/
def eraseRect
    (grid : Grid)
    (x₁ y₁ x₂ y₂ : Nat)
    (blank : Cell) : Grid :=
  let left := min x₁ x₂
  let right := min (max x₁ x₂) (grid.cols - 1)
  let top := min y₁ y₂
  let bottom := min (max y₁ y₂) (grid.rows - 1)
  if grid.cols = 0 ∨ grid.rows = 0 ∨
      right < left ∨ bottom < top then
    grid
  else
    { grid.markDirtyRange top bottom with
      lines := grid.lines.mapIdx fun row line =>
        if top ≤ row ∧ row ≤ bottom then
          line.eraseSpan left right blank
        else
          line }

/- Drop the history, and with it what is in view of it. -/
def clearScrollback
    (grid : Grid) : Grid :=
  let cleared :=
    { grid with scrollback := grid.scrollback.clear }
  if 0 < grid.viewOffset then
    markAllDirty { cleared with viewOffset := 0 }
  else
    cleared

end Grid

end VideoTerminal
