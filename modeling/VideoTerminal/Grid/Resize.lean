import VideoTerminal.Grid.Basic

/-
  This file defines the change of a screen's size.  Lines are
  cut or padded and never broken anew.

  Key definitions include:
    * `Grid.resizeCols`
    * `Grid.resizeRows`
    * `Grid.resize`
-/

namespace VideoTerminal

namespace Grid

------------------------------------------------------------
-- Columns
------------------------------------------------------------

/- Change the width of every line, history included. -/
def resizeCols
    (grid : Grid)
    (cols : Nat)
    (blank : Cell) : Grid :=
  if cols = grid.cols then
    grid
  else
    { grid with
      cols := cols
      lines := grid.lines.map (·.resize cols blank)
      scrollback := grid.scrollback.resizeCols cols blank }

------------------------------------------------------------
-- Rows
------------------------------------------------------------

/-
  Change the number of rows.  Lines leave at the top as far as
  the cursor row would not fit otherwise, and go to the
  history when that is asked for.  The result counts them.
-/
def resizeRows
    (grid : Grid)
    (rows cursorRow : Nat)
    (retain : Bool)
    (blank : Cell) : Grid × Nat :=
  let shift := min (cursorRow + 1 - rows) grid.rows
  let scrollback :=
    if retain then
      (grid.scrollback.pushAll blank
        (grid.lines.take shift)).1
    else
      grid.scrollback
  let kept := (grid.lines.drop shift).take rows
  ({ grid with
      lines := kept ++
        List.replicate (rows - kept.length)
          (.ofBlank grid.cols blank)
      scrollback := scrollback
      dirty := List.replicate rows true
      viewOffset := min grid.viewOffset scrollback.size },
    shift)

/-
  Change both dimensions.  The result counts the lines that
  left at the top.
-/
def resize
    (grid : Grid)
    (cols rows cursorRow : Nat)
    (retain : Bool)
    (blank : Cell) : Grid × Nat :=
  (grid.resizeCols cols blank).resizeRows
    rows cursorRow retain blank

end Grid

end VideoTerminal
