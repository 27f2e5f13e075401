import VideoTerminal.Scrollback

/-
  This file defines one screen of a terminal: its lines, the
  history above them, the part of both that is in view, and
  the rows in view that have changed.

  Rows are counted in two ways.  A screen row counts from the
  top of the screen, and the negative rows above it belong to
  the history, `-1` being the newest line.  A viewport row
  counts from the top of what is in view.

  Key definitions include:
    * `Grid`
    * `Grid.ofBlank`
    * `Grid.rows`
    * `Grid.lineAt?`
    * `Grid.visibleLine?`
    * `Grid.set`
    * `Grid.modifyLine`
    * `Grid.setViewOffset`
    * `Grid.markDirty`
    * `Grid.dirtyRows`
-/

namespace VideoTerminal

------------------------------------------------------------
-- Screens
------------------------------------------------------------

/-
  A screen.  `dirty` tells for each viewport row whether it
  has changed, and `viewOffset` is the number of history lines
  in view.
-/
structure Grid where
  cols : Nat
  lines : List Line
  scrollback : Scrollback
  dirty : List Bool
  viewOffset : Nat
  deriving DecidableEq, Repr

namespace Grid

/- A screen of equal cells, all of whose rows are new. -/
def ofBlank
    (cols rows capacity : Nat)
    (blank : Cell) : Grid where
  cols := cols
  lines := List.replicate rows (.ofBlank cols blank)
  scrollback := .empty capacity
  dirty := List.replicate rows true
  viewOffset := 0

/- The number of screen rows. -/
def rows
    (grid : Grid) : Nat :=
  grid.lines.length

------------------------------------------------------------
-- Reading
------------------------------------------------------------

/- The line of a screen row. -/
def line?
    (grid : Grid)
    (row : Nat) : Option Line :=
  grid.lines[row]?

/- The cell in a column of a screen row. -/
def get?
    (grid : Grid)
    (col row : Nat) : Option Cell :=
  (grid.line? row).bind (·.get? col)

/- The text of a screen row, empty for a missing row. -/
def rowText
    (grid : Grid)
    (row : Nat) : String :=
  (grid.line? row).elim "" Line.text

/- The line of a screen row or of a history row. -/
def lineAt?
    (grid : Grid) :
    Int → Option Line
  | .ofNat row => grid.line? row
  | .negSucc age => grid.scrollback.get? age

/- The line of a row exists and continues on the next row. -/
def isWrappedAt
    (grid : Grid)
    (row : Int) : Bool :=
  (grid.lineAt? row).any Line.isWrapped

/- The line shown in a viewport row. -/
def visibleLine?
    (grid : Grid)
    (y : Nat) : Option Line :=
  if grid.rows ≤ y then
    none
  else if y < grid.viewOffset then
    grid.scrollback.get? (grid.viewOffset - 1 - y)
  else
    grid.line? (y - grid.viewOffset)

/-
  The lowest screen row that holds anything but blanks, and
  the first one on an empty screen.
-/
def lastUsedRow
    (grid : Grid) : Nat :=
  let isUsed (line : Line) : Bool :=
    line.cells.any (!·.isBlank)
  match grid.lines.reverse.findIdx? isUsed with
  | some below => grid.rows - 1 - below
  | none => 0

/- The text of the screen, one line for each row. -/
def content
    (grid : Grid) : String :=
  "\n".intercalate (grid.lines.map Line.text)

------------------------------------------------------------
-- Changed Rows
------------------------------------------------------------

/-
  Mark the viewport row that shows a screen row as changed.
-/
def markDirty
    (grid : Grid)
    (row : Nat) : Grid :=
  { grid with
    dirty := grid.dirty.set (row + grid.viewOffset) true }

/- Mark the screen rows `top` to `bottom` as changed. -/
def markDirtyRange
    (grid : Grid)
    (top bottom : Nat) : Grid :=
  let last := min bottom (grid.rows - 1)
  { grid with
    dirty := grid.dirty.mapIdx fun y changed =>
      changed ||
        decide (top + grid.viewOffset ≤ y ∧
          y ≤ last + grid.viewOffset) }

/- Mark every viewport row as changed. -/
def markAllDirty
    (grid : Grid) : Grid :=
  { grid with
    dirty := List.replicate grid.dirty.length true }

/- Mark every viewport row as unchanged. -/
def markClean
    (grid : Grid) : Grid :=
  { grid with
    dirty := List.replicate grid.dirty.length false }

/- A viewport row has changed since it was last drawn. -/
def isDirty
    (grid : Grid)
    (y : Nat) : Bool :=
  grid.dirty[y]?.getD false

/- The changed viewport rows in ascending order. -/
def dirtyRows
    (grid : Grid) : List Nat :=
  (List.range grid.dirty.length).filter grid.isDirty

------------------------------------------------------------
-- Writing
------------------------------------------------------------

/- Change the line of a screen row. -/
def modifyLine
    (grid : Grid)
    (row : Nat)
    (change : Line → Line) : Grid :=
  { grid.markDirty row with
    lines := grid.lines.modify row change }

/- Replace the cell in a column of a screen row, if any. -/
def set
    (grid : Grid)
    (col row : Nat)
    (cell : Cell) : Grid :=
  if col < grid.cols ∧ row < grid.rows then
    grid.modifyLine row (·.set col cell)
  else
    grid

/- Change the cell in a column of a screen row, if any. -/
def modifyCell
    (grid : Grid)
    (col row : Nat)
    (change : Cell → Cell) : Grid :=
  if col < grid.cols ∧ row < grid.rows then
    grid.modifyLine row (·.modify col change)
  else
    grid

------------------------------------------------------------
-- The View
------------------------------------------------------------

/-
  Bring as many history lines into view as asked for and as
  there are.
-/
def setViewOffset
    (grid : Grid)
    (offset : Nat) : Grid :=
  let offset := min offset grid.scrollback.size
  if offset = grid.viewOffset then
    grid
  else
    markAllDirty { grid with viewOffset := offset }

/- Move the view `n` lines back into the history. -/
def scrollViewUp
    (grid : Grid)
    (n : Nat) : Grid :=
  grid.setViewOffset (grid.viewOffset + n)

/- Move the view `n` lines towards the screen. -/
def scrollViewDown
    (grid : Grid)
    (n : Nat) : Grid :=
  grid.setViewOffset (grid.viewOffset - n)

/- Move the view back to the screen. -/
def resetView
    (grid : Grid) : Grid :=
  grid.setViewOffset 0

end Grid

end VideoTerminal
