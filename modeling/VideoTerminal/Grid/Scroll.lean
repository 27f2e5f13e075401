import VideoTerminal.Grid.Basic

/-
  This file defines the scrolling of a region of screen rows,
  and the exchange of lines with the history when the region
  is the whole screen.

  Key definitions include:
    * `ScrollDirection`
    * `Grid.usesHistory`
    * `Grid.scrollUp`
    * `Grid.scrollDown`
    * `Grid.scrollRegion`
-/

namespace VideoTerminal

------------------------------------------------------------
-- Regions
------------------------------------------------------------

/- The direction that the lines of a region move in. -/
inductive ScrollDirection where
  | up
  | down
  deriving DecidableEq, Repr

namespace Grid

/-
  Lines are exchanged with the history when that is asked for,
  the region is the whole screen, and there is room at all.
-/
def usesHistory
    (grid : Grid)
    (origin bottom : Nat)
    (retain : Bool) : Bool :=
  retain && origin == 0 && bottom + 1 == grid.rows &&
    decide (0 < grid.scrollback.capacity)

/- The lines of the rows `first` up to, not including, `past`. -/
def slice
    (grid : Grid)
    (first past : Nat) : List Line :=
  (grid.lines.take past).drop first

------------------------------------------------------------
-- Upwards
------------------------------------------------------------

/-
  Move the rows `origin` to `bottom` up by `n` lines.  The
  result counts the lines that went to the history.
-/
def scrollUp
    (grid : Grid)
    (origin bottom n : Nat)
    (retain : Bool)
    (blank : Cell) : Grid × Nat :=
  let bottom := min bottom (grid.rows - 1)
  let n := min n (bottom + 1 - origin)
  if n = 0 then
    (grid, 0)
  else
    let leaving := grid.slice origin (origin + n)
    let keeps := grid.usesHistory origin bottom retain
    let (scrollback, entering) :=
      if keeps then
        grid.scrollback.pushAll blank leaving
      else
        (grid.scrollback, leaving.map (·.fill blank))
    let retained := if keeps then n else 0
    let moved :=
      { grid with
        scrollback := scrollback
        lines := grid.lines.take origin ++
          grid.slice (origin + n) (bottom + 1) ++
          entering ++ grid.lines.drop (bottom + 1) }
    if 0 < retained ∧ 0 < grid.viewOffset then
      (markAllDirty
        { moved with
          viewOffset :=
            min (grid.viewOffset + retained)
              scrollback.size },
        retained)
    else
      (moved.markDirtyRange origin bottom, retained)

------------------------------------------------------------
-- Downwards
------------------------------------------------------------

/-
  Move the rows `origin` to `bottom` down by `n` lines.  The
  result counts the lines that came back from the history.
-/
def scrollDown
    (grid : Grid)
    (origin bottom n : Nat)
    (retain : Bool)
    (blank : Cell) : Grid × Nat :=
  let bottom := min bottom (grid.rows - 1)
  let n := min n (bottom + 1 - origin)
  if n = 0 then
    (grid, 0)
  else
    let leaving := grid.slice (bottom + 1 - n) (bottom + 1)
    let keeps := grid.usesHistory origin bottom retain
    let (scrollback, entering) :=
      if keeps then
        grid.scrollback.popInto blank leaving.reverse
      else
        (grid.scrollback,
          leaving.reverse.map (·.fill blank))
    let restored :=
      if keeps then min n grid.scrollback.size else 0
    let moved :=
      { grid with
        scrollback := scrollback
        lines := grid.lines.take origin ++
          entering.reverse ++
          grid.slice origin (bottom + 1 - n) ++
          grid.lines.drop (bottom + 1) }
    if 0 < restored ∧ 0 < grid.viewOffset then
      (markAllDirty
        { moved with
          viewOffset := grid.viewOffset - restored },
        restored)
    else
      (moved.markDirtyRange origin bottom, restored)

/- Move the rows `origin` to `bottom` by `n` lines. -/
def scrollRegion
    (grid : Grid)
    (origin bottom n : Nat)
    (direction : ScrollDirection)
    (retain : Bool)
    (blank : Cell) : Grid × Nat :=
  match direction with
  | .up => grid.scrollUp origin bottom n retain blank
  | .down => grid.scrollDown origin bottom n retain blank

end Grid

end VideoTerminal
