import VideoTerminal.Terminal.Session

/-
  This file defines the scrolling of the screen in use, the
  clearing of parts of it and of the history, and what becomes
  of the selection.

  Key definitions include:
    * `Session.scrollLines`
    * `Session.setScrollRegion`
    * `Session.clearRegion`
    * `Session.clearScrollback`
-/

namespace VideoTerminal

namespace Session

------------------------------------------------------------
-- Scrolling
------------------------------------------------------------

/- The rows that lines move by, downwards. -/
def scrollDelta
    (direction : ScrollDirection)
    (count : Nat) : Int :=
  match direction with
  | .up => -count
  | .down => count

/-
  Move a selection with the lines of a region.  `grid` is the
  screen after scrolling, and `moved` counts the lines that
  went to its history or came back.
-/
def followScroll
    (selection : Selection)
    (grid : Grid)
    (moved origin bottom : Nat)
    (delta : Int)
    (screen : Screen) : Option Selection :=
  if 0 < moved then
    selection.historyScrolled? delta (-grid.scrollback.size)
      (grid.rows - 1) screen
  else
    selection.regionScrolled? origin bottom delta screen

/-
  Scroll the rows from `origin` to the bottom of the scroll
  region by `count` lines.  The selection moves with its text,
  or is dropped when that is gone.
-/
def scrollLines
    (session : Session)
    (origin count : Nat)
    (direction : ScrollDirection)
    (retain : Bool) : Session :=
  let bottom := session.regionBottom
  let count := min count (bottom + 1 - origin)
  if count = 0 then
    session
  else
    let (grid, moved) :=
      session.active.scrollRegion origin bottom count
        direction retain session.blank
    { session.modifyActive fun _ => grid with
      selection := session.selection.bind fun selection =>
        followScroll selection grid moved origin bottom
          (scrollDelta direction count) session.screen }

------------------------------------------------------------
-- Clearing
------------------------------------------------------------

/-
  Clear the rectangle between two opposite corners to blanks
  in the pen's colours.  A selection that it meets is dropped.
-/
def clearRegion
    (session : Session)
    (x₁ y₁ x₂ y₂ : Nat) : Session :=
  let dropped :=
    session.dropSelectionIn (min x₁ x₂) (min y₁ y₂)
      (max x₁ x₂) (max y₁ y₂)
  dropped.modifyActive
    (·.eraseRect x₁ y₁ x₂ y₂ session.blank)

/- A selection reaches into the history. -/
def coversHistory
    (selection : Selection) : Bool :=
  selection.screen == .primary &&
    decide (selection.first.row < 0)

/-
  Clear the history.  A selection that reaches into it is
  dropped.
-/
def clearScrollback
    (session : Session) : Session :=
  { session with
    selection :=
      session.selection.filter (!coversHistory ·)
    primary := session.primary.clearScrollback }

------------------------------------------------------------
-- Cursor Positions
------------------------------------------------------------

/-
  Move to a cell as far as the screen goes, and in origin mode
  as far as the scroll region goes.
-/
def moveTo
    (session : Session)
    (col row : Nat) : Session :=
  let (minRow, maxRow) :=
    if session.modes.origin then
      (session.regionTop, session.regionBottom)
    else
      (0, session.rows - 1)
  session.goto (min col (session.cols - 1))
    (max minRow (min row maxRow))

/-
  Move to a cell whose row counts from the top of the scroll
  region in origin mode.
-/
def moveToOrigin
    (session : Session)
    (col row : Nat) : Session :=
  let offset :=
    if session.modes.origin then session.regionTop else 0
  session.moveTo col (row + offset)

/-
  Confine scrolling to the rows between two, and move the
  cursor to the first cell.
-/
def setScrollRegion
    (session : Session)
    (top bottom : Nat) : Session :=
  let top := min top (session.rows - 1)
  let bottom := min bottom (session.rows - 1)
  { session with
    regionTop := min top bottom
    regionBottom := max top bottom }.moveToOrigin 0 0

end Session

end VideoTerminal
