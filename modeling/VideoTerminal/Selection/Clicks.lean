import VideoTerminal.Selection.Basic

/-
  This file defines the recognition of double and triple
  clicks at one point.

  Key definitions include:
    * `Click`
    * `ClickTracker`
    * `ClickTracker.click`
-/

namespace VideoTerminal

------------------------------------------------------------
-- Clicks
------------------------------------------------------------

/-
  A click: its point, its time in milliseconds, and what it
  selected.
-/
structure Click where
  point : Point
  time : Nat
  snap : Snap
  deriving DecidableEq, Repr

/- The latest click, if any. -/
structure ClickTracker where
  last : Option Click
  deriving DecidableEq, Repr

namespace ClickTracker

/- No click so far. -/
def start : ClickTracker :=
  ⟨none⟩

/-
  What a click selects.  A click at the point of the previous
  one selects more than that, if it follows in time, and any
  other click starts over.  A clock that goes back counts as
  standing still.
-/
def snapFor
    (tracker : ClickTracker)
    (point : Point)
    (time double triple : Nat) : Snap :=
  match tracker.last with
  | none => .none
  | some last =>
    let window := if last.snap = .word then triple else double
    if last.point = point ∧ time - last.time ≤ window then
      last.snap.next
    else
      .none

/- Take note of a click, and tell what it selects. -/
def click
    (tracker : ClickTracker)
    (point : Point)
    (time double triple : Nat) : ClickTracker × Snap :=
  let snap := tracker.snapFor point time double triple
  (⟨some ⟨point, time, snap⟩⟩, snap)

end ClickTracker

end VideoTerminal
