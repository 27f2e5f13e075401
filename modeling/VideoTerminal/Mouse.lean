import VideoTerminal.Text.Utf8
import VideoTerminal.Word

/-
  This file defines what an application is told about the
  pointer: which events each tracking mode reports, and the
  two forms that a report is written in.

  Key definitions include:
    * `MouseMode`
    * `MouseEncoding`
    * `MouseButton`
    * `MouseEvent`
    * `MouseTracker`
    * `MouseTracker.subject?`
    * `MouseEvent.code`
    * `MouseTracker.report`
-/

namespace VideoTerminal

------------------------------------------------------------
-- Modes
------------------------------------------------------------

/- The events that an application wants to be told about. -/
inductive MouseMode where
  | off
  | x10
  | normal
  | buttonEvent
  | anyEvent
  deriving DecidableEq, Repr

/- The form that reports are written in. -/
inductive MouseEncoding where
  | legacy
  | sgr
  deriving DecidableEq, Repr

------------------------------------------------------------
-- Buttons
------------------------------------------------------------

/- The buttons of a pointer. -/
inductive MouseButton where
  | left
  | middle
  | right
  | wheelUp
  | wheelDown
  | wheelLeft
  | wheelRight
  | button8
  | button9
  | button10
  | button11
  deriving DecidableEq, Repr

namespace MouseButton

/- All buttons in the order of their numbers. -/
def all : List MouseButton :=
  [left, middle, right, wheelUp, wheelDown, wheelLeft,
    wheelRight, button8, button9, button10, button11]

/- The number of a button, from 1 to 11. -/
def number :
    MouseButton → Nat
  | left => 1
  | middle => 2
  | right => 3
  | wheelUp => 4
  | wheelDown => 5
  | wheelLeft => 6
  | wheelRight => 7
  | button8 => 8
  | button9 => 9
  | button10 => 10
  | button11 => 11

/- The button with a given number. -/
def ofNumber?
    (n : Nat) : Option MouseButton :=
  all.find? (·.number == n)

/- The button is the vertical wheel, which has no release. -/
def isWheel :
    MouseButton → Bool
  | wheelUp | wheelDown => true
  | _ => false

/- The code of a button in reports. -/
def code
    (button : MouseButton) : Nat :=
  let n := button.number
  if 8 ≤ n then
    128 + (n - 8)
  else if 4 ≤ n then
    64 + (n - 4)
  else
    n - 1

end MouseButton

------------------------------------------------------------
-- Events
------------------------------------------------------------

/- What the pointer does. -/
inductive MouseEventKind where
  | press
  | release
  | motion
  deriving DecidableEq, Repr

/- The keys held during an event. -/
structure MouseModifiers where
  shift : Bool
  alt : Bool
  ctrl : Bool
  deriving DecidableEq, Repr

namespace MouseModifiers

/- The value of the keys in reports. -/
def code
    (modifiers : MouseModifiers) : Nat :=
  (if modifiers.shift then 4 else 0) +
    (if modifiers.alt then 8 else 0) +
    (if modifiers.ctrl then 16 else 0)

end MouseModifiers

/-
  An event of the pointer over a cell.  The button is the one
  pressed or released.
-/
structure MouseEvent where
  kind : MouseEventKind
  button : Option MouseButton
  col : Nat
  row : Nat
  modifiers : MouseModifiers
  deriving DecidableEq, Repr

------------------------------------------------------------
-- Tracking
------------------------------------------------------------

/- The buttons held, and the cell last reported. -/
structure MouseTracker where
  held : List MouseButton
  last : Option (Nat × Nat)
  deriving DecidableEq, Repr

namespace MouseTracker

/- No button held and nothing reported. -/
def start : MouseTracker :=
  ⟨[], none⟩

/- The held button with the lowest number. -/
def lowestHeld
    (tracker : MouseTracker) : Option MouseButton :=
  MouseButton.all.find? tracker.held.contains

/- Take note of a button pressed or released. -/
def hold
    (tracker : MouseTracker)
    (event : MouseEvent) : MouseTracker :=
  match event.kind, event.button with
  | .press, some button =>
    { tracker with
      held := button :: tracker.held.filter (· ≠ button) }
  | .release, some button =>
    { tracker with
      held := tracker.held.filter (· ≠ button) }
  | _, _ => tracker

/-
  The button that a report on the event is about.  The outer
  option is empty when the mode calls for no report, the inner
  one when the pointer moves without a button held.
-/
def subject?
    (tracker : MouseTracker)
    (mode : MouseMode)
    (event : MouseEvent) : Option (Option MouseButton) :=
  match event.kind, mode with
  | _, .off => none
  | .motion, .anyEvent =>
    if tracker.last = some (event.col, event.row) then
      none
    else
      some tracker.lowestHeld
  | .motion, .buttonEvent =>
    if tracker.last = some (event.col, event.row) then
      none
    else
      tracker.lowestHeld.map some
  | .motion, _ => none
  | .press, _ => event.button.map some
  | .release, .x10 => none
  | .release, _ =>
    (event.button.filter (!·.isWheel)).map some

end MouseTracker

------------------------------------------------------------
-- Reports
------------------------------------------------------------

namespace MouseEvent

/-
  The code of an event in reports.  The legacy form does not
  tell which button was released.
-/
def code
    (event : MouseEvent)
    (mode : MouseMode)
    (encoding : MouseEncoding)
    (subject : Option MouseButton) : Nat :=
  let motion := if event.kind = .motion then 32 else 0
  let button :=
    if encoding = .legacy ∧ event.kind = .release then
      3
    else
      subject.elim 3 MouseButton.code
  let modifiers :=
    if mode = .x10 then 0 else event.modifiers.code
  motion + button + modifiers

/- The report in decimal numbers. -/
def sgrReport
    (event : MouseEvent)
    (code : Nat) : List UInt8 :=
  Utf8.encodeAll
    (['\x1B', '[', '<'] ++ Nat.toDigits 10 code ++ [';'] ++
      Nat.toDigits 10 (Word.next event.col) ++ [';'] ++
      Nat.toDigits 10 (Word.next event.row) ++
      [if event.kind = .release then 'm' else 'M'])

/- A number in the one byte of the legacy form. -/
def legacyByte
    (n : Nat) : UInt8 :=
  .ofNat (min (32 + n) 255)

/-
  The report in single bytes, which have no room for cells
  from the column or row 223 on.
-/
def legacyReport?
    (event : MouseEvent)
    (code : Nat) : Option (List UInt8) :=
  if 223 ≤ event.col ∨ 223 ≤ event.row then
    none
  else
    some [0x1B, 0x5B, 0x4D, legacyByte code,
      legacyByte (event.col + 1), legacyByte (event.row + 1)]

/- The report in the given form. -/
def report?
    (event : MouseEvent)
    (encoding : MouseEncoding)
    (code : Nat) : Option (List UInt8) :=
  match encoding with
  | .sgr => some (event.sgrReport code)
  | .legacy => event.legacyReport? code

end MouseEvent

namespace MouseTracker

/-
  Take note of an event, and write the report on it if the
  mode calls for one.
-/
def report
    (tracker : MouseTracker)
    (mode : MouseMode)
    (encoding : MouseEncoding)
    (event : MouseEvent) :
    MouseTracker × Option (List UInt8) :=
  let tracker := tracker.hold event
  match tracker.subject? mode event with
  | none => (tracker, none)
  | some subject =>
    ({ tracker with last := some (event.col, event.row) },
      event.report? encoding
        (event.code mode encoding subject))

end MouseTracker

end VideoTerminal
