import VideoTerminal.Terminal.Scroll
import VideoTerminal.Text.Library

/-
  This file defines the writing of characters at the cursor,
  the movement from line to line and between tab stops, and
  the actions of control characters.

  Key definitions include:
    * `Session.newLine`
    * `Session.reverseIndex`
    * `Session.softWrap`
    * `Session.writeChar`
    * `Session.tabForward`
    * `Session.tabBackward`
    * `Session.execute`
-/

namespace VideoTerminal

namespace Session

variable [TextLibrary]

------------------------------------------------------------
-- Lines
------------------------------------------------------------

/-
  Move to the next line.  At the bottom of the scroll region
  its lines move up instead.
-/
def newLine
    (session : Session)
    (toFirstColumn : Bool) : Session :=
  let row := session.cursor.row
  let col := if toFirstColumn then 0 else session.cursor.col
  if row = session.regionBottom then
    (session.scrollLines session.regionTop 1 .up true).goto
      col row
  else if row + 1 < session.rows then
    session.goto col (row + 1)
  else
    session.goto col row

/-
  Move to the previous line.  At the top of the scroll region
  its lines move down instead.
-/
def reverseIndex
    (session : Session) : Session :=
  let row := session.cursor.row
  if row = session.regionTop then
    (session.scrollLines session.regionTop 1 .down
      false).modifyCursor
        ({ · with wrapPending := false })
  else
    session.goto session.cursor.col (row - 1)

/-
  Mark the line of the cursor as continued, and move to the
  start of the next.
-/
def softWrap
    (session : Session) : Session :=
  (session.modifyActive
    (·.modifyCell (session.cols - 1) session.cursor.row
      (·.setWrapped true))).newLine true

------------------------------------------------------------
-- Characters
------------------------------------------------------------

/-
  Make room on the line for a character of the given width.
  Without automatic wrapping it goes to the last columns.
-/
def makeRoom
    (session : Session)
    (width : Nat) : Session :=
  let wraps := session.modes.autoWrap
  let session :=
    if session.cursor.wrapPending ∧ wraps then
      session.softWrap
    else
      session
  if session.cols < session.cursor.col + width then
    if wraps then
      session.softWrap
    else
      session.modifyCursor
        ({ · with col := session.cols - width })
  else
    session

/-
  Move the cursor past a character of the given width.  In the
  last column it stays, and the next character wraps.
-/
def advance
    (session : Session)
    (width : Nat) : Session :=
  let col := session.cursor.col + width
  session.modifyCursor fun cursor =>
    if col < session.cols then
      { cursor with col := col }
    else
      { cursor with wrapPending := true }

/-
  The cells at the cursor after a character has been put
  there.  A character of two columns takes the next cell too.
-/
def putChar
    (grid : Grid)
    (pen : Pen)
    (col row width : Nat)
    (c : Char) : Grid :=
  let broken := grid.breakWideAt col row
  if width = 2 ∧ col + 1 < grid.cols then
    ((broken.breakWideAt (col + 1) row).set col row
        { pen.cell c with wide := true }).set (col + 1) row
      { pen.cell ' ' with placeholder := true }
  else
    broken.set col row { pen.cell c with wide := width == 2 }

/- Put a character of the given width at the cursor. -/
def putAtCursor
    (session : Session)
    (width : Nat)
    (c : Char) : Session :=
  let col := session.cursor.col
  let row := session.cursor.row
  let inserts := session.modes.insert
  let last :=
    if inserts then session.cols - 1 else col + width - 1
  let dropped := session.dropSelectionIn col row last row
  dropped.modifyActive fun grid =>
    let grid :=
      if inserts ∧ col + width < session.cols then
        grid.insertBlanks col row width session.blank
      else
        grid
    putChar grid session.cursor.pen col row width c

/-
  Write a character.  One that occupies no column or more than
  there are is dropped.
-/
def writeChar
    (session : Session)
    (c : Char) : Session :=
  let c := session.charsets.substitute c
  match TextLibrary.displayWidth c with
  | none | some 0 => session
  | some width =>
    if session.cols < width then
      session
    else
      { (session.makeRoom width).putAtCursor width c with
        lastPrinted := some c }.advance width

/- Write a character `n` times. -/
def writeCharTimes
    (session : Session)
    (c : Char) :
    Nat → Session
  | 0 => session
  | n + 1 => (session.writeChar c).writeCharTimes c n

------------------------------------------------------------
-- Tab Stops
------------------------------------------------------------

/- A column has a tab stop. -/
def isTabStop
    (tabStops : List Bool)
    (col : Nat) : Bool :=
  tabStops[col]?.getD false

/-
  The next column with a tab stop, or the last of all.
-/
def nextTabStop
    (tabStops : List Bool)
    (cols col : Nat) : Nat :=
  if col + 1 < cols then
    ((List.range' (col + 1) (cols - 1 - (col + 1))).find?
      (isTabStop tabStops)).getD (cols - 1)
  else
    col

/- The previous column with a tab stop, or the first of all. -/
def previousTabStop
    (tabStops : List Bool)
    (col : Nat) : Nat :=
  ((List.range' 1 (col - 1)).reverse.find?
    (isTabStop tabStops)).getD 0

/- Apply a function `n` times. -/
def iterate
    (step : Nat → Nat) :
    Nat → Nat → Nat
  | 0, col => col
  | n + 1, col => iterate step n (step col)

/- Move forward by `n` tab stops. -/
def tabForward
    (session : Session)
    (n : Nat) : Session :=
  let col :=
    iterate (nextTabStop session.tabStops session.cols) n
      session.cursor.col
  session.goto (min col (session.cols - 1))
    session.cursor.row

/- Move back by `n` tab stops. -/
def tabBackward
    (session : Session)
    (n : Nat) : Session :=
  let col :=
    iterate (previousTabStop session.tabStops) n
      session.cursor.col
  session.goto (min col (session.cols - 1))
    session.cursor.row

/- Set or remove the tab stop in the cursor's column. -/
def setTabStop
    (session : Session)
    (on : Bool) : Session :=
  { session with
    tabStops := session.tabStops.set session.cursor.col on }

------------------------------------------------------------
-- Control Characters
------------------------------------------------------------

/- Tell the application what kind of terminal it runs on. -/
def reportAttributes
    (session : Session) : Session :=
  session.respond (Utf8.ofString session.config.answerback)

/-
  Show that a sequence was cut off, by a question mark at the
  cursor.
-/
def showSubstitute
    (session : Session) : Session :=
  let col := session.cursor.col
  let row := session.cursor.row
  session.modifyActive fun grid =>
    (grid.breakWideAt col row).set col row
      (session.cursor.pen.cell '?')

/- Change the slot of the character set in use. -/
def shiftCharset
    (session : Session)
    (slot : Nat) : Session :=
  { session with charsets := session.charsets.shift slot }

/- Act on a control character. -/
def execute
    (session : Session)
    (c : Char) : Session :=
  match c with
  | '\x07' => session.notify .bell
  | '\x08' => session.modifyCursor (·.left 1)
  | '\t' => session.tabForward 1
  | '\n' | '\x0B' | '\x0C' =>
    session.newLine session.modes.newLine
  | '\r' => session.goto 0 session.cursor.row
  | '\x0E' => session.shiftCharset 1
  | '\x0F' => session.shiftCharset 0
  | '\x1A' => session.showSubstitute
  | '\u0084' => session.newLine false
  | '\u0085' => session.newLine true
  | '\u0088' => session.setTabStop true
  | '\u008D' => session.reverseIndex
  | '\u009A' => session.reportAttributes
  | _ => session

end Session

end VideoTerminal
