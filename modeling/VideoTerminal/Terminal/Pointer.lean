import VideoTerminal.Terminal.Session

/-
  This file defines what the embedder of a terminal does on
  behalf of the user: selecting text with the pointer, moving
  the view, pasting, and reporting the pointer and the focus.

  Cells are given as they are in view, from the top of what is
  displayed.

  Key definitions include:
    * `Session.viewportPoint`
    * `Session.beginSelection`
    * `Session.clickSelection`
    * `Session.extendSelection`
    * `Session.finishSelection`
    * `Session.isSelected`
    * `Session.selectionText`
    * `Session.paste`
    * `Session.reportMouse`
-/

namespace VideoTerminal

namespace Session

------------------------------------------------------------
-- Selecting
------------------------------------------------------------

/-
  The point that a cell in view stands for.  Rows are counted
  in words.
-/
def viewportPoint
    (session : Session)
    (x y : Nat) : Point :=
  ⟨x, Word.signed
    (Word.signed y - Word.signed session.active.viewOffset)⟩

/- Start a selection at a cell in view. -/
def beginSelection
    (session : Session)
    (x y : Nat)
    (snap : Snap)
    (mode : SelectionMode) : Session :=
  { session with
    selection :=
      some <|
        .begin session.active session.config.isDelimiter
          (session.viewportPoint x y) snap mode
          session.screen }

/-
  Start a selection by a click at a cell in view.  A repeated
  click selects the word there, and a further one the line.
-/
def clickSelection
    (session : Session)
    (x y : Nat)
    (mode : SelectionMode)
    (time : Nat) : Session × Snap :=
  let (clicks, snap) :=
    session.clicks.click (session.viewportPoint x y) time
      session.config.doubleClickMs session.config.tripleClickMs
  ({ session with clicks := clicks }.beginSelection x y snap
      mode,
    snap)

/- Drag a selection to a cell in view. -/
def extendSelection
    (session : Session)
    (x y : Nat) : Session :=
  { session with
    selection :=
      session.selection.map
        (·.extend session.active session.config.isDelimiter
          (session.viewportPoint x y)) }

/- End the dragging of a selection. -/
def finishSelection
    (session : Session) : Session :=
  { session with
    selection := session.selection.bind Selection.finish? }

/- Drop the selection. -/
def clearSelection
    (session : Session) : Session :=
  { session with selection := none }

/- A cell in view is selected. -/
def isSelected
    (session : Session)
    (x y : Nat) : Bool :=
  session.selection.any
    (·.contains (session.viewportPoint x y) session.screen
      session.cols)

/- The text of the selection. -/
def selectionText
    (session : Session) : Except TerminalError String :=
  match session.selection.bind fun selection =>
      selection.text? (session.grid selection.screen) with
  | none => .error .emptySelection
  | some text => .ok text

------------------------------------------------------------
-- Pasting
------------------------------------------------------------

/- Leave out every line feed behind a carriage return. -/
def joinBreaks :
    List Char → List Char
  | [] => []
  | '\r' :: '\n' :: rest => '\r' :: joinBreaks rest
  | c :: rest => c :: joinBreaks rest

/- Write a carriage return in place of every line feed. -/
def feedsToReturns
    (text : List Char) : List Char :=
  text.map fun c => if c = '\n' then '\r' else c

/- Write every line break as a carriage return. -/
def breaksToReturns
    (text : List Char) : List Char :=
  feedsToReturns (joinBreaks text)

/- The marks around pasted text. -/
def pasteStart : List Char :=
  ['\x1B', '[', '2', '0', '0', '~']

/- The mark after pasted text. -/
def pasteEnd : List Char :=
  ['\x1B', '[', '2', '0', '1', '~']

/-
  Send text to the application as if it were typed.  It is
  marked as pasted when the application has asked for that.
  The view returns to the screen.
-/
def paste
    (session : Session)
    (text : String) : Session :=
  let body := breaksToReturns text.toList
  let chars :=
    if session.modes.bracketedPaste then
      pasteStart ++ body ++ pasteEnd
    else
      body
  (session.modifyActive Grid.resetView).respond
    (Utf8.encodeAll chars)

------------------------------------------------------------
-- Reporting
------------------------------------------------------------

/- Report the focus when the application has asked for it. -/
def reportFocus
    (session : Session)
    (focused : Bool) : Session :=
  if session.modes.focusTracking then
    session.respond
      (Utf8.ofString (if focused then "\x1B[I" else "\x1B[O"))
  else
    session

/-
  Report an event of the pointer when the application has
  asked for it.
-/
def reportMouse
    (session : Session)
    (event : MouseEvent) : Session × Bool :=
  let (tracker, report) :=
    session.mouseTracker.report session.mouseMode
      session.mouseEncoding event
  let noted := { session with mouseTracker := tracker }
  match report with
  | none => (noted, false)
  | some bytes => (noted.respond bytes, true)

------------------------------------------------------------
-- The View
------------------------------------------------------------

/- Move the view, and tell whether it has moved. -/
def moveView
    (session : Session)
    (move : Grid → Grid) : Session × Bool :=
  let moved := session.modifyActive move
  (moved,
    moved.active.viewOffset != session.active.viewOffset)

/- Mark every row as unchanged, on both screens. -/
def markClean
    (session : Session) : Session :=
  { session with
    primary := session.primary.markClean
    alternate := session.alternate.markClean }

/- The first and the last of the changed rows. -/
def dirtyRegion?
    (session : Session) : Option (Nat × Nat) :=
  let rows := session.active.dirtyRows
  match rows.head?, rows.getLast? with
  | some first, some last => some (first, last)
  | _, _ => none

end Session

end VideoTerminal
