import VideoTerminal.Charset
import VideoTerminal.Error
import VideoTerminal.Grid.Edit
import VideoTerminal.Grid.Resize
import VideoTerminal.Grid.Scroll
import VideoTerminal.Mouse
import VideoTerminal.Selection.Clicks

/-
  This file defines the state that a terminal shows and reads
  its commands against: the two screens, the cursor, the modes
  and what goes out to the application and to the embedder.

  Key definitions include:
    * `Modes`
    * `SavedCursor`
    * `Notice`
    * `Outbox`
    * `Session`
    * `Session.start`
    * `Session.active`
    * `Session.modifyActive`
    * `Session.respond`
    * `Session.notify`
-/

namespace VideoTerminal

------------------------------------------------------------
-- Modes
------------------------------------------------------------

/- The modes that an application can set and reset. -/
structure Modes where
  autoWrap : Bool
  insert : Bool
  origin : Bool
  applicationCursor : Bool
  applicationKeypad : Bool
  newLine : Bool
  reverseVideo : Bool
  bracketedPaste : Bool
  focusTracking : Bool
  deriving DecidableEq, Repr

namespace Modes

/- Only automatic wrapping is set at first. -/
def default : Modes :=
  ⟨true, false, false, false, false, false, false, false,
    false⟩

end Modes

------------------------------------------------------------
-- Saved Cursors
------------------------------------------------------------

/- What saving the cursor keeps. -/
structure SavedCursor where
  col : Nat
  row : Nat
  pen : Pen
  origin : Bool
  charsets : Charsets
  deriving DecidableEq, Repr

------------------------------------------------------------
-- Notices
------------------------------------------------------------

/- What the embedder of a terminal is told about. -/
inductive Notice where
  | bell
  | titleChanged (title : String)
  | clipboardSet (target text : String)
  | modeChanged (mode : Nat) (isPrivate enabled : Bool)
  | resized (cols rows : Nat)
  deriving DecidableEq, Repr

------------------------------------------------------------
-- Output
------------------------------------------------------------

/-
  The bytes on their way to the application.  They are
  collected in `buffer`, or handed to a sink if there is one,
  and `delivered` lists what was handed over.
-/
structure Outbox where
  hasSink : Bool
  delivered : List (List UInt8)
  buffer : List UInt8
  deriving DecidableEq, Repr

namespace Outbox

/- No sink and no bytes. -/
def empty : Outbox :=
  ⟨false, [], []⟩

/- Send bytes to the application. -/
def write
    (outbox : Outbox)
    (bytes : List UInt8) : Outbox :=
  if outbox.hasSink then
    { outbox with delivered := outbox.delivered ++ [bytes] }
  else
    { outbox with buffer := outbox.buffer ++ bytes }

end Outbox

------------------------------------------------------------
-- Sessions
------------------------------------------------------------

/-
  The state of a terminal apart from sequences that it has
  read in part.  Scrolling is confined to the rows `regionTop`
  to `regionBottom`, and `tabStops` tells for each column
  whether it has a tab stop.
-/
structure Session where
  config : Config
  primary : Grid
  alternate : Grid
  screen : Screen
  cursor : Cursor
  savedPrimary : Option SavedCursor
  savedAlternate : Option SavedCursor
  charsets : Charsets
  modes : Modes
  mouseMode : MouseMode
  mouseEncoding : MouseEncoding
  mouseTracker : MouseTracker
  regionTop : Nat
  regionBottom : Nat
  tabStops : List Bool
  selection : Option Selection
  clicks : ClickTracker
  lastPrinted : Option Char
  title : String
  iconName : String
  notices : List Notice
  outbox : Outbox
  deriving Repr

namespace Session

/- A column has a tab stop at first. -/
def isDefaultTabStop
    (tabWidth col : Nat) : Bool :=
  decide (0 < col ∧ col % tabWidth = 0)

/- The tab stops that a screen has at first. -/
def defaultTabStops
    (cols tabWidth : Nat) : List Bool :=
  (List.range cols).map (isDefaultTabStop tabWidth)

/- A session with blank screens. -/
def start
    (cols rows : Nat)
    (config : Config) : Session where
  config := config
  primary :=
    .ofBlank cols rows config.scrollbackLines config.blank
  alternate := .ofBlank cols rows 0 config.blank
  screen := .primary
  cursor := .home config.cursorStyle config.pen
  savedPrimary := none
  savedAlternate := none
  charsets := .default
  modes := .default
  mouseMode := .off
  mouseEncoding := .legacy
  mouseTracker := .start
  regionTop := 0
  regionBottom := rows - 1
  tabStops := defaultTabStops cols config.tabWidth
  selection := none
  clicks := .start
  lastPrinted := none
  title := ""
  iconName := ""
  notices := []
  outbox := .empty

------------------------------------------------------------
-- Screens
------------------------------------------------------------

/- The number of columns of both screens. -/
def cols
    (session : Session) : Nat :=
  session.primary.cols

/- The number of rows of both screens. -/
def rows
    (session : Session) : Nat :=
  session.primary.rows

/- The grid of a screen. -/
def grid
    (session : Session) :
    Screen → Grid
  | .primary => session.primary
  | .alternate => session.alternate

/- The grid of the screen in use. -/
def active
    (session : Session) : Grid :=
  session.grid session.screen

/- Change the grid of the screen in use. -/
def modifyActive
    (session : Session)
    (change : Grid → Grid) : Session :=
  match session.screen with
  | .primary =>
    { session with primary := change session.primary }
  | .alternate =>
    { session with alternate := change session.alternate }

/- The cursor saved for the screen in use. -/
def saved
    (session : Session) : Option SavedCursor :=
  match session.screen with
  | .primary => session.savedPrimary
  | .alternate => session.savedAlternate

/- The blank in the pen's colours. -/
def blank
    (session : Session) : Cell :=
  session.cursor.pen.blank

------------------------------------------------------------
-- Changes of One Part
------------------------------------------------------------

/- Change the cursor. -/
def modifyCursor
    (session : Session)
    (change : Cursor → Cursor) : Session :=
  { session with cursor := change session.cursor }

/- Change the modes. -/
def modifyModes
    (session : Session)
    (change : Modes → Modes) : Session :=
  { session with modes := change session.modes }

/- Move the cursor to a cell. -/
def goto
    (session : Session)
    (col row : Nat) : Session :=
  session.modifyCursor (·.goto col row)

/- Send bytes to the application. -/
def respond
    (session : Session)
    (bytes : List UInt8) : Session :=
  { session with outbox := session.outbox.write bytes }

/- Tell the embedder something. -/
def notify
    (session : Session)
    (notice : Notice) : Session :=
  { session with notices := session.notices ++ [notice] }

/-
  Drop a selection on the screen in use if it covers some cell
  of a rectangle, the rows of which are taken as words.
-/
def dropSelectionIn
    (session : Session)
    (x₁ y₁ x₂ y₂ : Nat) : Session :=
  { session with
    selection := session.selection.filter fun selection =>
      !(selection.screen == session.screen &&
        selection.overlaps x₁ (Word.signed y₁) x₂
          (Word.signed y₂) session.cols) }

end Session

end VideoTerminal
