import VideoTerminal.Control.Parser
import VideoTerminal.Terminal.ModeSetting
import VideoTerminal.Terminal.Rendition
import VideoTerminal.Terminal.Write
import VideoTerminal.Text.Library

/-
  This file defines what a session does on each event of the
  parser: control sequences, escape sequences and strings.

  Key definitions include:
    * `Session.eraseDisplay`
    * `Session.eraseLine`
    * `Session.reportStatus`
    * `Session.perform`
    * `Session.performEscape`
    * `Session.performCommand`
    * `Session.handle`
-/

namespace VideoTerminal

namespace Session

variable [TextLibrary]

------------------------------------------------------------
-- Cursor Movement
------------------------------------------------------------

/-
  The row that a movement up stops at: the top of the scroll
  region from inside or below it, and else the first.
-/
def upperLimit
    (session : Session) : Nat :=
  if session.regionTop ≤ session.cursor.row then
    session.regionTop
  else
    0

/-
  The row that a movement down stops at: the bottom of the
  scroll region from inside or above it, and else the last.
-/
def lowerLimit
    (session : Session) : Nat :=
  if session.cursor.row ≤ session.regionBottom then
    session.regionBottom
  else
    session.rows - 1

/- Move up by `n` rows. -/
def cursorUp
    (session : Session)
    (n : Nat) : Session :=
  session.modifyCursor (·.up n session.upperLimit)

/- Move down by `n` rows. -/
def cursorDown
    (session : Session)
    (n : Nat) : Session :=
  session.modifyCursor (·.down n session.lowerLimit)

/- Move to the first column. -/
def toFirstColumn
    (session : Session) : Session :=
  session.modifyCursor ({ · with col := 0 })

/- Remove the tab stops that a parameter selects. -/
def clearTabStops
    (session : Session)
    (param : Nat) : Session :=
  match param with
  | 0 => session.setTabStop false
  | 3 =>
    { session with
      tabStops :=
        List.replicate session.tabStops.length false }
  | _ => session

/- Draw the cursor in the style that a parameter selects. -/
def setCursorStyle
    (session : Session)
    (param : Nat) : Session :=
  match CursorStyle.ofParameter? param
      session.config.cursorStyle with
  | none => session
  | some style =>
    session.modifyCursor ({ · with style := style })

------------------------------------------------------------
-- Erasing
------------------------------------------------------------

/- Erase the part of the screen that a parameter selects. -/
def eraseDisplay
    (session : Session)
    (param : Nat) : Session :=
  let col := session.cursor.col
  let row := session.cursor.row
  let lastCol := session.cols - 1
  let lastRow := session.rows - 1
  match param with
  | 0 =>
    let erased := session.clearRegion col row lastCol row
    if row + 1 < session.rows then
      erased.clearRegion 0 (row + 1) lastCol lastRow
    else
      erased
  | 1 =>
    let above :=
      if 0 < row then
        session.clearRegion 0 0 lastCol (row - 1)
      else
        session
    above.clearRegion 0 row col row
  | 2 => session.clearRegion 0 0 lastCol lastRow
  | 3 => session.clearScrollback
  | _ => session

/- Erase the part of the line that a parameter selects. -/
def eraseLine
    (session : Session)
    (param : Nat) : Session :=
  let col := session.cursor.col
  let row := session.cursor.row
  let lastCol := session.cols - 1
  match param with
  | 0 => session.clearRegion col row lastCol row
  | 1 => session.clearRegion 0 row col row
  | 2 => session.clearRegion 0 row lastCol row
  | _ => session

/- Erase `n` cells from the cursor on. -/
def eraseChars
    (session : Session)
    (n : Nat) : Session :=
  let col := session.cursor.col
  let row := session.cursor.row
  let last := min (col + (n - 1)) (session.cols - 1)
  session.clearRegion col row last row

------------------------------------------------------------
-- Editing
------------------------------------------------------------

/- Scroll the lines from the cursor to the region's bottom. -/
def scrollFromCursor
    (session : Session)
    (n : Nat)
    (direction : ScrollDirection) : Session :=
  let row := session.cursor.row
  if session.regionTop ≤ row ∧ row ≤ session.regionBottom then
    session.scrollLines row n direction false
  else
    session

/- Change the line of the cursor from its column on. -/
def editLine
    (session : Session)
    (change : Grid → Nat → Nat → Cell → Grid) : Session :=
  let col := session.cursor.col
  let row := session.cursor.row
  (session.dropSelectionIn col row (session.cols - 1)
    row).modifyActive (change · col row session.blank)

/- Insert `n` blanks at the cursor. -/
def insertChars
    (session : Session)
    (n : Nat) : Session :=
  session.editLine fun grid col row blank =>
    grid.insertBlanks col row n blank

/- Delete `n` characters at the cursor. -/
def deleteChars
    (session : Session)
    (n : Nat) : Session :=
  session.editLine fun grid col row blank =>
    grid.deleteCells col row n blank

/- Write the last character `n` more times. -/
def repeatLast
    (session : Session)
    (n : Nat) : Session :=
  match session.lastPrinted with
  | none => session
  | some c => session.writeCharTimes c n

------------------------------------------------------------
-- Reports
------------------------------------------------------------

/- A control sequence with two numbers as the reply. -/
def positionReport
    (row col : Nat) : List UInt8 :=
  Utf8.encodeAll
    (['\x1B', '['] ++ Nat.toDigits 10 row ++ [';'] ++
      Nat.toDigits 10 col ++ ['R'])

/- Report what a parameter asks about. -/
def reportStatus
    (session : Session)
    (param : Nat) : Session :=
  match param with
  | 5 => session.respond (Utf8.ofString "\x1B[0n")
  | 6 =>
    let row :=
      if session.modes.origin then
        session.cursor.row - session.regionTop
      else
        session.cursor.row
    session.respond
      (positionReport (row + 1) (session.cursor.col + 1))
  | _ => session

/- Report the attributes that zero asks about. -/
def reportIfZero
    (session : Session)
    (param : Nat)
    (report : Session → Session) : Session :=
  if param = 0 then report session else session

------------------------------------------------------------
-- Control Sequences
------------------------------------------------------------

/-
  Confine scrolling to the rows that two parameters give.  The
  second one stands for the last row when left out or zero.
-/
def setRegionByParams
    (session : Session)
    (params : Parameters) : Session :=
  let bottom :=
    match params.get? 1 with
    | none | some 0 => session.rows
    | some n => n
  session.setScrollRegion (params.count 0 - 1) (bottom - 1)

/- Do what a control sequence asks for. -/
def perform
    (session : Session)
    (action : Action)
    (params : Parameters) : Session :=
  let n := params.count 0
  let param := params.getD 0 0
  match action with
  | .insertChars => session.insertChars n
  | .cursorUp => session.cursorUp n
  | .cursorDown => session.cursorDown n
  | .cursorForward =>
    session.modifyCursor (·.right n (session.cols - 1))
  | .cursorBack => session.modifyCursor (·.left n)
  | .cursorNextLine => (session.cursorDown n).toFirstColumn
  | .cursorPrevLine => (session.cursorUp n).toFirstColumn
  | .cursorColumn =>
    session.goto (min (n - 1) (session.cols - 1))
      session.cursor.row
  | .cursorPosition =>
    session.moveToOrigin (params.count 1 - 1) (n - 1)
  | .tabForward => session.tabForward n
  | .eraseDisplay => session.eraseDisplay param
  | .eraseLine => session.eraseLine param
  | .insertLines => session.scrollFromCursor n .down
  | .deleteLines => session.scrollFromCursor n .up
  | .deleteChars => session.deleteChars n
  | .scrollUp =>
    session.scrollLines session.regionTop n .up false
  | .scrollDown =>
    session.scrollLines session.regionTop n .down false
  | .eraseChars => session.eraseChars n
  | .tabBackward => session.tabBackward n
  | .repeatChar => session.repeatLast n
  | .deviceAttributes =>
    session.reportIfZero param reportAttributes
  | .secondaryDeviceAttributes =>
    session.reportIfZero param
      (·.respond (Utf8.ofString "\x1B[>1;10;0c"))
  | .linePosition =>
    session.moveToOrigin session.cursor.col (n - 1)
  | .tabClear => session.clearTabStops param
  | .setMode => session.setModes false true params
  | .resetMode => session.setModes false false params
  | .setPrivateMode => session.setModes true true params
  | .resetPrivateMode => session.setModes true false params
  | .selectRendition =>
    session.modifyCursor fun cursor =>
      { cursor with
        pen := cursor.pen.select session.config params }
  | .deviceStatus => session.reportStatus param
  | .setScrollRegion => session.setRegionByParams params
  | .saveCursor => session.saveCursor
  | .restoreCursor => session.restoreCursor
  | .setCursorStyle => session.setCursorStyle param

------------------------------------------------------------
-- Escape Sequences
------------------------------------------------------------

/-
  Fill the screen for its alignment, end the scroll region and
  origin mode, and move to the first cell.
-/
def alignmentTest
    (session : Session) : Session :=
  let filled :=
    session.modifyActive
      (·.fillWith 'E' session.config.blank)
  { filled with
    selection := none
    regionTop := 0
    regionBottom := session.rows - 1
    modes := { session.modes with origin := false }
  }.moveTo 0 0

/- The slot that an intermediate character names. -/
def charsetSlot? :
    Char → Option Nat
  | '(' => some 0
  | ')' => some 1
  | '*' => some 2
  | '+' => some 3
  | _ => none

/- Designate a known character set to a slot. -/
def designate
    (session : Session)
    (slot : Nat)
    (designator : Char) : Session :=
  match Charset.ofDesignator? designator with
  | none => session
  | some charset =>
    { session with
      charsets := session.charsets.designate slot charset }

/- Use the keypad for the application or for numbers. -/
def setApplicationKeypad
    (session : Session)
    (on : Bool) : Session :=
  session.modifyModes ({ · with applicationKeypad := on })

/- Do what an escape sequence without intermediate asks for. -/
def performPlainEscape
    (session : Session)
    (final : Char) : Session :=
  match final with
  | '7' => session.saveCursor
  | '8' => session.restoreCursor
  | 'D' => session.newLine false
  | 'E' => session.newLine true
  | 'H' => session.setTabStop true
  | 'M' => session.reverseIndex
  | 'Z' => session.reportAttributes
  | 'c' => session.reset
  | '=' => session.setApplicationKeypad true
  | '>' => session.setApplicationKeypad false
  | 'n' => session.shiftCharset 2
  | 'o' => session.shiftCharset 3
  | _ => session

/- Do what an escape sequence asks for. -/
def performEscape
    (session : Session)
    (intermediate : Option Char)
    (final : Char) : Session :=
  match intermediate with
  | none => session.performPlainEscape final
  | some '#' =>
    if final = '8' then session.alignmentTest else session
  | some c =>
    match charsetSlot? c with
    | none => session
    | some slot => session.designate slot final

------------------------------------------------------------
-- Strings
------------------------------------------------------------

/- The text before and after the first semicolon. -/
def splitAtSemicolon
    (chars : List Char) :
    List Char × Option (List Char) :=
  (chars.takeWhile (· ≠ ';'),
    (chars.dropWhile (· ≠ ';')).tail?)

/- Give the window a title. -/
def setTitle
    (session : Session)
    (title : String) : Session :=
  { session with title := title }.notify (.titleChanged title)

/-
  Hand over text for the clipboard.  It comes in base64, after
  the name of the clipboard.  What cannot be decoded is
  ignored, and so is a question for the contents.
-/
def setClipboard
    (session : Session)
    (args : List Char) : Session :=
  match splitAtSemicolon args with
  | (_, none) => session
  | (target, some data) =>
    let data := Blank.trim data
    if data = ['?'] then
      session
    else
      match TextLibrary.decodeBase64? data with
      | none => session
      | some bytes =>
        let target := if target = [] then ['s', '0'] else target
        session.notify <|
          .clipboardSet (.ofList target)
            (.ofList (Utf8.decodeLossy bytes))

/- Do what a command with a number and arguments asks for. -/
def performCommand
    (session : Session)
    (payload : String) : Session :=
  match splitAtSemicolon payload.toList with
  | (['0'], some text) =>
    { session with iconName := .ofList text }.setTitle
      (.ofList text)
  | (['1'], some text) =>
    { session with iconName := .ofList text }
  | (['2'], some text) => session.setTitle (.ofList text)
  | (['5', '2'], some args) => session.setClipboard args
  | _ => session

/- Do what a string asks for. -/
def performString
    (session : Session)
    (kind : StringKind)
    (payload : String) : Session :=
  match kind with
  | .systemCommand => session.performCommand payload
  | .title => session.setTitle payload
  | .deviceControl | .privacyMessage
  | .applicationCommand => session

------------------------------------------------------------
-- Events
------------------------------------------------------------

/- Act on an event of the parser. -/
def handle
    (session : Session) :
    Event → Session
  | .print c => session.writeChar c
  | .execute c => session.execute c
  | .escape intermediate final =>
    session.performEscape intermediate final
  | .sequence action params => session.perform action params
  | .string kind payload => session.performString kind payload

end Session

end VideoTerminal
