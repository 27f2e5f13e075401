import VideoTerminal.Terminal.Dispatch
import VideoTerminal.Terminal.Pointer

/-
  This file defines a terminal: it reads bytes from an
  application, keeps its screens up to date, and is operated
  by the program that embeds it.

  Every way to use a terminal is an `Operation`, so that a run
  of operations is a list.

  Key definitions include:
    * `Terminal`
    * `Terminal.create`
    * `Terminal.createRaised`
    * `Terminal.process`
    * `Operation`
    * `Reply`
    * `Terminal.perform`
    * `Terminal.performAll`
-/

namespace VideoTerminal

------------------------------------------------------------
-- Terminals
------------------------------------------------------------

/-
  A terminal.  The decoder and the parser hold what has been
  read in part of a character and of a sequence.
-/
structure Terminal where
  decoder : Utf8.Decoder
  parser : Parser
  session : Session
  deriving Repr

namespace Terminal

variable [TextLibrary]

/- A terminal of a size, before any input. -/
def start
    (cols rows : Nat)
    (config : Config) : Terminal where
  decoder := .start
  parser := .start config.maxStringBytes
  session := .start cols rows config

/-
  A terminal of a size, unless a dimension is zero or the
  settings are refused.
-/
def create
    (cols rows : Nat)
    (config : Config) : Except TerminalError Terminal :=
  if cols = 0 ∨ rows = 0 then
    .error (.invalidSize cols rows)
  else
    match config.validate with
    | .error reason => .error (.config reason)
    | .ok () => .ok (start cols rows config)

/-
  A terminal with the default settings, of a size that is
  raised to one column and one row.
-/
def createRaised
    (cols rows : Nat) : Terminal :=
  start (max cols 1) (max rows 1) .default

------------------------------------------------------------
-- Input
------------------------------------------------------------

/- Read a character. -/
def readChar
    (terminal : Terminal)
    (c : Char) : Terminal :=
  let (parser, event) := terminal.parser.step c
  { terminal with
    parser := parser
    session :=
      event.elim terminal.session terminal.session.handle }

/- Read a byte. -/
def readByte
    (terminal : Terminal)
    (byte : UInt8) : Terminal :=
  let (decoder, chars) := terminal.decoder.push byte
  chars.foldl readChar { terminal with decoder := decoder }

/- Read bytes. -/
def process
    (terminal : Terminal)
    (bytes : List UInt8) : Terminal :=
  bytes.foldl readByte terminal

/-
  Return to the state at the start, and forget what has been
  read in part.
-/
def reset
    (terminal : Terminal) : Terminal where
  decoder := .start
  parser := terminal.parser.reset
  session := terminal.session.reset

/- Change the session. -/
def modify
    (terminal : Terminal)
    (change : Session → Session) : Terminal :=
  { terminal with session := change terminal.session }

end Terminal

------------------------------------------------------------
-- Operations
------------------------------------------------------------

/- What the embedder of a terminal can do with it. -/
inductive Operation where
  | process (bytes : List UInt8)
  | resize (cols rows : Nat)
  | reset
  | beginSelection
      (x y : Nat) (snap : Snap) (mode : SelectionMode)
  | clickSelection
      (x y : Nat) (mode : SelectionMode) (time : Nat)
  | extendSelection (x y : Nat)
  | finishSelection
  | clearSelection
  | paste (text : String)
  | reportFocus (focused : Bool)
  | reportMouse (event : MouseEvent)
  | viewUp (n : Nat)
  | viewDown (n : Nat)
  | viewReset
  | markClean
  | markAllDirty
  | markRowDirty (row : Nat)
  | scrollLines
      (origin count : Nat) (direction : ScrollDirection)
      (retain : Bool)
  | clearRegion (x₁ y₁ x₂ y₂ : Nat)
  | clearScrollback
  | setScrollRegion (top bottom : Nat)
  | useAlternate
  | usePrimary
  | saveCursor
  | restoreCursor
  | installSink
  | removeSink
  | takeNotices
  | takeResponses
  | takeDeliveries
  deriving DecidableEq, Repr

/- What an operation answers. -/
inductive Reply where
  | none
  | flag (value : Bool)
  | snapped (snap : Snap)
  | refused (error : TerminalError)
  | notices (notices : List Notice)
  | bytes (bytes : List UInt8)
  | deliveries (deliveries : List (List UInt8))
  deriving DecidableEq, Repr

namespace Terminal

variable [TextLibrary]

/- An operation that changes the session and answers nothing. -/
def silently
    (terminal : Terminal)
    (change : Session → Session) : Terminal × Reply :=
  (terminal.modify change, .none)

/- An operation that moves the view. -/
def movingView
    (terminal : Terminal)
    (move : Grid → Grid) : Terminal × Reply :=
  let (session, moved) := terminal.session.moveView move
  ({ terminal with session := session }, .flag moved)

/- An operation that changes what goes out. -/
def modifyOutbox
    (terminal : Terminal)
    (change : Outbox → Outbox) : Terminal :=
  terminal.modify fun session =>
    { session with outbox := change session.outbox }

/- Carry out an operation. -/
def perform
    (terminal : Terminal)
    (operation : Operation) : Terminal × Reply :=
  let session := terminal.session
  match operation with
  | .process bytes => (terminal.process bytes, .none)
  | .resize cols rows =>
    match session.resize cols rows with
    | .error error => (terminal, .refused error)
    | .ok resized =>
      ({ terminal with session := resized }, .none)
  | .reset => (terminal.reset, .none)
  | .beginSelection x y snap mode =>
    terminal.silently (·.beginSelection x y snap mode)
  | .clickSelection x y mode time =>
    let (clicked, snap) := session.clickSelection x y mode time
    ({ terminal with session := clicked }, .snapped snap)
  | .extendSelection x y =>
    terminal.silently (·.extendSelection x y)
  | .finishSelection =>
    terminal.silently Session.finishSelection
  | .clearSelection => terminal.silently Session.clearSelection
  | .paste text => terminal.silently (·.paste text)
  | .reportFocus focused =>
    terminal.silently (·.reportFocus focused)
  | .reportMouse event =>
    let (reported, written) := session.reportMouse event
    ({ terminal with session := reported }, .flag written)
  | .viewUp n => terminal.movingView (·.scrollViewUp n)
  | .viewDown n => terminal.movingView (·.scrollViewDown n)
  | .viewReset => terminal.movingView Grid.resetView
  | .markClean => terminal.silently Session.markClean
  | .markAllDirty =>
    terminal.silently (·.modifyActive Grid.markAllDirty)
  | .markRowDirty row =>
    terminal.silently (·.modifyActive (·.markDirty row))
  | .scrollLines origin count direction retain =>
    terminal.silently
      (·.scrollLines origin count direction retain)
  | .clearRegion x₁ y₁ x₂ y₂ =>
    terminal.silently (·.clearRegion x₁ y₁ x₂ y₂)
  | .clearScrollback =>
    terminal.silently Session.clearScrollback
  | .setScrollRegion top bottom =>
    terminal.silently (·.setScrollRegion top bottom)
  | .useAlternate => terminal.silently Session.useAlternate
  | .usePrimary => terminal.silently Session.usePrimary
  | .saveCursor => terminal.silently Session.saveCursor
  | .restoreCursor => terminal.silently Session.restoreCursor
  | .installSink =>
    (terminal.modifyOutbox ({ · with hasSink := true }), .none)
  | .removeSink =>
    (terminal.modifyOutbox ({ · with hasSink := false }),
      .none)
  | .takeNotices =>
    (terminal.modify ({ · with notices := [] }),
      .notices session.notices)
  | .takeResponses =>
    (terminal.modifyOutbox ({ · with buffer := [] }),
      .bytes session.outbox.buffer)
  | .takeDeliveries =>
    (terminal.modifyOutbox ({ · with delivered := [] }),
      .deliveries session.outbox.delivered)

/- Carry out operations one after the other. -/
def performAll
    (terminal : Terminal)
    (operations : List Operation) : Terminal :=
  operations.foldl
    (fun terminal operation => (terminal.perform operation).1)
    terminal

end Terminal

end VideoTerminal
