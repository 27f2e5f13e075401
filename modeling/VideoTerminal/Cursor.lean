import VideoTerminal.Cell

/-
  This file defines the text cursor: where the next character
  goes, how the cursor is drawn, and the pen that styles what
  is written.

  Key definitions include:
    * `CursorStyle`
    * `CursorStyle.ofParameter?`
    * `Pen`
    * `Cursor`
    * `Cursor.goto`
-/

namespace VideoTerminal

------------------------------------------------------------
-- Styles
------------------------------------------------------------

/- The shape that the cursor is drawn in. -/
inductive CursorStyle where
  | blinkingBlock
  | steadyBlock
  | blinkingUnderline
  | steadyUnderline
  | blinkingBar
  | steadyBar
  deriving DecidableEq, Repr

namespace CursorStyle

/-
  The style that an application asks for by number.  Zero asks
  for the configured one.
-/
def ofParameter?
    (param : Nat)
    (configured : CursorStyle) : Option CursorStyle :=
  match param with
  | 0 => some configured
  | 1 => some blinkingBlock
  | 2 => some steadyBlock
  | 3 => some blinkingUnderline
  | 4 => some steadyUnderline
  | 5 => some blinkingBar
  | 6 => some steadyBar
  | _ => none

/- The cursor blinks. -/
def isBlinking :
    CursorStyle → Bool
  | blinkingBlock | blinkingUnderline | blinkingBar => true
  | steadyBlock | steadyUnderline | steadyBar => false

/- All styles. -/
def all : List CursorStyle :=
  [blinkingBlock, steadyBlock, blinkingUnderline,
    steadyUnderline, blinkingBar, steadyBar]

/- The name of a style in configurations. -/
def name :
    CursorStyle → String
  | blinkingBlock => "blinking_block"
  | steadyBlock => "steady_block"
  | blinkingUnderline => "blinking_underline"
  | steadyUnderline => "steady_underline"
  | blinkingBar => "blinking_bar"
  | steadyBar => "steady_bar"

/- The style with a given name. -/
def ofName?
    (text : String) : Option CursorStyle :=
  all.find? (·.name == text)

end CursorStyle

------------------------------------------------------------
-- Pens
------------------------------------------------------------

/- The rendition and colours of what is written next. -/
structure Pen where
  rendition : Rendition
  foreground : UInt8
  background : UInt8
  deriving DecidableEq, Repr

namespace Pen

/- The pen without attributes. -/
def plain
    (foreground background : UInt8) : Pen :=
  ⟨.plain, foreground, background⟩

/- The cell that writing a character with the pen makes. -/
def cell
    (pen : Pen)
    (char : Char) : Cell :=
  .styled char pen.rendition pen.foreground pen.background

/- The blank in the pen's colours that erasing leaves. -/
def blank
    (pen : Pen) : Cell :=
  .blank pen.foreground pen.background

end Pen

------------------------------------------------------------
-- Cursors
------------------------------------------------------------

/-
  The cursor.  `wrapPending` tells that the last column has
  been written, so that the next character wraps first.
-/
structure Cursor where
  col : Nat
  row : Nat
  visible : Bool
  style : CursorStyle
  pen : Pen
  wrapPending : Bool
  deriving DecidableEq, Repr

namespace Cursor

/- A visible cursor in the first cell. -/
def home
    (style : CursorStyle)
    (pen : Pen) : Cursor :=
  ⟨0, 0, true, style, pen, false⟩

/- Move to a cell. -/
def goto
    (cursor : Cursor)
    (col row : Nat) : Cursor :=
  { cursor with col := col, row := row, wrapPending := false }

/- Move up by `n` rows, as far as a given row. -/
def up
    (cursor : Cursor)
    (n limit : Nat) : Cursor :=
  cursor.goto cursor.col (max (cursor.row - n) limit)

/- Move down by `n` rows, as far as a given row. -/
def down
    (cursor : Cursor)
    (n limit : Nat) : Cursor :=
  cursor.goto cursor.col (min (cursor.row + n) limit)

/- Move left by `n` columns, as far as the first one. -/
def left
    (cursor : Cursor)
    (n : Nat) : Cursor :=
  cursor.goto (cursor.col - n) cursor.row

/- Move right by `n` columns, as far as a given column. -/
def right
    (cursor : Cursor)
    (n limit : Nat) : Cursor :=
  cursor.goto (min (cursor.col + n) limit) cursor.row

end Cursor

end VideoTerminal
