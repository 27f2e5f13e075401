/-
  This file defines the actions that control sequences ask
  for, and the table that finds the action of a sequence from
  its final character, private marker and intermediate.

  Key definitions include:
    * `Action`
    * `Action.ofFinal?`
    * `Action.lookup?`
-/

namespace VideoTerminal

------------------------------------------------------------
-- Actions
------------------------------------------------------------

/- What a control sequence asks the terminal to do. -/
inductive Action where
  | insertChars
  | cursorUp
  | cursorDown
  | cursorForward
  | cursorBack
  | cursorNextLine
  | cursorPrevLine
  | cursorColumn
  | cursorPosition
  | tabForward
  | eraseDisplay
  | eraseLine
  | insertLines
  | deleteLines
  | deleteChars
  | scrollUp
  | scrollDown
  | eraseChars
  | tabBackward
  | repeatChar
  | deviceAttributes
  | secondaryDeviceAttributes
  | linePosition
  | tabClear
  | setMode
  | resetMode
  | setPrivateMode
  | resetPrivateMode
  | selectRendition
  | deviceStatus
  | setScrollRegion
  | saveCursor
  | restoreCursor
  | setCursorStyle
  deriving DecidableEq, Repr

namespace Action

------------------------------------------------------------
-- The Table
------------------------------------------------------------

/-
  The action of a sequence without marker and intermediate.
-/
def ofFinal?
    (final : Char) : Option Action :=
  match final with
  | '@' => some insertChars
  | 'A' => some cursorUp
  | 'B' | 'e' => some cursorDown
  | 'C' | 'a' => some cursorForward
  | 'D' => some cursorBack
  | 'E' => some cursorNextLine
  | 'F' => some cursorPrevLine
  | 'G' | '\x60' => some cursorColumn
  | 'H' | 'f' => some cursorPosition
  | 'I' => some tabForward
  | 'J' => some eraseDisplay
  | 'K' => some eraseLine
  | 'L' => some insertLines
  | 'M' => some deleteLines
  | 'P' => some deleteChars
  | 'S' => some scrollUp
  | 'T' => some scrollDown
  | 'X' => some eraseChars
  | 'Z' => some tabBackward
  | 'b' => some repeatChar
  | 'c' => some deviceAttributes
  | 'd' => some linePosition
  | 'g' => some tabClear
  | 'h' => some setMode
  | 'l' => some resetMode
  | 'm' => some selectRendition
  | 'n' => some deviceStatus
  | 'r' => some setScrollRegion
  | 's' => some saveCursor
  | 'u' => some restoreCursor
  | _ => none

/- The action of a complete sequence, if it is known. -/
def lookup?
    (final : Char)
    (marker intermediate : Option Char) : Option Action :=
  match marker, intermediate with
  | none, none => ofFinal? final
  | some '>', none =>
    if final = 'c' then
      some secondaryDeviceAttributes
    else
      none
  | some '?', none =>
    if final = 'h' then
      some setPrivateMode
    else if final = 'l' then
      some resetPrivateMode
    else
      none
  | none, some ' ' =>
    if final = 'q' then
      some setCursorStyle
    else
      none
  | _, _ => none

end Action

end VideoTerminal
