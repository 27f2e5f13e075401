/-
  This file defines one position of the screen: a character,
  the rendition it is drawn with, and its part in the layout
  of its line.

  Key definitions include:
    * `Rendition`
    * `Cell`
    * `Cell.blank`
    * `Cell.isBlank`
    * `Cell.width`
-/

namespace VideoTerminal

------------------------------------------------------------
-- Rendition
------------------------------------------------------------

/- The attributes that a character is drawn with. -/
structure Rendition where
  bold : Bool
  faint : Bool
  italic : Bool
  underline : Bool
  blink : Bool
  inverse : Bool
  invisible : Bool
  struck : Bool
  deriving DecidableEq, Repr

namespace Rendition

/- No attribute at all. -/
def plain : Rendition :=
  ⟨false, false, false, false, false, false, false, false⟩

end Rendition

------------------------------------------------------------
-- Cells
------------------------------------------------------------

/-
  A position of the screen.  `wrapped` marks the last cell of
  a line that continues on the next one, `wide` the first half
  of a character of two columns, and `placeholder` the cell
  that its second half occupies.
-/
structure Cell where
  char : Char
  rendition : Rendition
  wrapped : Bool
  wide : Bool
  placeholder : Bool
  foreground : UInt8
  background : UInt8
  deriving DecidableEq, Repr

namespace Cell

/- The foreground colour that a cell has by default. -/
def defaultForeground : UInt8 :=
  7

/- The background colour that a cell has by default. -/
def defaultBackground : UInt8 :=
  0

/- A character without layout marks. -/
def styled
    (char : Char)
    (rendition : Rendition)
    (foreground background : UInt8) : Cell :=
  ⟨char, rendition, false, false, false,
    foreground, background⟩

/- The space that erasing leaves behind. -/
def blank
    (foreground background : UInt8) : Cell :=
  styled ' ' .plain foreground background

/- The blank in the default colours. -/
def default : Cell :=
  blank defaultForeground defaultBackground

/- A space without attributes. -/
def isBlank
    (cell : Cell) : Bool :=
  cell.char == ' ' && cell.rendition == .plain

/-
  The columns that a cell stands for, none for a placeholder.
-/
def width
    (cell : Cell) : Nat :=
  if cell.wide then
    2
  else if cell.placeholder then
    0
  else
    1

/- The same cell with the soft-wrap mark set or removed. -/
def setWrapped
    (cell : Cell)
    (on : Bool) : Cell :=
  { cell with wrapped := on }

end Cell

end VideoTerminal
