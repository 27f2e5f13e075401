import VideoTerminal.Cell
import VideoTerminal.Text.Blank

/-
  This file defines a line of cells and the operations that
  edit one line, which keep the two halves of every wide
  character together.

  Key definitions include:
    * `Line`
    * `Line.ofBlank`
    * `Line.set`
    * `Line.isWrapped`
    * `Line.setWrapped`
    * `Line.resize`
    * `Line.insertBlanks`
    * `Line.deleteCells`
    * `Line.eraseSpan`
    * `Line.text`
-/

namespace VideoTerminal

------------------------------------------------------------
-- Lines
------------------------------------------------------------

/- A row of cells, from left to right. -/
structure Line where
  cells : List Cell
  deriving DecidableEq, Repr

namespace Line

/- A line of equal cells. -/
def ofBlank
    (cols : Nat)
    (blank : Cell) : Line :=
  ⟨List.replicate cols blank⟩

/- The number of cells. -/
def width
    (line : Line) : Nat :=
  line.cells.length

/- The cell in a column. -/
def get?
    (line : Line)
    (col : Nat) : Option Cell :=
  line.cells[col]?

/- Replace the cell in a column, if there is one. -/
def set
    (line : Line)
    (col : Nat)
    (cell : Cell) : Line :=
  ⟨line.cells.set col cell⟩

/- Change the cell in a column, if there is one. -/
def modify
    (line : Line)
    (col : Nat)
    (change : Cell → Cell) : Line :=
  ⟨line.cells.modify col change⟩

/- Replace every cell. -/
def fill
    (line : Line)
    (blank : Cell) : Line :=
  ofBlank line.width blank

/- Replace the cells of the columns `first` to `last`. -/
def fillSpan
    (line : Line)
    (first last : Nat)
    (blank : Cell) : Line :=
  ⟨line.cells.mapIdx fun col cell =>
    if first ≤ col ∧ col ≤ last then blank else cell⟩

/- The cell in a column is the second half of a wide one. -/
def isPlaceholderAt
    (line : Line)
    (col : Nat) : Bool :=
  (line.get? col).any Cell.placeholder

/- The cell in a column is the first half of a wide one. -/
def isWideAt
    (line : Line)
    (col : Nat) : Bool :=
  (line.get? col).any Cell.wide

------------------------------------------------------------
-- Soft Wrap
------------------------------------------------------------

/- The line continues on the next one. -/
def isWrapped
    (line : Line) : Bool :=
  line.cells.getLast?.any Cell.wrapped

/- Mark the last cell as continuing on the next line or not. -/
def setWrapped
    (line : Line)
    (on : Bool) : Line :=
  line.modify (line.width - 1) (·.setWrapped on)

/-
  Apply a change to the cells with the soft-wrap mark taken
  off, and put the mark on what is the last cell afterwards.
-/
def keepingWrap
    (change : Line → Line)
    (line : Line) : Line :=
  (change (line.setWrapped false)).setWrapped line.isWrapped

------------------------------------------------------------
-- Width Changes
------------------------------------------------------------

/-
  Blank a wide character in the last column, where there is no
  room for its second half.
-/
def blankWideAtEnd
    (line : Line)
    (blank : Cell) : Line :=
  if line.isWideAt (line.width - 1) then
    line.set (line.width - 1) blank
  else
    line

/-
  Cut the line or extend it by blanks.  The soft-wrap mark
  stays on the last cell, and a wide character that the cut
  goes through is blanked.
-/
def resize
    (line : Line)
    (cols : Nat)
    (blank : Cell) : Line :=
  if cols = line.width then
    line
  else
    line.keepingWrap fun line =>
      blankWideAtEnd
        ⟨line.cells.take cols ++
          List.replicate (cols - line.width) blank⟩
        blank

------------------------------------------------------------
-- Editing
------------------------------------------------------------

/-
  Blank both halves of a wide character whose second half is
  in the given column.
-/
def splitWideAt
    (line : Line)
    (col : Nat)
    (blank : Cell) : Line :=
  if 0 < col ∧ line.isPlaceholderAt col then
    (line.set (col - 1) blank).set col blank
  else
    line

/-
  Insert `n` blanks in front of a column.  Cells moved past
  the right edge are lost.
-/
def insertBlanks
    (line : Line)
    (col n : Nat)
    (blank : Cell) : Line :=
  let n := min n (line.width - col)
  line.keepingWrap fun line =>
    let cells := (line.splitWideAt col blank).cells
    blankWideAtEnd
      ⟨cells.take col ++ List.replicate n blank ++
        (cells.drop col).take (line.width - col - n)⟩
      blank

/-
  Delete `n` cells from a column on.  Blanks come in at the
  right edge.
-/
def deleteCells
    (line : Line)
    (col n : Nat)
    (blank : Cell) : Line :=
  let n := min n (line.width - col)
  line.keepingWrap fun line =>
    let cells := (line.splitWideAt col blank).cells
    let moved : Line :=
      ⟨cells.take col ++ cells.drop (col + n) ++
        List.replicate n blank⟩
    if moved.isPlaceholderAt col then
      moved.set col blank
    else
      moved

/-
  Blank the columns `first` to `last`.  The halves of wide
  characters that would be left alone on either side are
  blanked as well.
-/
def eraseSpan
    (line : Line)
    (first last : Nat)
    (blank : Cell) : Line :=
  let left :=
    if 0 < first ∧ line.isPlaceholderAt first then
      line.set (first - 1) blank
    else
      line
  let right :=
    if left.isPlaceholderAt (last + 1) then
      left.set (last + 1) blank
    else
      left
  right.fillSpan first last blank

------------------------------------------------------------
-- Text
------------------------------------------------------------

/- The characters of some cells, placeholders left out. -/
def charsOf
    (cells : List Cell) : List Char :=
  (cells.filter (!·.placeholder)).map Cell.char

/- The text of a line without the spaces at its end. -/
def text
    (line : Line) : String :=
  .ofList (Blank.trimSpacesRight (charsOf line.cells))

end Line

end VideoTerminal
