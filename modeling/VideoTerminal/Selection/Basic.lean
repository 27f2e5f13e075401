import VideoTerminal.Selection.Snap

/-
  This file defines the part of a screen and its history that
  the user has selected with the pointer, how it follows the
  lines when they scroll, and the text that it covers.

  A selection keeps the two points that the pointer was held
  at, and the range between them, which starts at `first` and
  ends before `past`.

  Key definitions include:
    * `Screen`
    * `Selection`
    * `Selection.begin`
    * `Selection.extend`
    * `Selection.finish?`
    * `Selection.rowSpan?`
    * `Selection.contains`
    * `Selection.overlaps`
    * `Selection.regionScrolled?`
    * `Selection.historyScrolled?`
    * `Selection.text?`
-/

namespace VideoTerminal

------------------------------------------------------------
-- Kinds of Selections
------------------------------------------------------------

/- The two screens of a terminal. -/
inductive Screen where
  | primary
  | alternate
  deriving DecidableEq, Repr

/-
  The shape of a selection: text in reading order, or the same
  columns of several rows.
-/
inductive SelectionMode where
  | character
  | block
  deriving DecidableEq, Repr

/- What a selection grows to from the points of the pointer. -/
inductive Snap where
  | none
  | word
  | line
  deriving DecidableEq, Repr

namespace Snap

/- What a further click at the same point selects. -/
def next :
    Snap → Snap
  | none => word
  | word => line
  | line => none

end Snap

/- The pointer is still held, or has been released. -/
inductive SelectionPhase where
  | dragging
  | ready
  deriving DecidableEq, Repr

/-
  A selection.  The pointer went down at `anchor` and was last
  seen at `current`.
-/
structure Selection where
  phase : SelectionPhase
  mode : SelectionMode
  snap : Snap
  anchor : Point
  current : Point
  first : Point
  past : Point
  screen : Screen
  deriving DecidableEq, Repr

namespace Selection

------------------------------------------------------------
-- Ranges
------------------------------------------------------------

/- The range of a selection covers no cell. -/
def isEmpty
    (selection : Selection) : Bool :=
  match selection.mode with
  | .character =>
    !decide (selection.first.Before selection.past)
  | .block =>
    decide (selection.past.col ≤ selection.first.col)

/- The smallest rectangle that has two points as corners. -/
def blockRange
    (p q : Point) : Point × Point :=
  (⟨min p.col q.col, min p.row q.row⟩,
    ⟨max p.col q.col, max p.row q.row⟩)

/- The text between two points, grown as the snap asks for. -/
def characterRange
    (grid : Grid)
    (isDelimiter : Char → Bool)
    (snap : Snap)
    (p q : Point) : Point × Point :=
  let (b, e) := if q.Before p then (q, p) else (p, q)
  let (b, e) :=
    match snap with
    | .none => (b, e)
    | .word =>
      (grid.wordStart isDelimiter b,
        grid.wordEnd isDelimiter e)
    | .line => (grid.lineStart b, grid.lineEnd e)
  (b, ⟨min e.col grid.cols, e.row⟩)

/- The range that two points of the pointer select. -/
def rangeOf
    (grid : Grid)
    (isDelimiter : Char → Bool)
    (mode : SelectionMode)
    (snap : Snap)
    (p q : Point) : Point × Point :=
  match mode with
  | .block => blockRange p q
  | .character => characterRange grid isDelimiter snap p q

------------------------------------------------------------
-- The Pointer
------------------------------------------------------------

/- The pointer goes down at a point. -/
def begin
    (grid : Grid)
    (isDelimiter : Char → Bool)
    (point : Point)
    (snap : Snap)
    (mode : SelectionMode)
    (screen : Screen) : Selection :=
  let (first, past) :=
    rangeOf grid isDelimiter mode snap point point
  ⟨.dragging, mode, snap, point, point, first, past, screen⟩

/- The pointer is dragged to a point. -/
def extend
    (selection : Selection)
    (grid : Grid)
    (isDelimiter : Char → Bool)
    (point : Point) : Selection :=
  let (first, past) :=
    rangeOf grid isDelimiter selection.mode selection.snap
      selection.anchor point
  { selection with
    phase := .dragging
    current := point
    first := first
    past := past }

/- The pointer is released.  An empty selection is dropped. -/
def finish?
    (selection : Selection) : Option Selection :=
  if selection.isEmpty then
    none
  else
    some { selection with phase := .ready }

------------------------------------------------------------
-- Selected Cells
------------------------------------------------------------

/-
  The selected columns of a row, from the first of the two up
  to, not including, the second.
-/
def rowSpan?
    (selection : Selection)
    (row : Int)
    (cols : Nat) : Option (Nat × Nat) :=
  if row < selection.first.row ∨ selection.past.row < row then
    none
  else
    let (start, stop) :=
      match selection.mode with
      | .block => (selection.first.col, selection.past.col)
      | .character =>
        (if row = selection.first.row then
            selection.first.col
          else
            0,
          if row = selection.past.row then
            selection.past.col
          else
            cols)
    let stop := min stop cols
    if start < stop then
      some (start, stop)
    else
      none

/- A cell of a screen is selected. -/
def contains
    (selection : Selection)
    (point : Point)
    (screen : Screen)
    (cols : Nat) : Bool :=
  selection.screen == screen &&
    (selection.rowSpan? point.row cols).any fun span =>
      decide (span.1 ≤ point.col ∧ point.col < span.2)

/- Some column from `x₁` to `x₂` of a row is selected. -/
def meetsRow
    (selection : Selection)
    (x₁ x₂ : Nat)
    (cols : Nat)
    (row : Int) : Bool :=
  (selection.rowSpan? row cols).any fun span =>
    decide (span.1 ≤ x₂ ∧ x₁ < span.2)

/-
  Some cell of a rectangle is selected.  All rows inside the
  selection are alike, so it is enough to look at the first,
  the second and the last of the rows that the two have in
  common.
-/
def overlaps
    (selection : Selection)
    (x₁ : Nat)
    (y₁ : Int)
    (x₂ : Nat)
    (y₂ : Int)
    (cols : Nat) : Bool :=
  let top := max y₁ selection.first.row
  let bottom := min y₂ selection.past.row
  decide (top ≤ bottom) &&
    [top, min (top + 1) bottom, bottom].any
      (selection.meetsRow x₁ x₂ cols)

------------------------------------------------------------
-- Scrolling
------------------------------------------------------------

/- Move every point of a selection by some rows. -/
def shift
    (selection : Selection)
    (delta : Int) : Selection :=
  { selection with
    anchor := selection.anchor.shift delta
    current := selection.current.shift delta
    first := selection.first.shift delta
    past := selection.past.shift delta }

/- A row lies between two others. -/
def rowInside
    (top bottom : Int)
    (point : Point) : Bool :=
  decide (top ≤ point.row ∧ point.row ≤ bottom)

/-
  The rows `top` to `bottom` of the screen move by `delta`.  A
  selection among them moves along.  One that is only partly
  among them, or that does not stay among them, is dropped.
-/
def regionScrolled?
    (selection : Selection)
    (top bottom delta : Int)
    (screen : Screen) : Option Selection :=
  if selection.screen ≠ screen then
    some selection
  else if rowInside top bottom selection.first ≠
      rowInside top bottom selection.past then
    none
  else if rowInside top bottom selection.first then
    let moved := selection.shift delta
    if moved.first.row < top ∨ bottom < moved.past.row then
      none
    else
      some moved
  else
    some selection

/-
  The point at the oldest row, for a point above it, and any
  other point as it is.
-/
def cutPoint
    (oldest : Point)
    (point : Point) : Point :=
  if point.row < oldest.row then oldest else point

/-
  Cut a selection at the oldest row.  What is left of it may
  be empty, and is dropped then.
-/
def cut?
    (selection : Selection)
    (minRow : Int) : Option Selection :=
  let col :=
    match selection.mode with
    | .character => 0
    | .block => selection.first.col
  let oldest : Point := ⟨col, minRow⟩
  let rest :=
    { selection with
      first := oldest
      anchor := cutPoint oldest selection.anchor
      current := cutPoint oldest selection.current }
  if rest.isEmpty then none else some rest

/-
  The screen moves by `delta` together with the history, of
  which the rows `minRow` to `maxRow` are left.  A selection
  moves along.  It is dropped where it ends outside of them,
  and cut where it begins above them.
-/
def historyScrolled?
    (selection : Selection)
    (delta minRow maxRow : Int)
    (screen : Screen) : Option Selection :=
  if selection.screen ≠ screen then
    some selection
  else
    let moved := selection.shift delta
    if moved.past.row < minRow ∨ maxRow < moved.past.row then
      none
    else if moved.first.row < minRow then
      moved.cut? minRow
    else
      some moved

------------------------------------------------------------
-- Text
------------------------------------------------------------

/- The whole numbers from one up to another. -/
def rowsBetween
    (first last : Int) : List Int :=
  (List.range (last + 1 - first).toNat).map
    fun (n : Nat) => first + n

/- The rows of a selection that a screen has lines for. -/
def rows
    (selection : Selection)
    (grid : Grid) : List Int :=
  rowsBetween
    (max selection.first.row (-grid.scrollback.size))
    (min selection.past.row (grid.rows - 1))

/-
  The selected text of a line, with what separates it from the
  next one: nothing where the line is soft-wrapped into the
  next, and else a line break in place of trailing spaces.
-/
def segment
    (selection : Selection)
    (cols : Nat)
    (row : Int)
    (line : Line) : List Char :=
  let (start, stop) :=
    (selection.rowSpan? row cols).getD (0, 0)
  let continues :=
    selection.mode == .character && stop == cols &&
      line.isWrapped && decide (row < selection.past.row)
  let chars :=
    Line.charsOf ((line.cells.take stop).drop start)
  if continues then
    chars
  else if row < selection.past.row then
    Blank.trimSpacesRight chars ++ ['\n']
  else
    Blank.trimSpacesRight chars

/- The selected characters of a row. -/
def rowChars
    (selection : Selection)
    (grid : Grid)
    (row : Int) : List Char :=
  (grid.lineAt? row).elim []
    (selection.segment grid.cols row)

/- The text of a selection that is not empty. -/
def text?
    (selection : Selection)
    (grid : Grid) : Option String :=
  if selection.isEmpty then
    none
  else
    some <| .ofList <|
      (selection.rows grid).flatMap (selection.rowChars grid)

end Selection

end VideoTerminal
