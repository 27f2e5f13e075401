import VideoTerminal.Proofs.Checked.Grid
import VideoTerminal.Proofs.Grid.Cells
import VideoTerminal.Proofs.Selection.Scroll

/-
  Words, lines and selections by operations that can fault.
  None of them does on a well-formed screen, wherever the
  points of a selection lie.

  Main declarations:
    * `Grid.walkBackChecked_eq`
    * `Grid.walkOnChecked_eq`
    * `Grid.firstRowChecked_eq`
    * `Grid.lastRowChecked_eq`
    * `Selection.beginChecked_eq`
    * `Selection.extendChecked_eq`
    * `Selection.textChecked_eq`
-/

namespace VideoTerminal

namespace Grid

------------------------------------------------------------
-- Neighbours
------------------------------------------------------------

/- The character of a cell, if there is one. -/
def charAtChecked
    (grid : Grid)
    (point : Point) : Option (Option Char) := do
  let line? ← grid.lineAtChecked point.row
  return (line?.bind (·.get? point.col)).map fun cell =>
    if cell.placeholder then '\x00' else cell.char

/- A cell exists and belongs to a word. -/
def isWordAtChecked
    (grid : Grid)
    (isDelimiter : Char → Bool)
    (point : Point) : Option Bool := do
  let char? ← grid.charAtChecked point
  return char?.any (!isDelimiter ·)

/- The point before one, if no hard line end lies between. -/
def previousPointChecked
    (grid : Grid)
    (point : Point) : Option (Option Point) := do
  if 0 < point.col then
    let col ← Checked.sub point.col 1
    return some ⟨col, point.row⟩
  else if ← grid.isWrappedAtChecked (point.row - 1) then
    let col ← Checked.sub grid.cols 1
    return some ⟨col, point.row - 1⟩
  else
    return none

/- A row continues on a next row that exists. -/
def continuesChecked
    (grid : Grid)
    (row : Int) : Option Bool := do
  if ← grid.isWrappedAtChecked row then
    let next? ← grid.lineAtChecked (row + 1)
    return next?.isSome
  else
    return false

/- The point after one, if no hard line end lies between. -/
def nextPointChecked
    (grid : Grid)
    (point : Point) : Option (Option Point) := do
  if point.col + 1 < grid.cols then
    return some ⟨point.col + 1, point.row⟩
  else if ← grid.continuesChecked point.row then
    return some ⟨0, point.row + 1⟩
  else
    return none

section

variable {grid : Grid} {row : Int}

/- A line that is found is on the screen or in the history. -/
theorem inside_of_lineAtChecked_eq_some
    {line : Line}
    (hLine : grid.lineAtChecked row = some (some line)) :
    -(grid.scrollback.size : Int) ≤ row ∧
      row < grid.rows := by
  unfold lineAtChecked at hLine
  split at hLine
  · rename_i hRow
    have hLength :=
      (List.getElem?_eq_some_iff.mp
        (Option.some.inj hLine)).1
    have hLt : row.toNat < grid.rows := hLength
    omega
  · unfold Checked.sub Scrollback.getChecked at hLine
    rw [if_pos (by omega)] at hLine
    simp only [Option.bind_eq_bind, Option.bind_some] at hLine
    split at hLine
    · omega
    · cases hLine

theorem inside_of_isWrappedAtChecked
    (hWrapped : grid.isWrappedAtChecked row = some true) :
    -(grid.scrollback.size : Int) ≤ row := by
  unfold isWrappedAtChecked at hWrapped
  cases hLine : grid.lineAtChecked row with
  | none =>
      rw [hLine] at hWrapped
      cases hWrapped
  | some line? =>
      cases line? with
      | none =>
          rw [hLine] at hWrapped
          cases hWrapped
      | some line =>
          exact (inside_of_lineAtChecked_eq_some hLine).1

theorem inside_of_continuesChecked
    (hContinues : grid.continuesChecked row = some true) :
    row + 1 < grid.rows := by
  unfold continuesChecked at hContinues
  simp only [Option.bind_eq_bind, Option.bind_eq_some_iff]
    at hContinues
  rcases hContinues with ⟨wrapped, _, hNext⟩
  cases wrapped with
  | false => cases hNext
  | true =>
      rw [if_pos rfl, Option.bind_eq_some_iff] at hNext
      rcases hNext with ⟨next?, hLine, hSome⟩
      cases next? with
      | none => cases hSome
      | some line =>
          exact (inside_of_lineAtChecked_eq_some hLine).2

theorem previousPointChecked_decreases
    {point before : Point}
    (hBefore :
      grid.previousPointChecked point = some (some before)) :
    Prod.Lex (· < ·) (· < ·)
      ((before.row + grid.scrollback.size).toNat, before.col)
      ((point.row + grid.scrollback.size).toNat,
        point.col) := by
  unfold previousPointChecked at hBefore
  split at hBefore
  · rw [Checked.sub_eq (by omega)] at hBefore
    cases hBefore
    exact Prod.Lex.right _ (by dsimp only; omega)
  · simp only [Option.bind_eq_bind, Option.bind_eq_some_iff]
      at hBefore
    rcases hBefore with ⟨wrapped, hWrapped, hCol⟩
    cases wrapped with
    | false => cases hCol
    | true =>
        rw [if_pos rfl, Option.bind_eq_some_iff] at hCol
        rcases hCol with ⟨col, _, hPoint⟩
        cases hPoint
        have hRow := inside_of_isWrappedAtChecked hWrapped
        exact Prod.Lex.left _ _ (by dsimp only; omega)

theorem nextPointChecked_decreases
    {point after : Point}
    (hAfter :
      grid.nextPointChecked point = some (some after)) :
    Prod.Lex (· < ·) (· < ·)
      ((grid.rows - after.row).toNat, grid.cols - after.col)
      ((grid.rows - point.row).toNat,
        grid.cols - point.col) := by
  unfold nextPointChecked at hAfter
  split at hAfter
  · cases hAfter
    exact Prod.Lex.right _ (by dsimp only; omega)
  · simp only [Option.bind_eq_bind, Option.bind_eq_some_iff]
      at hAfter
    rcases hAfter with ⟨continues, hContinues, hPoint⟩
    cases continues with
    | false => cases hPoint
    | true =>
        cases hPoint
        have hRow := inside_of_continuesChecked hContinues
        exact Prod.Lex.left _ _ (by dsimp only; omega)

end

------------------------------------------------------------
-- Words and Lines
------------------------------------------------------------

/- Walk back while the cells before belong to a word. -/
def walkBackChecked
    (grid : Grid)
    (isDelimiter : Char → Bool)
    (point : Point) : Option Point :=
  match _ : grid.previousPointChecked point with
  | none => none
  | some none => some point
  | some (some before) =>
    match grid.isWordAtChecked isDelimiter before with
    | none => none
    | some true => grid.walkBackChecked isDelimiter before
    | some false => some point
termination_by
  ((point.row + grid.scrollback.size).toNat, point.col)
decreasing_by
  exact previousPointChecked_decreases (by assumption)

/- Walk on while the cells after belong to a word. -/
def walkOnChecked
    (grid : Grid)
    (isDelimiter : Char → Bool)
    (point : Point) : Option Point :=
  match _ : grid.nextPointChecked point with
  | none => none
  | some none => some point
  | some (some after) =>
    match grid.isWordAtChecked isDelimiter after with
    | none => none
    | some true => grid.walkOnChecked isDelimiter after
    | some false => some point
termination_by
  ((grid.rows - point.row).toNat, grid.cols - point.col)
decreasing_by
  exact nextPointChecked_decreases (by assumption)

/- The first of the rows that continue one another. -/
def firstRowChecked
    (grid : Grid)
    (row : Int) : Option Int :=
  match _ : grid.isWrappedAtChecked (row - 1) with
  | none => none
  | some true => grid.firstRowChecked (row - 1)
  | some false => some row
termination_by (row + grid.scrollback.size).toNat
decreasing_by
  have hRow :=
    inside_of_isWrappedAtChecked
      (show grid.isWrappedAtChecked (row - 1) = some true by
        assumption)
  omega

/- The last of the rows that continue one another. -/
def lastRowChecked
    (grid : Grid)
    (row : Int) : Option Int :=
  match _ : grid.continuesChecked row with
  | none => none
  | some true => grid.lastRowChecked (row + 1)
  | some false => some row
termination_by (grid.rows - row).toNat
decreasing_by
  have hRow :=
    inside_of_continuesChecked
      (show grid.continuesChecked row = some true by
        assumption)
  omega

/- The first cell of the word that a point lies in. -/
def wordStartChecked
    (grid : Grid)
    (isDelimiter : Char → Bool)
    (point : Point) : Option Point := do
  if ← grid.isWordAtChecked isDelimiter point then
    grid.walkBackChecked isDelimiter point
  else
    return point

/- The end of the word that a point lies in. -/
def wordEndChecked
    (grid : Grid)
    (isDelimiter : Char → Bool)
    (point : Point) : Option Point := do
  let last ←
    if ← grid.isWordAtChecked isDelimiter point then
      grid.walkOnChecked isDelimiter point
    else
      some point
  return ⟨last.col + 1, last.row⟩

/- The first cell of the line that a point lies in. -/
def lineStartChecked
    (grid : Grid)
    (point : Point) : Option Point := do
  let row ← grid.firstRowChecked point.row
  return ⟨0, row⟩

/- The end of the line that a point lies in. -/
def lineEndChecked
    (grid : Grid)
    (point : Point) : Option Point := do
  let row ← grid.lastRowChecked point.row
  return ⟨grid.cols, row⟩

section

variable {grid : Grid}
  (hRing : grid.scrollback.Aligned)

include hRing

theorem isWordAtChecked_eq
    (isDelimiter : Char → Bool)
    (point : Point) :
    grid.isWordAtChecked isDelimiter point =
      some (grid.isWordAt isDelimiter point) := by
  unfold isWordAtChecked charAtChecked isWordAt charAt?
  rw [lineAtChecked_eq hRing]
  rfl

theorem continuesChecked_eq
    (row : Int) :
    grid.continuesChecked row =
      some
        (decide
          (grid.isWrappedAt row ∧
            (grid.lineAt? (row + 1)).isSome)) := by
  unfold continuesChecked
  rw [isWrappedAtChecked_eq hRing, lineAtChecked_eq hRing]
  simp only [Option.bind_eq_bind, Option.bind_some]
  cases grid.isWrappedAt row <;> simp

theorem nextPointChecked_eq
    (point : Point) :
    grid.nextPointChecked point =
      some (grid.nextPoint? point) := by
  unfold nextPointChecked nextPoint?
  split
  · rfl
  · rw [continuesChecked_eq hRing]
    simp only [Option.bind_eq_bind, Option.bind_some,
      decide_eq_true_eq]
    split <;> rfl

theorem walkOnChecked_eq
    (isDelimiter : Char → Bool)
    (point : Point) :
    grid.walkOnChecked isDelimiter point =
      some (grid.walkOn isDelimiter point) := by
  fun_induction walkOn grid isDelimiter point with
  | case1 point hNone =>
      have hNext := nextPointChecked_eq hRing point
      rw [hNone] at hNext
      unfold walkOnChecked
      split <;> grind
  | case2 point after hAfter hWord hRest =>
      have hNext := nextPointChecked_eq hRing point
      have hChar := isWordAtChecked_eq hRing isDelimiter after
      rw [hAfter] at hNext
      rw [hWord] at hChar
      unfold walkOnChecked
      split <;> grind
  | case3 point after hAfter hWord =>
      have hNext := nextPointChecked_eq hRing point
      have hChar := isWordAtChecked_eq hRing isDelimiter after
      rw [hAfter] at hNext
      rw [Bool.eq_false_iff.mpr hWord] at hChar
      unfold walkOnChecked
      split <;> grind

theorem firstRowChecked_eq
    (row : Int) :
    grid.firstRowChecked row = some (grid.firstRow row) := by
  fun_induction firstRow grid row with
  | case1 row hWrapped hRest =>
      have hAbove := isWrappedAtChecked_eq hRing (row - 1)
      rw [hWrapped] at hAbove
      unfold firstRowChecked
      split <;> grind
  | case2 row hWrapped =>
      have hAbove := isWrappedAtChecked_eq hRing (row - 1)
      rw [Bool.eq_false_iff.mpr hWrapped] at hAbove
      unfold firstRowChecked
      split <;> grind

theorem lastRowChecked_eq
    (row : Int) :
    grid.lastRowChecked row = some (grid.lastRow row) := by
  fun_induction lastRow grid row with
  | case1 row hContinues hRest =>
      have hBelow := continuesChecked_eq hRing row
      rw [decide_eq_true hContinues] at hBelow
      unfold lastRowChecked
      split <;> grind
  | case2 row hContinues =>
      have hBelow := continuesChecked_eq hRing row
      rw [decide_eq_false hContinues] at hBelow
      unfold lastRowChecked
      split <;> grind

theorem lineStartChecked_eq
    (point : Point) :
    grid.lineStartChecked point =
      some (grid.lineStart point) :=
  Checked.bind_eq (firstRowChecked_eq hRing point.row)

theorem lineEndChecked_eq
    (point : Point) :
    grid.lineEndChecked point =
      some (grid.lineEnd point) :=
  Checked.bind_eq (lastRowChecked_eq hRing point.row)

theorem wordEndChecked_eq
    (isDelimiter : Char → Bool)
    (point : Point) :
    grid.wordEndChecked isDelimiter point =
      some (grid.wordEnd isDelimiter point) := by
  unfold wordEndChecked wordEnd
  rw [isWordAtChecked_eq hRing, walkOnChecked_eq hRing]
  cases grid.isWordAt isDelimiter point <;> rfl

/- Walking back across lines needs the last column. -/
variable
  (hCols : 0 < grid.cols)

include hCols

theorem previousPointChecked_eq
    (point : Point) :
    grid.previousPointChecked point =
      some (grid.previousPoint? point) := by
  unfold previousPointChecked previousPoint?
  split
  · rw [Checked.sub_eq (by omega)]
    rfl
  · rw [isWrappedAtChecked_eq hRing,
      Checked.sub_eq (show 1 ≤ grid.cols from hCols)]
    cases grid.isWrappedAt (point.row - 1) <;> rfl

theorem walkBackChecked_eq
    (isDelimiter : Char → Bool)
    (point : Point) :
    grid.walkBackChecked isDelimiter point =
      some (grid.walkBack isDelimiter point) := by
  fun_induction walkBack grid isDelimiter point with
  | case1 point hNone =>
      have hPrevious :=
        previousPointChecked_eq hRing hCols point
      rw [hNone] at hPrevious
      unfold walkBackChecked
      split <;> grind
  | case2 point before hBefore hWord hRest =>
      have hPrevious :=
        previousPointChecked_eq hRing hCols point
      have hChar := isWordAtChecked_eq hRing isDelimiter before
      rw [hBefore] at hPrevious
      rw [hWord] at hChar
      unfold walkBackChecked
      split <;> grind
  | case3 point before hBefore hWord =>
      have hPrevious :=
        previousPointChecked_eq hRing hCols point
      have hChar := isWordAtChecked_eq hRing isDelimiter before
      rw [hBefore] at hPrevious
      rw [Bool.eq_false_iff.mpr hWord] at hChar
      unfold walkBackChecked
      split <;> grind

theorem wordStartChecked_eq
    (isDelimiter : Char → Bool)
    (point : Point) :
    grid.wordStartChecked isDelimiter point =
      some (grid.wordStart isDelimiter point) := by
  unfold wordStartChecked wordStart
  rw [isWordAtChecked_eq hRing,
    walkBackChecked_eq hRing hCols]
  cases grid.isWordAt isDelimiter point <;> rfl

end

end Grid

namespace Selection

------------------------------------------------------------
-- The Pointer
------------------------------------------------------------

/- The text between two points, grown as the snap asks for. -/
def characterRangeChecked
    (grid : Grid)
    (isDelimiter : Char → Bool)
    (snap : Snap)
    (p q : Point) : Option (Point × Point) := do
  let (b, e) := if q.Before p then (q, p) else (p, q)
  let (b, e) ←
    match snap with
    | .none => some (b, e)
    | .word =>
      let first ← grid.wordStartChecked isDelimiter b
      let past ← grid.wordEndChecked isDelimiter e
      some (first, past)
    | .line =>
      let first ← grid.lineStartChecked b
      let past ← grid.lineEndChecked e
      some (first, past)
  return (b, ⟨min e.col grid.cols, e.row⟩)

/- The range that two points of the pointer select. -/
def rangeOfChecked
    (grid : Grid)
    (isDelimiter : Char → Bool)
    (mode : SelectionMode)
    (snap : Snap)
    (p q : Point) : Option (Point × Point) :=
  match mode with
  | .block => some (blockRange p q)
  | .character =>
    characterRangeChecked grid isDelimiter snap p q

/- The pointer goes down at a point. -/
def beginChecked
    (grid : Grid)
    (isDelimiter : Char → Bool)
    (point : Point)
    (snap : Snap)
    (mode : SelectionMode)
    (screen : Screen) : Option Selection := do
  let (first, past) ←
    rangeOfChecked grid isDelimiter mode snap point point
  return ⟨.dragging, mode, snap, point, point, first, past,
    screen⟩

/- The pointer is dragged to a point. -/
def extendChecked
    (selection : Selection)
    (grid : Grid)
    (isDelimiter : Char → Bool)
    (point : Point) : Option Selection := do
  let (first, past) ←
    rangeOfChecked grid isDelimiter selection.mode
      selection.snap selection.anchor point
  some
    { selection with
      phase := .dragging
      current := point
      first := first
      past := past }

section

variable {grid : Grid}
  (hRing : grid.scrollback.Aligned)
  (hCols : 0 < grid.cols)

include hRing hCols

theorem rangeOfChecked_eq
    (isDelimiter : Char → Bool)
    (mode : SelectionMode)
    (snap : Snap)
    (p q : Point) :
    rangeOfChecked grid isDelimiter mode snap p q =
      some (rangeOf grid isDelimiter mode snap p q) := by
  cases mode with
  | block => rfl
  | character =>
      unfold rangeOfChecked rangeOf characterRangeChecked
        characterRange
      cases snap with
      | none => rfl
      | word =>
          dsimp only
          rw [Grid.wordStartChecked_eq hRing hCols,
            Grid.wordEndChecked_eq hRing]
          rfl
      | line =>
          dsimp only
          rw [Grid.lineStartChecked_eq hRing,
            Grid.lineEndChecked_eq hRing]
          rfl

theorem beginChecked_eq
    (isDelimiter : Char → Bool)
    (point : Point)
    (snap : Snap)
    (mode : SelectionMode)
    (screen : Screen) :
    beginChecked grid isDelimiter point snap mode screen =
      some
        (.begin grid isDelimiter point snap mode screen) :=
  Checked.bind_eq (rangeOfChecked_eq hRing hCols ..)

theorem extendChecked_eq
    (selection : Selection)
    (isDelimiter : Char → Bool)
    (point : Point) :
    selection.extendChecked grid isDelimiter point =
      some (selection.extend grid isDelimiter point) :=
  Checked.bind_eq (rangeOfChecked_eq hRing hCols ..)

end

------------------------------------------------------------
-- Text
------------------------------------------------------------

/- The selected text of a line, with what separates it. -/
def segmentChecked
    (selection : Selection)
    (cols : Nat)
    (row : Int)
    (line : Line) : Option (List Char) := do
  let (start, stop) :=
    (selection.rowSpan? row cols).getD (0, 0)
  let continues :=
    selection.mode == .character && stop == cols &&
      line.isWrapped && decide (row < selection.past.row)
  let cells ← Checked.slice line.cells start stop
  let chars := Line.charsOf cells
  if continues then
    return chars
  else if row < selection.past.row then
    return Blank.trimSpacesRight chars ++ ['\n']
  else
    return Blank.trimSpacesRight chars

/- The selected characters of a row, none without a line. -/
def rowCharsChecked
    (selection : Selection)
    (grid : Grid)
    (row : Int) : Option (List Char) := do
  match ← grid.lineAtChecked row with
  | none => return []
  | some line => selection.segmentChecked grid.cols row line

/- The text of a selection, from all rows of its range. -/
def textChecked
    (selection : Selection)
    (grid : Grid) : Option (Option String) := do
  if selection.isEmpty then
    return none
  else
    let rows :=
      rowsBetween selection.first.row selection.past.row
    let segments ← rows.mapM (selection.rowCharsChecked grid)
    return some (.ofList segments.flatten)

/- The selected columns of a row are in order and exist. -/
theorem rowSpan?_getD_bounds
    (selection : Selection)
    (row : Int)
    (cols : Nat) :
    let span := (selection.rowSpan? row cols).getD (0, 0)
    span.1 ≤ span.2 ∧ span.2 ≤ cols := by
  intro span
  subst span
  cases hSpan : selection.rowSpan? row cols with
  | none => exact ⟨Nat.le_refl _, Nat.zero_le _⟩
  | some span =>
      rcases rowSpan?_eq_some_iff.mp hSpan with
        ⟨_, hOrder, hColumns⟩
      rw [Option.getD_some]
      refine ⟨Nat.le_of_lt hOrder, ?_⟩
      rw [hColumns]
      exact Nat.min_le_right _ _

theorem segmentChecked_eq
    (selection : Selection)
    {cols : Nat}
    {line : Line}
    (hWidth : line.width = cols)
    (row : Int) :
    selection.segmentChecked cols row line =
      some (selection.segment cols row line) := by
  subst hWidth
  have hSpan := rowSpan?_getD_bounds selection row line.width
  have hCells := Checked.slice_eq hSpan.1 hSpan.2
  unfold segmentChecked segment
  generalize
    (selection.rowSpan? row line.width).getD (0, 0) = span
    at hCells ⊢
  refine (Checked.bind_eq hCells).trans ?_
  dsimp only
  split
  · rfl
  · split <;> rfl

/-
  Rows for which there is nothing to collect can be left out
  at both ends.
-/
theorem flatMap_rowsBetween_clip
    {α : Type}
    {f : Int → List α}
    {low high : Int}
    (hNone :
      ∀ row, row < low ∨ high < row → f row = [])
    (first last : Int) :
    (rowsBetween first last).flatMap f =
      (rowsBetween (max first low)
        (min last high)).flatMap f := by
  have hNil :
      ∀ first last : Int,
        (∀ row, first ≤ row → row ≤ last →
            row < low ∨ high < row) →
          (rowsBetween first last).flatMap f = [] := by
    intro first last hOutside
    apply List.flatMap_eq_nil_iff.mpr
    intro row hRow
    rcases mem_rowsBetween.mp hRow with ⟨hFirst, hLast⟩
    exact hNone row (hOutside row hFirst hLast)
  by_cases hApart : min last high < max first low
  · rw [hNil first last (by omega), hNil _ _ (by omega)]
  · rw [rowsBetween_append
        (show first ≤ max first low by omega)
        (show max first low ≤ last + 1 by omega),
      rowsBetween_append
        (show max first low ≤ min last high + 1 by omega)
        (show min last high + 1 ≤ last + 1 by omega),
      List.flatMap_append, List.flatMap_append,
      hNil first _ (by omega), hNil _ last (by omega),
      Int.add_sub_cancel, List.nil_append, List.append_nil]

section

variable {grid : Grid} {cols rows capacity : Nat}
  (hGrid : grid.WellFormed cols rows capacity)
  (selection : Selection)

include hGrid

theorem rowCharsChecked_eq
    (row : Int) :
    selection.rowCharsChecked grid row =
      some (selection.rowChars grid row) := by
  unfold rowCharsChecked rowChars
  rw [Grid.lineAtChecked_eq hGrid.history.aligned]
  cases hLine : grid.lineAt? row with
  | none => rfl
  | some line =>
      exact
        selection.segmentChecked_eq
          (hGrid.fitsWidth row line hLine) row

theorem textChecked_eq :
    selection.textChecked grid =
      some (selection.text? grid) := by
  have hEach :
      (rowsBetween selection.first.row
          selection.past.row).mapM
          (selection.rowCharsChecked grid) =
        some
          ((rowsBetween selection.first.row
            selection.past.row).map
              (selection.rowChars grid)) :=
    Checked.mapM_eq fun row _ =>
      rowCharsChecked_eq hGrid selection row
  have hMissing :
      ∀ row : Int,
        row < -(grid.scrollback.size : Int) ∨
            (grid.rows - 1 : Int) < row →
          selection.rowChars grid row = [] := by
    intro row hOutside
    unfold rowChars
    cases hLine : grid.lineAt? row with
    | none => rfl
    | some line =>
        have hSome : (grid.lineAt? row).isSome := by
          rw [hLine]
          rfl
        have hLow := Grid.neg_size_le_of_lineAt?_isSome hSome
        have hHigh := Grid.row_lt_rows_of_lineAt?_isSome hSome
        omega
  have hClip :=
    flatMap_rowsBetween_clip hMissing selection.first.row
      selection.past.row
  unfold textChecked text? Selection.rows
  split
  · rfl
  · refine (Checked.bind_eq hEach).trans ?_
    rw [← List.flatMap_def, hClip]
    rfl

end

end Selection

end VideoTerminal
