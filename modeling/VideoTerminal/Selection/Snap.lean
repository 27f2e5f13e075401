import VideoTerminal.Grid.Basic
import VideoTerminal.Selection.Point

/-
  This file defines the words and the lines of a screen and
  its history, across the ends of lines that are soft-wrapped,
  and the ends of the word or line that a point lies in.

  Key definitions include:
    * `Grid.charAt?`
    * `Grid.isWordAt`
    * `Grid.previousPoint?`
    * `Grid.nextPoint?`
    * `Grid.wordStart`
    * `Grid.wordEnd`
    * `Grid.lineStart`
    * `Grid.lineEnd`
-/

namespace VideoTerminal

namespace Grid

------------------------------------------------------------
-- Rows That Exist
------------------------------------------------------------

/- A row that has a line is above the screen's last row. -/
theorem row_lt_rows_of_lineAt?_isSome
    {grid : Grid}
    {row : Int}
    (h : (grid.lineAt? row).isSome) :
    row < grid.rows := by
  match row with
  | .ofNat n =>
    simpa [lineAt?, line?, rows] using h
  | .negSucc n => omega

/- A row that has a line is in the history or below it. -/
theorem neg_size_le_of_lineAt?_isSome
    {grid : Grid}
    {row : Int}
    (h : (grid.lineAt? row).isSome) :
    -(grid.scrollback.size : Int) ≤ row := by
  match row with
  | .ofNat n => simp only [Int.ofNat_eq_natCast]; omega
  | .negSucc n =>
    simp only [lineAt?, Scrollback.get?] at h
    split at h
    · omega
    · simp at h

/- A wrapped row has a line. -/
theorem lineAt?_isSome_of_isWrappedAt
    {grid : Grid}
    {row : Int}
    (h : grid.isWrappedAt row) :
    (grid.lineAt? row).isSome := by
  simp only [isWrappedAt] at h
  cases hLine : grid.lineAt? row with
  | none => simp [hLine] at h
  | some line => rfl

------------------------------------------------------------
-- Words
------------------------------------------------------------

/-
  The character of a cell.  The second half of a wide
  character stands for no text of its own, and counts as NUL
  so that it stays with the first half.
-/
def charAt?
    (grid : Grid)
    (point : Point) : Option Char :=
  ((grid.lineAt? point.row).bind (·.get? point.col)).map
    fun cell => if cell.placeholder then '\x00' else cell.char

/- A cell exists and belongs to a word. -/
def isWordAt
    (grid : Grid)
    (isDelimiter : Char → Bool)
    (point : Point) : Bool :=
  (grid.charAt? point).any (!isDelimiter ·)

/-
  The point before one in reading order, where no hard line
  end lies between the two.
-/
def previousPoint?
    (grid : Grid)
    (point : Point) : Option Point :=
  if 0 < point.col then
    some ⟨point.col - 1, point.row⟩
  else if grid.isWrappedAt (point.row - 1) then
    some ⟨grid.cols - 1, point.row - 1⟩
  else
    none

/-
  The point after one in reading order, where no hard line end
  lies between the two.
-/
def nextPoint?
    (grid : Grid)
    (point : Point) : Option Point :=
  if point.col + 1 < grid.cols then
    some ⟨point.col + 1, point.row⟩
  else if grid.isWrappedAt point.row ∧
      (grid.lineAt? (point.row + 1)).isSome then
    some ⟨0, point.row + 1⟩
  else
    none

/- The point before is nearer to the oldest history line. -/
theorem previousPoint?_decreases
    {grid : Grid}
    {point before : Point}
    (h : grid.previousPoint? point = some before) :
    Prod.Lex (· < ·) (· < ·)
      ((before.row + grid.scrollback.size).toNat, before.col)
      ((point.row + grid.scrollback.size).toNat,
        point.col) := by
  simp only [previousPoint?] at h
  split at h
  · simp only [Option.some.injEq] at h
    subst h
    exact Prod.Lex.right _ (by simp only; omega)
  · split at h
    next hWrapped =>
      have hRow := neg_size_le_of_lineAt?_isSome
        (lineAt?_isSome_of_isWrappedAt hWrapped)
      simp only [Option.some.injEq] at h
      subst h
      exact Prod.Lex.left _ _ (by simp only; omega)
    next => simp at h

/- The point after is nearer to the end of the screen. -/
theorem nextPoint?_decreases
    {grid : Grid}
    {point after : Point}
    (h : grid.nextPoint? point = some after) :
    Prod.Lex (· < ·) (· < ·)
      ((grid.rows - after.row).toNat, grid.cols - after.col)
      ((grid.rows - point.row).toNat,
        grid.cols - point.col) := by
  simp only [nextPoint?] at h
  split at h
  · simp only [Option.some.injEq] at h
    subst h
    exact Prod.Lex.right _ (by simp only; omega)
  · split at h
    next hNext =>
      have hRow := row_lt_rows_of_lineAt?_isSome hNext.2
      simp only [Option.some.injEq] at h
      subst h
      exact Prod.Lex.left _ _ (by simp only; omega)
    next => simp at h

/-
  Walk back from a point for as long as the cells before it
  belong to a word.
-/
def walkBack
    (grid : Grid)
    (isDelimiter : Char → Bool)
    (point : Point) : Point :=
  match _ : grid.previousPoint? point with
  | none => point
  | some before =>
    if grid.isWordAt isDelimiter before then
      grid.walkBack isDelimiter before
    else
      point
termination_by
  ((point.row + grid.scrollback.size).toNat, point.col)
decreasing_by
  exact previousPoint?_decreases (by assumption)

/-
  Walk on from a point for as long as the cells after it
  belong to a word.
-/
def walkOn
    (grid : Grid)
    (isDelimiter : Char → Bool)
    (point : Point) : Point :=
  match _ : grid.nextPoint? point with
  | none => point
  | some after =>
    if grid.isWordAt isDelimiter after then
      grid.walkOn isDelimiter after
    else
      point
termination_by
  ((grid.rows - point.row).toNat, grid.cols - point.col)
decreasing_by
  exact nextPoint?_decreases (by assumption)

/- The first cell of the word that a point lies in. -/
def wordStart
    (grid : Grid)
    (isDelimiter : Char → Bool)
    (point : Point) : Point :=
  if grid.isWordAt isDelimiter point then
    grid.walkBack isDelimiter point
  else
    point

/-
  The end of the word that a point lies in, which is the
  column after its last cell.
-/
def wordEnd
    (grid : Grid)
    (isDelimiter : Char → Bool)
    (point : Point) : Point :=
  let last :=
    if grid.isWordAt isDelimiter point then
      grid.walkOn isDelimiter point
    else
      point
  ⟨last.col + 1, last.row⟩

------------------------------------------------------------
-- Lines
------------------------------------------------------------

/- The first of the rows that continue one another. -/
def firstRow
    (grid : Grid)
    (row : Int) : Int :=
  if h : grid.isWrappedAt (row - 1) then
    grid.firstRow (row - 1)
  else
    row
termination_by (row + grid.scrollback.size).toNat
decreasing_by
  have hRow := neg_size_le_of_lineAt?_isSome
    (lineAt?_isSome_of_isWrappedAt h)
  omega

/- The last of the rows that continue one another. -/
def lastRow
    (grid : Grid)
    (row : Int) : Int :=
  if h : grid.isWrappedAt row ∧
      (grid.lineAt? (row + 1)).isSome then
    grid.lastRow (row + 1)
  else
    row
termination_by (grid.rows - row).toNat
decreasing_by
  have hRow := row_lt_rows_of_lineAt?_isSome h.2
  omega

/- The first cell of the line that a point lies in. -/
def lineStart
    (grid : Grid)
    (point : Point) : Point :=
  ⟨0, grid.firstRow point.row⟩

/- The end of the line that a point lies in. -/
def lineEnd
    (grid : Grid)
    (point : Point) : Point :=
  ⟨grid.cols, grid.lastRow point.row⟩

end Grid

end VideoTerminal
