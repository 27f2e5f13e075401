import Mathlib.Data.List.Basic
import VideoTerminal.Proofs.Grid.Follow
import VideoTerminal.Proofs.Selection.Overlap
import VideoTerminal.Proofs.Word

/-
  The text of a selection when the lines under it move.  A
  selection that moves by the same distance selects the same
  text, and one that is cut at the oldest row selects the end
  of it.

  Main declarations:
    * `Selection.chars`
    * `Selection.MovesBy`
    * `Selection.movesBy_shift`
    * `Selection.MovesBy.chars_eq`
    * `Selection.segment_cut?`
    * `Selection.chars_cut?`
-/

namespace VideoTerminal

namespace Point

/- The point some rows further down, or further up. -/
def moveBy
    (p : Point)
    (delta : Int) : Point :=
  { p with row := p.row + delta }

/- A row that the word has room for. -/
theorem shift_eq_moveBy
    {p : Point}
    {delta : Int}
    (hLow : -2 ^ 63 ≤ p.row + delta)
    (hHigh : p.row + delta < 2 ^ 63) :
    p.shift delta = p.moveBy delta := by
  unfold shift moveBy
  rw [Word.signed_eq hLow hHigh]

end Point

namespace Selection

------------------------------------------------------------
-- Rows
------------------------------------------------------------

theorem mem_rowsBetween
    {first last row : Int} :
    row ∈ rowsBetween first last ↔
      first ≤ row ∧ row ≤ last := by
  unfold rowsBetween
  rw [List.mem_map]
  constructor
  · rintro ⟨n, hMem, rfl⟩
    have hLt := List.mem_range.mp hMem
    omega
  · rintro ⟨hFirst, hLast⟩
    refine ⟨(row - first).toNat, List.mem_range.mpr ?_, ?_⟩
    · omega
    · omega

theorem rowsBetween_add
    (first last delta : Int) :
    rowsBetween (first + delta) (last + delta) =
      (rowsBetween first last).map (· + delta) := by
  have hCount :
      last + delta + 1 - (first + delta) =
        last + 1 - first := by
    omega
  unfold rowsBetween
  rw [List.map_map, hCount]
  apply List.map_congr_left
  intro n _
  show first + delta + (n : Int) = first + n + delta
  omega

/- The rows up to one, and the rows from it on. -/
theorem rowsBetween_append
    {first middle last : Int}
    (hFirst : first ≤ middle)
    (hLast : middle ≤ last + 1) :
    rowsBetween first last =
      rowsBetween first (middle - 1) ++
        rowsBetween middle last := by
  have hCount :
      (last + 1 - first).toNat =
        (middle - 1 + 1 - first).toNat +
          (last + 1 - middle).toNat := by
    omega
  unfold rowsBetween
  rw [hCount, List.range_add, List.map_append,
    List.map_map]
  congr 1
  apply List.map_congr_left
  intro n _
  show
    first + (((middle - 1 + 1 - first).toNat + n : Nat) :
      Int) = middle + n
  omega

section

variable {selection : Selection} {grid : Grid}

/- The characters of a selection, row by row. -/
def chars
    (selection : Selection)
    (grid : Grid) : List Char :=
  (selection.rows grid).flatMap (selection.rowChars grid)

theorem text?_eq
    (selection : Selection)
    (grid : Grid) :
    selection.text? grid =
      if selection.isEmpty then
        none
      else
        some (.ofList (selection.chars grid)) :=
  rfl

/-
  The rows of a selection are among those of a screen and what
  its history retains.
-/
structure Within
    (selection : Selection)
    (grid : Grid) : Prop where
  first : -grid.scrollback.size ≤ selection.first.row
  past : selection.past.row < grid.rows

theorem Within.chars_eq
    (hWithin : selection.Within grid) :
    selection.chars grid =
      (rowsBetween selection.first.row
        selection.past.row).flatMap
          (selection.rowChars grid) := by
  have hFirst := hWithin.first
  have hPast := hWithin.past
  unfold chars rows
  rw [Int.max_eq_left hFirst, Int.min_eq_left (by omega)]

------------------------------------------------------------
-- Moving
------------------------------------------------------------

/-
  One selection has the range of another, some rows further
  down or further up.
-/
structure MovesBy
    (selection : Selection)
    (delta : Int)
    (moved : Selection) : Prop where
  mode_eq : moved.mode = selection.mode
  screen_eq : moved.screen = selection.screen
  first_eq : moved.first = selection.first.moveBy delta
  past_eq : moved.past = selection.past.moveBy delta

/- Shifting does that as far as words have room for rows. -/
theorem movesBy_shift
    {delta : Int}
    (hFirst :
      -2 ^ 63 ≤ selection.first.row + delta ∧
        selection.first.row + delta < 2 ^ 63)
    (hPast :
      -2 ^ 63 ≤ selection.past.row + delta ∧
        selection.past.row + delta < 2 ^ 63) :
    selection.MovesBy delta (selection.shift delta) where
  mode_eq := rfl
  screen_eq := rfl
  first_eq := Point.shift_eq_moveBy hFirst.1 hFirst.2
  past_eq := Point.shift_eq_moveBy hPast.1 hPast.2

section

variable {moved : Selection} {delta : Int}
  (hMoves : selection.MovesBy delta moved)

include hMoves

theorem MovesBy.firstRow_eq :
    moved.first.row = selection.first.row + delta :=
  congrArg Point.row hMoves.first_eq

theorem MovesBy.pastRow_eq :
    moved.past.row = selection.past.row + delta :=
  congrArg Point.row hMoves.past_eq

theorem MovesBy.rowSpan?_eq
    (row : Int)
    (cols : Nat) :
    moved.rowSpan? (row + delta) cols =
      selection.rowSpan? row cols := by
  have hColumns :
      moved.columns (row + delta) cols =
        selection.columns row cols := by
    unfold columns
    rw [hMoves.mode_eq, hMoves.first_eq, hMoves.past_eq]
    unfold Point.moveBy
    simp only [Int.add_left_inj]
  rw [Selection.rowSpan?_eq, Selection.rowSpan?_eq, hColumns,
    hMoves.firstRow_eq, hMoves.pastRow_eq]
  simp only [Int.add_le_add_iff_right]

theorem MovesBy.segment_eq
    (row : Int)
    (cols : Nat)
    (line : Line) :
    moved.segment cols (row + delta) line =
      selection.segment cols row line := by
  unfold segment
  rw [hMoves.rowSpan?_eq, hMoves.mode_eq, hMoves.pastRow_eq]
  simp only [Int.add_lt_add_iff_right]

theorem MovesBy.isEmpty_eq :
    moved.isEmpty = selection.isEmpty := by
  unfold isEmpty
  rw [hMoves.mode_eq, hMoves.first_eq, hMoves.past_eq]
  unfold Point.moveBy Point.Before
  simp only [Int.add_lt_add_iff_right, Int.add_left_inj]

/- A row that is found elsewhere has the same characters. -/
theorem MovesBy.rowChars_eq
    {scrolled : Grid}
    {row : Int}
    (hCols : scrolled.cols = grid.cols)
    (hLine :
      scrolled.lineAt? (row + delta) = grid.lineAt? row) :
    moved.rowChars scrolled (row + delta) =
      selection.rowChars grid row := by
  unfold rowChars
  rw [hLine, hCols]
  congr 1
  funext line
  exact hMoves.segment_eq row grid.cols line

end

theorem rowChars_congr
    {other : Grid}
    {row : Int}
    (hCols : other.cols = grid.cols)
    (hLine : other.lineAt? row = grid.lineAt? row) :
    selection.rowChars other row =
      selection.rowChars grid row := by
  unfold rowChars
  rw [hLine, hCols]

/- A selection that follows its lines keeps its text. -/
theorem MovesBy.chars_eq
    {moved : Selection}
    {scrolled : Grid}
    {delta : Int}
    (hMoves : selection.MovesBy delta moved)
    (hBefore : selection.Within grid)
    (hAfter : moved.Within scrolled)
    (hCols : scrolled.cols = grid.cols)
    (hFollows :
      grid.Follows scrolled delta selection.first.row
        selection.past.row) :
    moved.chars scrolled = selection.chars grid := by
  rw [hBefore.chars_eq, hAfter.chars_eq, hMoves.firstRow_eq,
    hMoves.pastRow_eq, rowsBetween_add, List.flatMap_map]
  apply List.flatMap_congr
  intro row hRow
  rcases mem_rowsBetween.mp hRow with ⟨hFirst, hLast⟩
  exact
    hMoves.rowChars_eq hCols (hFollows row hFirst hLast)

------------------------------------------------------------
-- Cutting
------------------------------------------------------------

/- What is left of a selection that is cut. -/
theorem of_cut?_eq_some
    {minRow : Int}
    {rest : Selection}
    (hCut : selection.cut? minRow = some rest) :
    rest.mode = selection.mode ∧
      rest.screen = selection.screen ∧
      rest.past = selection.past ∧
      rest.first.row = minRow ∧
      (rest.first.col =
        match selection.mode with
        | .character => 0
        | .block => selection.first.col) ∧
      rest.isEmpty = false := by
  unfold cut? at hCut
  rcases Option.ite_none_left_eq_some.mp hCut with
    ⟨hSome, hRest⟩
  cases hRest
  exact
    ⟨rfl, rfl, rfl, rfl, rfl, Bool.eq_false_iff.mpr hSome⟩

/- From the cut on, the same columns are selected. -/
theorem segment_cut?
    {minRow row : Int}
    {rest : Selection}
    (hCut : selection.cut? minRow = some rest)
    (hAbove : selection.first.row < minRow)
    (hRow : minRow ≤ row)
    (cols : Nat)
    (line : Line) :
    rest.segment cols row line =
      selection.segment cols row line := by
  rcases of_cut?_eq_some hCut with
    ⟨hMode, _, hPast, hFirstRow, hFirstCol, _⟩
  have hColumns :
      rest.columns row cols = selection.columns row cols := by
    unfold columns
    rw [hMode, hPast, hFirstRow, hFirstCol]
    cases selection.mode with
    | block => rfl
    | character =>
        simp only [ite_self,
          if_neg (show row ≠ selection.first.row by omega)]
  have hWithin :
      (rest.first.row ≤ row ∧ row ≤ rest.past.row) ↔
        (selection.first.row ≤ row ∧
          row ≤ selection.past.row) := by
    rw [hPast, hFirstRow]
    omega
  have hSpan :
      rest.rowSpan? row cols =
        selection.rowSpan? row cols := by
    rw [rowSpan?_eq, rowSpan?_eq, hColumns]
    simp only [hWithin]
  unfold segment
  rw [hSpan, hMode, hPast]

/- A selection that is cut keeps the end of its text. -/
theorem chars_cut?
    {moved rest : Selection}
    {scrolled : Grid}
    {delta minRow : Int}
    (hMoves : selection.MovesBy delta moved)
    (hCut : moved.cut? minRow = some rest)
    (hAbove : selection.first.row + delta < minRow)
    (hBelow : minRow ≤ selection.past.row + delta + 1)
    (hBefore : selection.Within grid)
    (hAfter : rest.Within scrolled)
    (hCols : scrolled.cols = grid.cols)
    (hFollows :
      grid.Follows scrolled delta (minRow - delta)
        selection.past.row) :
    rest.chars scrolled <:+ selection.chars grid := by
  rcases of_cut?_eq_some hCut with
    ⟨_, _, hPast, hFirstRow, _, _⟩
  have hPastRow :
      rest.past.row = selection.past.row + delta :=
    (congrArg Point.row hPast).trans hMoves.pastRow_eq
  have hMovedAbove : moved.first.row < minRow := by
    rw [hMoves.firstRow_eq]
    exact hAbove
  have hLeft :
      rest.chars scrolled =
        (rowsBetween (minRow - delta)
          selection.past.row).flatMap
            (selection.rowChars grid) := by
    have hRows :
        rowsBetween minRow (selection.past.row + delta) =
          (rowsBetween (minRow - delta)
            selection.past.row).map (· + delta) := by
      rw [← rowsBetween_add, Int.sub_add_cancel]
    rw [hAfter.chars_eq, hFirstRow, hPastRow, hRows,
      List.flatMap_map]
    apply List.flatMap_congr
    intro row hRow
    rcases mem_rowsBetween.mp hRow with ⟨hFirst, hLast⟩
    refine Eq.trans ?_
      (hMoves.rowChars_eq hCols (hFollows row hFirst hLast))
    unfold rowChars
    congr 1
    funext line
    exact segment_cut? hCut hMovedAbove (by omega) _ line
  rw [hBefore.chars_eq, hLeft,
    rowsBetween_append
      (show selection.first.row ≤ minRow - delta by omega)
      (by omega),
    List.flatMap_append]
  exact List.suffix_append _ _

end

end Selection

end VideoTerminal
