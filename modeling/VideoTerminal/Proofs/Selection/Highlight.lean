import VideoTerminal.Proofs.Grid.Cells
import VideoTerminal.Proofs.Selection.Scroll

/-
  The cells of a selection that show a character, in reading
  order.  Spaces and line breaks aside, these characters are
  its text.

  Main declarations:
    * `Selection.points`
    * `Selection.mem_points`
    * `Selection.pairwise_points`
    * `Selection.filter_chars`
-/

namespace VideoTerminal

/- The entries of a list at some positions in a row. -/
theorem filterMap_getElem?_range'
    {α : Type}
    (entries : List α)
    (start n : Nat) :
    (List.range' start n).filterMap (entries[·]?) =
      (entries.drop start).take n := by
  induction n generalizing start with
  | zero => rfl
  | succ n hRest =>
      rw [List.range'_succ]
      by_cases hStart : start < entries.length
      · rw [List.filterMap_cons_some
            (List.getElem?_eq_getElem hStart),
          hRest, List.drop_eq_getElem_cons hStart,
          List.take_succ_cons]
      · have hEnd := Nat.not_lt.mp hStart
        rw [List.filterMap_cons_none
            (List.getElem?_eq_none hEnd),
          hRest, List.drop_eq_nil_of_le hEnd,
          List.drop_eq_nil_of_le (Nat.le_succ_of_le hEnd)]
        simp

------------------------------------------------------------
-- Visible Characters
------------------------------------------------------------

/- A character is neither a space nor a line break. -/
def Blank.isInk
    (c : Char) : Bool :=
  c != ' ' && c != '\n'

/- What is trimmed is not visible. -/
theorem Blank.filter_trimSpacesRight
    (chars : List Char) :
    (trimSpacesRight chars).filter isInk =
      chars.filter isInk := by
  have hDropped :
      ∀ chars : List Char,
        (chars.dropWhile (· == ' ')).filter isInk =
          chars.filter isInk := by
    intro chars
    induction chars with
    | nil => rfl
    | cons c chars hRest =>
        rw [List.dropWhile_cons]
        split
        · rename_i hSpace
          rw [hRest, beq_iff_eq.mp hSpace]
          rfl
        · rfl
  unfold trimSpacesRight trimRight
  rw [List.filter_reverse, hDropped, List.filter_reverse,
    List.reverse_reverse]

namespace Selection

------------------------------------------------------------
-- Points
------------------------------------------------------------

section

variable (selection : Selection) (grid : Grid)

/- The cells of a row that are selected and show something. -/
def rowPoints
    (row : Int) : List Point :=
  let (start, stop) :=
    (selection.rowSpan? row grid.cols).getD (0, 0)
  ((List.range' start (stop - start)).map (⟨·, row⟩)).filter
    grid.showsAt

/- All cells that are selected and show something. -/
def points : List Point :=
  (selection.rows grid).flatMap (selection.rowPoints grid)

end

section

variable {selection : Selection} {grid : Grid}

theorem mem_rowPoints
    {row : Int}
    {point : Point} :
    point ∈ selection.rowPoints grid row ↔
      point.row = row ∧
        selection.contains point selection.screen
            grid.cols ∧
          grid.showsAt point := by
  unfold rowPoints
  rw [List.mem_filter, List.mem_map, contains_iff]
  simp only [List.mem_range'_1]
  rcases point with ⟨col, row'⟩
  constructor
  · rintro ⟨⟨col, hCol, hPoint⟩, hShows⟩
    cases hPoint
    refine ⟨rfl, ?_, hShows⟩
    cases hSpan : selection.rowSpan? row grid.cols with
    | none =>
        rw [hSpan, Option.getD_none] at hCol
        omega
    | some span =>
        rw [hSpan, Option.getD_some] at hCol
        refine ⟨span, rfl, ?_⟩
        show span.1 ≤ col ∧ col < span.2
        omega
  · rintro ⟨rfl, ⟨span, hSpan, hLeft, hRight⟩, hShows⟩
    refine ⟨⟨col, ?_, rfl⟩, hShows⟩
    rw [hSpan, Option.getD_some]
    dsimp only at hLeft hRight
    omega

/- A row that is selected and has a cell is among the rows. -/
theorem mem_points
    {point : Point} :
    point ∈ selection.points grid ↔
      selection.contains point selection.screen grid.cols ∧
        grid.showsAt point := by
  unfold points rows
  rw [List.mem_flatMap]
  simp only [mem_rowPoints, mem_rowsBetween]
  constructor
  · rintro ⟨_, _, rfl, hHere⟩
    exact hHere
  · rintro ⟨hSelected, hShows⟩
    refine ⟨point.row, ?_, rfl, hSelected, hShows⟩
    rcases contains_iff.mp hSelected with ⟨span, hSpan, _⟩
    have hWithin := (rowSpan?_eq_some_iff.mp hSpan).1
    have hRow := Grid.row_of_showsAt hShows
    omega

theorem pairwise_rowPoints
    (row : Int) :
    (selection.rowPoints grid row).Pairwise Point.Before := by
  unfold rowPoints
  apply List.Pairwise.filter
  rw [List.pairwise_map]
  apply List.Pairwise.imp _ List.pairwise_lt_range'
  intro col col' hLess
  exact Or.inr ⟨rfl, hLess⟩

theorem pairwise_rowsBetween
    (first last : Int) :
    (rowsBetween first last).Pairwise (· < ·) := by
  unfold rowsBetween
  rw [List.pairwise_map]
  apply List.Pairwise.imp _ List.pairwise_lt_range
  intro n n' hLess
  omega

/- The cells are in reading order, and each of them is once. -/
theorem pairwise_points
    (selection : Selection)
    (grid : Grid) :
    (selection.points grid).Pairwise Point.Before := by
  apply List.pairwise_flatMap.mpr
  refine ⟨fun row _ => pairwise_rowPoints row, ?_⟩
  apply List.Pairwise.imp _ (pairwise_rowsBetween _ _)
  intro row row' hAbove point hPoint point' hPoint'
  rw [← (mem_rowPoints.mp hPoint).1,
    ← (mem_rowPoints.mp hPoint').1] at hAbove
  exact Or.inl hAbove

------------------------------------------------------------
-- Characters
------------------------------------------------------------

/- The cells of a row, with what shows nothing left out. -/
theorem filterMap_rowPoints
    {row : Int}
    {line : Line}
    (hLine : grid.lineAt? row = some line) :
    (selection.rowPoints grid row).filterMap grid.cellAt? =
      let (start, stop) :=
        (selection.rowSpan? row grid.cols).getD (0, 0)
      ((line.cells.take stop).drop start).filter
        (!·.placeholder) := by
  have hCell :
      ∀ col, grid.cellAt? ⟨col, row⟩ = line.cells[col]? := by
    intro col
    unfold Grid.cellAt?
    rw [hLine]
    rfl
  have hShown :
      ∀ col,
        (if grid.showsAt ⟨col, row⟩ then
            grid.cellAt? ⟨col, row⟩
          else
            none) =
          (line.cells[col]?).filter (!·.placeholder) := by
    intro col
    unfold Grid.showsAt
    rw [hCell]
    cases line.cells[col]? with
    | none => rfl
    | some cell => rfl
  -- The points are looked up cell by cell, as in `segment`.
  unfold rowPoints
  dsimp only
  rw [List.filterMap_filter, List.filterMap_map,
    List.drop_take, ← filterMap_getElem?_range',
    List.filter_filterMap]
  apply List.filterMap_congr
  exact fun col _ => hShown col

/- The text of a row is that of its cells. -/
theorem filter_rowChars
    (row : Int) :
    (selection.rowChars grid row).filter Blank.isInk =
      (((selection.rowPoints grid row).filterMap
        grid.cellAt?).map Cell.char).filter Blank.isInk := by
  cases hLine : grid.lineAt? row with
  | none =>
      have hNone : selection.rowPoints grid row = [] := by
        apply List.eq_nil_iff_forall_not_mem.mpr
        intro point hPoint
        rcases mem_rowPoints.mp hPoint with
          ⟨rfl, _, hShows⟩
        unfold Grid.showsAt Grid.cellAt? at hShows
        rw [hLine] at hShows
        cases hShows
      unfold rowChars
      rw [hLine, hNone]
      rfl
  | some line =>
      have hBreak : ['\n'].filter Blank.isInk = [] := rfl
      rw [filterMap_rowPoints hLine]
      unfold rowChars segment Line.charsOf
      rw [hLine, Option.elim_some]
      dsimp only
      split
      · rfl
      · split
        · rw [List.filter_append,
            Blank.filter_trimSpacesRight, hBreak,
            List.append_nil]
        · rw [Blank.filter_trimSpacesRight]

/- The visible text of a selection is that of its cells. -/
theorem filter_chars
    (selection : Selection)
    (grid : Grid) :
    (selection.chars grid).filter Blank.isInk =
      (((selection.points grid).filterMap
        grid.cellAt?).map Cell.char).filter Blank.isInk := by
  unfold chars points
  induction selection.rows grid with
  | nil => rfl
  | cons row rows hRest =>
      simp only [List.flatMap_cons, List.filter_append,
        List.filterMap_append, List.map_append]
      rw [filter_rowChars, hRest]

end

end Selection

end VideoTerminal
