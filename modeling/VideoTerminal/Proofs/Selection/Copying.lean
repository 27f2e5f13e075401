import VideoTerminal.Proofs.Grid.Displays
import VideoTerminal.Proofs.Line.Layout
import VideoTerminal.Proofs.Selection.Overlap
import VideoTerminal.Proofs.Selection.Scroll

/-
  Text that is copied from soft-wrapped lines.  The lines of a
  layout are found again as one line of text, in which a row
  that a wide character did not fit on keeps the blank at its
  end.

  Main declarations:
    * `Layout.copyOf`
    * `Layout.copyOf_eq_flatten_iff`
    * `Grid.firstRow_of_wrapped`
    * `Grid.Holds`
    * `Selection.chars_of_holds`
-/

namespace VideoTerminal

------------------------------------------------------------
-- Copies of a Layout
------------------------------------------------------------

namespace Layout

/-
  What copying the rows of a layout yields: a space stands for
  each column that is left free at the end of a row, except
  for the last one.
-/
def copyOf
    [TextLibrary]
    (cols : Nat) :
    List (List Char) → List Char
  | [] => []
  | [row] => row
  | row :: next :: rows =>
    row ++ List.replicate (cols - span row) ' ' ++
      copyOf cols (next :: rows)

theorem copyOf_concat
    [TextLibrary]
    (cols : Nat)
    (others : List (List Char))
    (last : List Char) :
    copyOf cols (others ++ [last]) =
      (others.flatMap fun row =>
          row ++ List.replicate (cols - span row) ' ') ++
        last := by
  induction others with
  | nil => rfl
  | cons first others hRest =>
      have hStep :
          copyOf cols (first :: (others ++ [last])) =
            first ++ List.replicate (cols - span first) ' ' ++
              copyOf cols (others ++ [last]) := by
        cases others with
        | nil => rfl
        | cons next rows => rfl
      rw [List.cons_append, hStep, hRest, List.flatMap_cons]
      simp only [List.append_assoc]

/- Spaces at the end of rows make a text no shorter. -/
theorem length_flatten_le
    (fill : List Char → List Char)
    (rows : List (List Char)) :
    rows.flatten.length ≤
      (rows.flatMap fun row => row ++ fill row).length := by
  induction rows with
  | nil => exact Nat.le_refl _
  | cons row rows hRest =>
      rw [List.flatten_cons, List.flatMap_cons]
      simp only [List.length_append]
      omega

/- The copy is the text itself if all its rows are full. -/
theorem copyOf_eq_flatten_iff
    [TextLibrary]
    {cols : Nat}
    {others : List (List Char)}
    (hSpan : ∀ row ∈ others, span row ≤ cols)
    (last : List Char) :
    copyOf cols (others ++ [last]) =
        (others ++ [last]).flatten ↔
      ∀ row ∈ others, span row = cols := by
  rw [copyOf_concat, List.flatten_append,
    List.flatten_singleton, List.append_cancel_right_eq]
  induction others with
  | nil => simp
  | cons first others hRest =>
      rcases List.forall_mem_cons.mp hSpan with
        ⟨hFirst, hSpan⟩
      have hLonger :=
        length_flatten_le
          (fun row => List.replicate (cols - span row) ' ')
          others
      rw [List.flatMap_cons, List.flatten_cons,
        List.append_assoc, List.append_cancel_left_eq,
        List.forall_mem_cons, ← hRest hSpan]
      constructor
      · intro hSame
        have hLength := congrArg List.length hSame
        rw [List.length_append, List.length_replicate]
          at hLength
        have hNone : cols - span first = 0 := by omega
        rw [hNone] at hSame
        exact ⟨by omega, hSame⟩
      · rintro ⟨hFull, hSame⟩
        rw [hFull, Nat.sub_self]
        exact hSame

end Layout

open Layout

------------------------------------------------------------
-- Lines That Continue One Another
------------------------------------------------------------

namespace Grid

/- The oldest row is the first of the rows that it begins. -/
theorem firstRow_of_wrapped
    {grid : Grid}
    {n : Nat}
    (hWrapped :
      ∀ m < n,
        grid.isWrappedAt (m - grid.scrollback.size) = true) :
    grid.firstRow (n - grid.scrollback.size) =
      -grid.scrollback.size := by
  induction n with
  | zero =>
      have hOldest :
          ¬grid.isWrappedAt
            (((0 : Nat) : Int) - grid.scrollback.size - 1) := by
        intro hAbove
        have hRow :=
          neg_size_le_of_lineAt?_isSome
            (lineAt?_isSome_of_isWrappedAt hAbove)
        omega
      rw [firstRow, dif_neg hOldest]
      omega
  | succ n hRest =>
      have hAbove :
          ((n + 1 : Nat) : Int) - grid.scrollback.size - 1 =
            n - grid.scrollback.size := by
        omega
      have hHere := hWrapped n (Nat.lt_succ_self n)
      rw [← hAbove] at hHere
      rw [firstRow, dif_pos hHere, hAbove]
      exact hRest fun m hLess => hWrapped m (by omega)

theorem lastRow_of_not_wrapped
    {grid : Grid}
    {row : Int}
    (hEnd : grid.isWrappedAt row = false) :
    grid.lastRow row = row := by
  rw [lastRow, dif_neg]
  rw [hEnd]
  exact fun hBoth => Bool.false_ne_true hBoth.1

section

variable [TextLibrary]

/-
  A screen and its history that hold all rows of a layout, the
  last row of which is on the screen.
-/
structure Holds
    (cols rows capacity : Nat)
    (pen : Pen)
    (others : List (List Char))
    (last : List Char)
    (grid : Grid) : Prop where
  wellFormed : grid.WellFormed cols rows capacity
  cols_pos : 0 < cols
  displays :
    grid.Displays rows capacity (.ofBlank cols pen.blank)
      (linesOf cols pen (others ++ [last]))
  fits : others.length + 1 ≤ capacity + rows
  printable :
    ∀ row ∈ others ++ [last], ∀ c ∈ row, Printable cols c
  span_le : ∀ row ∈ others ++ [last], span row ≤ cols

section

variable {cols rows capacity : Nat} {pen : Pen}
  {others : List (List Char)} {last : List Char}
  {grid : Grid}
  (hGrid :
    grid.Holds cols rows capacity pen others last)

include hGrid

theorem Holds.lineAt?_eq
    {n : Nat}
    (hRow : n ≤ others.length) :
    grid.lineAt? (n - grid.scrollback.size) =
      (linesOf cols pen (others ++ [last]))[n]? :=
  hGrid.displays.lineAt?_eq hGrid.wellFormed
    (length_linesOf_concat.symm ▸ hGrid.fits)
    (length_linesOf_concat.symm ▸ Nat.lt_succ_of_le hRow)

theorem Holds.size_eq :
    grid.scrollback.size = others.length + 1 - rows := by
  rw [← length_linesOf_concat]
  exact
    hGrid.displays.size_eq hGrid.wellFormed
      (length_linesOf_concat.symm ▸ hGrid.fits)

theorem Holds.lineAt?_other
    {n : Nat}
    (hRow : n < others.length) :
    grid.lineAt? (n - grid.scrollback.size) =
      some
        ((rowLine cols pen others[n]).setWrapped true) := by
  rw [hGrid.lineAt?_eq (Nat.le_of_lt hRow), linesOf_concat,
    List.getElem?_append_left (by simpa using hRow),
    List.getElem?_map, List.getElem?_eq_getElem hRow]
  rfl

theorem Holds.lineAt?_last :
    grid.lineAt? (others.length - grid.scrollback.size) =
      some (rowLine cols pen last) := by
  rw [hGrid.lineAt?_eq (Nat.le_refl _), linesOf_concat,
    List.getElem?_append_right (by simp)]
  simp

theorem Holds.width_eq
    {row : List Char}
    (hRow : row ∈ others ++ [last]) :
    (rowLine cols pen row).width = cols :=
  width_rowLine (hGrid.printable row hRow)
    (hGrid.span_le row hRow) pen

/- All rows of the layout are one line of text. -/
theorem Holds.firstRow_eq :
    grid.firstRow (others.length - grid.scrollback.size) =
      -grid.scrollback.size := by
  apply firstRow_of_wrapped
  intro m hRow
  have hWidth := hGrid.width_eq
    (List.mem_append_left _ (List.getElem_mem hRow))
  unfold Grid.isWrappedAt
  rw [hGrid.lineAt?_other hRow, Option.any_some]
  exact
    Line.isWrapped_setWrapped
      (hWidth.symm ▸ hGrid.cols_pos) true

theorem Holds.lastRow_eq :
    grid.lastRow (others.length - grid.scrollback.size) =
      others.length - grid.scrollback.size := by
  apply lastRow_of_not_wrapped
  unfold Grid.isWrappedAt
  rw [hGrid.lineAt?_last, Option.any_some]
  exact isWrapped_rowLine cols pen last

end

end

end Grid

------------------------------------------------------------
-- Whole Lines
------------------------------------------------------------

/- Only the spaces at the end are dropped. -/
theorem Blank.trimSpacesRight_append
    {chars : List Char}
    (hEnd : chars.getLast? ≠ some ' ')
    (n : Nat) :
    trimSpacesRight (chars ++ List.replicate n ' ') =
      chars := by
  have hSpaces :
      ∀ c ∈ List.replicate n ' ', (c == ' ') = true :=
    fun c hMem => beq_iff_eq.mpr (List.eq_of_mem_replicate hMem)
  unfold trimSpacesRight trimRight
  rw [List.reverse_append, List.reverse_replicate,
    List.dropWhile_append_of_pos hSpaces]
  apply List.reverse_eq_iff.mpr
  rw [← List.head?_reverse] at hEnd
  cases hReversed : chars.reverse with
  | nil => rfl
  | cons c rest =>
      rw [hReversed] at hEnd
      apply List.dropWhile_cons_of_neg
      intro hSpace
      exact hEnd (congrArg some (beq_iff_eq.mp hSpace))

namespace Selection

/- A selection of all columns of some rows. -/
structure IsWhole
    (cols : Nat)
    (first past : Int)
    (selection : Selection) : Prop where
  mode_eq : selection.mode = .character
  first_eq : selection.first = ⟨0, first⟩
  past_eq : selection.past = ⟨cols, past⟩

section

variable {selection : Selection} {cols : Nat}
  {first past : Int}
  (hWhole : selection.IsWhole cols first past)
  (hCols : 0 < cols)

include hWhole hCols

theorem IsWhole.rowSpan?_eq
    {row : Int}
    (hLow : first ≤ row)
    (hHigh : row ≤ past) :
    selection.rowSpan? row cols = some (0, cols) := by
  apply rowSpan?_eq_some_iff.mpr
  unfold Selection.columns
  rw [hWhole.mode_eq, hWhole.first_eq, hWhole.past_eq]
  exact ⟨⟨hLow, hHigh⟩, hCols, by simp⟩

/- All of a row is taken that continues on the next one. -/
theorem IsWhole.segment_of_wrapped
    {row : Int}
    (hLow : first ≤ row)
    (hHigh : row < past)
    {line : Line}
    (hWidth : line.width = cols)
    (hWrapped : line.isWrapped = true) :
    selection.segment cols row line =
      Line.charsOf line.cells := by
  have hSpan :=
    hWhole.rowSpan?_eq hCols hLow (Int.le_of_lt hHigh)
  unfold Selection.segment
  rw [hSpan, hWhole.mode_eq, hWhole.past_eq, hWrapped,
    decide_eq_true hHigh, Option.getD_some]
  simp only [beq_self_eq_true, Bool.and_self, if_true]
  rw [List.drop_zero, List.take_of_length_le]
  exact Nat.le_of_eq hWidth

/- The last row loses the spaces at its end. -/
theorem IsWhole.segment_of_last
    (hRows : first ≤ past)
    {line : Line}
    (hWidth : line.width = cols) :
    selection.segment cols past line =
      Blank.trimSpacesRight (Line.charsOf line.cells) := by
  have hSpan :=
    hWhole.rowSpan?_eq hCols hRows (Int.le_refl _)
  unfold Selection.segment
  rw [hSpan, hWhole.past_eq, Option.getD_some]
  simp only [Int.lt_irrefl, decide_false, Bool.and_false,
    Bool.false_eq_true, if_false]
  rw [List.drop_zero, List.take_of_length_le]
  exact Nat.le_of_eq hWidth

end

section

variable [TextLibrary]
variable {cols rows capacity : Nat} {pen : Pen}
  {others : List (List Char)} {last : List Char}
  {grid : Grid} {selection : Selection}
  (hGrid :
    grid.Holds cols rows capacity pen others last)
  (hWhole :
    selection.IsWhole cols (-grid.scrollback.size)
      (others.length - grid.scrollback.size))

include hGrid hWhole

theorem rowChars_other
    {n : Nat}
    (hRow : n < others.length) :
    selection.rowChars grid (n - grid.scrollback.size) =
      others[n] ++
        List.replicate (cols - span others[n]) ' ' := by
  have hMem : others[n] ∈ others ++ [last] :=
    List.mem_append_left _ (List.getElem_mem hRow)
  have hWidth := hGrid.width_eq hMem
  have hWrapped :=
    Line.isWrapped_setWrapped
      (hWidth.symm ▸ hGrid.cols_pos) true
  unfold Selection.rowChars
  rw [hGrid.lineAt?_other hRow, hGrid.wellFormed.cols_eq,
    Option.elim_some,
    hWhole.segment_of_wrapped hGrid.cols_pos (by omega)
      (by omega) ((Line.width_setWrapped _ _).trans hWidth)
      hWrapped,
    Line.charsOf_setWrapped,
    charsOf_rowLine (hGrid.printable _ hMem)]

theorem rowChars_last
    (hEnd : last.getLast? ≠ some ' ') :
    selection.rowChars grid
        (others.length - grid.scrollback.size) =
      last := by
  have hMem : last ∈ others ++ [last] :=
    List.mem_append_right _ (List.mem_singleton_self last)
  unfold Selection.rowChars
  rw [hGrid.lineAt?_last, hGrid.wellFormed.cols_eq,
    Option.elim_some,
    hWhole.segment_of_last hGrid.cols_pos (by omega)
      (hGrid.width_eq hMem),
    charsOf_rowLine (hGrid.printable _ hMem),
    Blank.trimSpacesRight_append hEnd]

/- The selection of all rows of a layout copies them. -/
theorem chars_of_holds
    (hEnd : last.getLast? ≠ some ' ') :
    selection.chars grid = copyOf cols (others ++ [last]) := by
  have hFirstRow :
      selection.first.row = -grid.scrollback.size := by
    rw [hWhole.first_eq]
  have hPastRow :
      selection.past.row =
        others.length - grid.scrollback.size := by
    rw [hWhole.past_eq]
  have hWithin : selection.Within grid := by
    have hSize := hGrid.size_eq
    have hRows := hGrid.wellFormed.rows_eq
    exact ⟨by omega, by omega⟩
  have hRows :
      Selection.rowsBetween selection.first.row
          selection.past.row =
        (List.range (others.length + 1)).map
          fun n : Nat => (n : Int) - grid.scrollback.size := by
    have hCount :
        (selection.past.row + 1 -
            selection.first.row).toNat =
          others.length + 1 := by
      omega
    unfold Selection.rowsBetween
    rw [hCount]
    apply List.map_congr_left
    intro n _
    omega
  have hOthers :
      ((List.range others.length).map fun n : Nat =>
          selection.rowChars grid
            (n - grid.scrollback.size)) =
        others.map fun row =>
          row ++ List.replicate (cols - span row) ' ' := by
    apply List.ext_getElem
    · simp
    · intro n hRow hRow'
      rw [List.length_map] at hRow'
      rw [List.getElem_map, List.getElem_map,
        List.getElem_range]
      exact rowChars_other hGrid hWhole hRow'
  rw [hWithin.chars_eq, copyOf_concat, hRows,
    List.flatMap_map, List.range_succ, List.flatMap_append,
    List.flatMap_singleton,
    rowChars_last hGrid hWhole hEnd, List.flatMap_def,
    hOthers, List.flatMap_def]

end

end Selection

end VideoTerminal
