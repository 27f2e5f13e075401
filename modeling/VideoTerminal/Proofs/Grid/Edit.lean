import VideoTerminal.Grid.Edit
import VideoTerminal.Proofs.Line.Edit
import VideoTerminal.Proofs.Scrollback

/-
  Screens whose lines, history and records of changes fit
  together, and the operations that change cells in place.
  Each of those is described by what it does to every line,
  which is all that a proof about it needs to look at.

  Main declarations:
    * `Grid.WellFormed`
    * `Grid.Edits`
    * `Grid.Edits.wellFormed`
    * `Grid.edits_overwrite`
    * `Grid.edits_overwriteWide`
    * `Grid.edits_eraseRect`
-/

namespace VideoTerminal

namespace Grid

------------------------------------------------------------
-- Well-Formed Screens
------------------------------------------------------------

/-
  A screen of a given size whose history has a given capacity.
-/
structure WellFormed
    (cols rows capacity : Nat)
    (grid : Grid) : Prop where
  cols_eq : grid.cols = cols
  rows_eq : grid.rows = rows
  lines :
    ∀ line ∈ grid.lines, line.WellFormed cols
  history : grid.scrollback.WellFormed cols
  capacity_eq : grid.scrollback.capacity = capacity
  dirty_length : grid.dirty.length = rows
  view_le : grid.viewOffset ≤ grid.scrollback.size

theorem wellFormed_ofBlank
    (cols rows capacity : Nat)
    {blank : Cell}
    (hBlank : blank.IsPlain) :
    (ofBlank cols rows capacity blank).WellFormed cols rows
      capacity where
  cols_eq := rfl
  rows_eq := List.length_replicate
  lines := by
    intro line hLine
    rw [List.eq_of_mem_replicate hLine]
    exact Line.wellFormed_ofBlank cols hBlank
  history := Scrollback.wellFormed_empty cols capacity
  capacity_eq := rfl
  dirty_length := List.length_replicate
  view_le := Nat.le_refl _

section

variable {cols rows capacity : Nat} {grid : Grid}

theorem WellFormed.exists_line?_eq_some
    (hGrid : grid.WellFormed cols rows capacity)
    {row : Nat}
    (hRow : row < rows) :
    ∃ line, grid.line? row = some line := by
  have hLength : row < grid.lines.length := by
    rw [← hGrid.rows_eq] at hRow
    exact hRow
  exact ⟨grid.lines[row], List.getElem?_eq_getElem hLength⟩

theorem WellFormed.of_line?_eq_some
    (hGrid : grid.WellFormed cols rows capacity)
    {row : Nat}
    {line : Line}
    (hLine : grid.line? row = some line) :
    line.WellFormed cols :=
  hGrid.lines line (List.mem_of_getElem? hLine)

/- A ring without capacity retains nothing. -/
theorem WellFormed.size_eq_zero
    (hGrid : grid.WellFormed cols rows 0) :
    grid.scrollback.size = 0 := by
  have hSize := hGrid.history.size_le_capacity
  rw [hGrid.capacity_eq] at hSize
  exact Nat.le_zero.mp hSize

end

------------------------------------------------------------
-- Changes in Place
------------------------------------------------------------

/-
  One screen comes from another by changing each line in
  place.  What is recorded about changed rows is left open.
-/
structure Edits
    (grid edited : Grid)
    (change : Nat → Line → Line) : Prop where
  cols_eq : edited.cols = grid.cols
  lines_eq : edited.lines = grid.lines.mapIdx change
  scrollback_eq : edited.scrollback = grid.scrollback
  dirty_length : edited.dirty.length = grid.dirty.length
  view_eq : edited.viewOffset = grid.viewOffset

/- The change of a single row. -/
def onRow
    (row : Nat)
    (change : Line → Line)
    (y : Nat)
    (line : Line) : Line :=
  if y = row then change line else line

@[simp] theorem onRow_self
    (row : Nat)
    (change : Line → Line) :
    onRow row change row = change := by
  funext line
  exact if_pos rfl

theorem onRow_of_ne
    {row y : Nat}
    (hRow : y ≠ row)
    (change : Line → Line) :
    onRow row change y = id := by
  funext line
  exact if_neg hRow

namespace Edits

variable {grid edited last : Grid}
  {change next : Nat → Line → Line}

theorem rows_eq
    (hEdits : grid.Edits edited change) :
    edited.rows = grid.rows := by
  unfold rows
  rw [hEdits.lines_eq, List.length_mapIdx]

theorem line?_eq
    (hEdits : grid.Edits edited change)
    (row : Nat) :
    edited.line? row = (grid.line? row).map (change row) := by
  unfold line?
  rw [hEdits.lines_eq, List.getElem?_mapIdx]

theorem refl
    (grid : Grid) :
    grid.Edits grid fun _ line => line where
  cols_eq := rfl
  lines_eq := by
    apply List.ext_getElem?
    intro row
    rw [List.getElem?_mapIdx, Option.map_id']
  scrollback_eq := rfl
  dirty_length := rfl
  view_eq := rfl

theorem trans
    (hFirst : grid.Edits edited change)
    (hSecond : edited.Edits last next) :
    grid.Edits last fun y line => next y (change y line) where
  cols_eq := hSecond.cols_eq.trans hFirst.cols_eq
  lines_eq := by
    rw [hSecond.lines_eq, hFirst.lines_eq,
      List.mapIdx_mapIdx]
    rfl
  scrollback_eq :=
    hSecond.scrollback_eq.trans hFirst.scrollback_eq
  dirty_length :=
    hSecond.dirty_length.trans hFirst.dirty_length
  view_eq := hSecond.view_eq.trans hFirst.view_eq

/- Only what a change does to the lines there counts. -/
theorem congr
    (hEdits : grid.Edits edited change)
    (hSame :
      ∀ y line,
        grid.line? y = some line →
          change y line = next y line) :
    grid.Edits edited next where
  cols_eq := hEdits.cols_eq
  lines_eq := by
    rw [hEdits.lines_eq]
    apply List.ext_getElem?
    intro y
    rw [List.getElem?_mapIdx, List.getElem?_mapIdx]
    cases hLine : grid.lines[y]? with
    | none => rfl
    | some line =>
        exact congrArg some (hSame y line hLine)
  scrollback_eq := hEdits.scrollback_eq
  dirty_length := hEdits.dirty_length
  view_eq := hEdits.view_eq

theorem trans_onRow
    {row : Nat}
    {first second : Line → Line}
    (hFirst : grid.Edits edited (onRow row first))
    (hSecond : edited.Edits last (onRow row second)) :
    grid.Edits last
      (onRow row fun line => second (first line)) := by
  apply (hFirst.trans hSecond).congr
  intro y line hLine
  unfold onRow
  split <;> rfl

/- Changes that keep lines well-formed keep the screen so. -/
theorem wellFormed
    {cols rows capacity : Nat}
    (hEdits : grid.Edits edited change)
    (hGrid : grid.WellFormed cols rows capacity)
    (hChange :
      ∀ y line,
        line.WellFormed cols →
          (change y line).WellFormed cols) :
    edited.WellFormed cols rows capacity where
  cols_eq := hEdits.cols_eq.trans hGrid.cols_eq
  rows_eq := hEdits.rows_eq.trans hGrid.rows_eq
  lines := by
    intro line hLine
    rw [hEdits.lines_eq] at hLine
    rcases List.mem_mapIdx.mp hLine with ⟨y, hY, hEq⟩
    exact
      hEq ▸ hChange y _ (hGrid.lines _ (List.getElem_mem hY))
  history := hEdits.scrollback_eq.symm ▸ hGrid.history
  capacity_eq :=
    hEdits.scrollback_eq.symm ▸ hGrid.capacity_eq
  dirty_length :=
    hEdits.dirty_length.trans hGrid.dirty_length
  view_le := by
    rw [hEdits.view_eq, hEdits.scrollback_eq]
    exact hGrid.view_le

theorem wellFormed_onRow
    {cols rows capacity row : Nat}
    {change : Line → Line}
    (hEdits : grid.Edits edited (onRow row change))
    (hGrid : grid.WellFormed cols rows capacity)
    (hChange :
      ∀ line,
        line.WellFormed cols →
          (change line).WellFormed cols) :
    edited.WellFormed cols rows capacity := by
  apply hEdits.wellFormed hGrid
  intro y line hLine
  unfold onRow
  split
  · exact hChange line hLine
  · exact hLine

end Edits

------------------------------------------------------------
-- Records of Changes
------------------------------------------------------------

theorem edits_markDirty
    (grid : Grid)
    (row : Nat) :
    grid.Edits (grid.markDirty row) fun _ line => line :=
  { Edits.refl grid with
    dirty_length := List.length_set }

theorem edits_markAllDirty
    (grid : Grid) :
    grid.Edits grid.markAllDirty fun _ line => line :=
  { Edits.refl grid with
    dirty_length := List.length_replicate }

theorem edits_markClean
    (grid : Grid) :
    grid.Edits grid.markClean fun _ line => line :=
  { Edits.refl grid with
    dirty_length := List.length_replicate }

------------------------------------------------------------
-- Changes of One Row
------------------------------------------------------------

theorem edits_modifyLine
    (grid : Grid)
    (row : Nat)
    (change : Line → Line) :
    grid.Edits (grid.modifyLine row change)
      (onRow row change) where
  cols_eq := rfl
  lines_eq := by
    apply List.ext_getElem?
    intro y
    simp only [modifyLine, List.getElem?_modify,
      List.getElem?_mapIdx]
    by_cases hRow : y = row
    · simp [hRow]
    · simp [onRow_of_ne hRow, Ne.symm hRow]
  scrollback_eq := rfl
  dirty_length := List.length_set
  view_eq := rfl

section

variable {grid : Grid} {col row : Nat}

theorem edits_set
    (hCol : col < grid.cols)
    (hRow : row < grid.rows)
    (cell : Cell) :
    grid.Edits (grid.set col row cell)
      (onRow row (·.set col cell)) := by
  unfold set
  rw [if_pos ⟨hCol, hRow⟩]
  exact edits_modifyLine _ _ _

theorem edits_modifyCell
    (hCol : col < grid.cols)
    (hRow : row < grid.rows)
    (change : Cell → Cell) :
    grid.Edits (grid.modifyCell col row change)
      (onRow row (·.modify col change)) := by
  unfold modifyCell
  rw [if_pos ⟨hCol, hRow⟩]
  exact edits_modifyLine _ _ _

theorem edits_insertBlanks
    (hCol : col < grid.cols)
    (hRow : row < grid.rows)
    (n : Nat)
    (blank : Cell) :
    grid.Edits (grid.insertBlanks col row n blank)
      (onRow row (·.insertBlanks col n blank)) := by
  unfold insertBlanks
  rw [if_pos ⟨hCol, hRow⟩]
  exact edits_modifyLine _ _ _

theorem edits_deleteCells
    (hCol : col < grid.cols)
    (hRow : row < grid.rows)
    (n : Nat)
    (blank : Cell) :
    grid.Edits (grid.deleteCells col row n blank)
      (onRow row (·.deleteCells col n blank)) := by
  unfold deleteCells
  rw [if_pos ⟨hCol, hRow⟩]
  exact edits_modifyLine _ _ _

end

------------------------------------------------------------
-- Overwriting
------------------------------------------------------------

/- All lines are as wide as the screen. -/
def Rectangular
    (grid : Grid) : Prop :=
  ∀ line ∈ grid.lines, line.width = grid.cols

theorem WellFormed.rectangular
    {cols rows capacity : Nat}
    {grid : Grid}
    (hGrid : grid.WellFormed cols rows capacity) :
    grid.Rectangular := by
  intro line hLine
  rw [(hGrid.lines line hLine).width_eq, hGrid.cols_eq]

theorem Edits.rectangular
    {grid edited : Grid}
    {row : Nat}
    {change : Line → Line}
    (hEdits : grid.Edits edited (onRow row change))
    (hGrid : grid.Rectangular)
    (hWidth : ∀ line, (change line).width = line.width) :
    edited.Rectangular := by
  intro line hLine
  rw [hEdits.lines_eq] at hLine
  rcases List.mem_mapIdx.mp hLine with ⟨y, hY, hEq⟩
  rw [← hEq, hEdits.cols_eq]
  unfold onRow
  split
  · rw [hWidth]
    exact hGrid _ (List.getElem_mem hY)
  · exact hGrid _ (List.getElem_mem hY)

section

variable {grid : Grid} {col row : Nat}

theorem edits_breakWideAt
    (hGrid : grid.Rectangular)
    (hCol : col < grid.cols)
    (hRow : row < grid.rows) :
    grid.Edits (grid.breakWideAt col row)
      (onRow row (·.breakWideAt col)) := by
  have hLine : grid.line? row = some grid.lines[row] :=
    List.getElem?_eq_getElem hRow
  have hWidth : grid.lines[row].width = grid.cols :=
    hGrid _ (List.getElem_mem hRow)
  have hInside : col < grid.lines[row].width :=
    hWidth.symm ▸ hCol
  rcases Line.exists_get?_eq_some hInside with
    ⟨cell, hCell⟩
  have hWide : grid.lines[row].isWideAt col = cell.wide :=
    Line.markAt_of_get?_eq_some hCell Cell.wide
  have hPlaceholder :
      grid.lines[row].isPlaceholderAt col =
        cell.placeholder :=
    Line.markAt_of_get?_eq_some hCell Cell.placeholder
  have hGet : grid.get? col row = some cell := by
    unfold get?
    rw [hLine]
    exact hCell
  -- Only what happens to the line of that row counts.
  have hRest :
      ∀ (first second : Line → Line),
        first grid.lines[row] = second grid.lines[row] →
          ∀ y line,
            grid.line? y = some line →
              onRow row first y line =
                onRow row second y line := by
    intro first second hHere y line hSome
    by_cases hY : y = row
    · subst hY
      rw [hLine] at hSome
      cases hSome
      simpa using hHere
    · rw [onRow_of_ne hY, onRow_of_ne hY]
  unfold breakWideAt
  rw [hGet]
  simp only
  split
  · rename_i hHere
    apply (edits_modifyCell hHere.2 hRow _).congr
    apply hRest
    unfold Line.breakWideAt
    rw [hWide, hWidth, if_pos hHere]
  · rename_i hHere
    split
    · rename_i hBefore
      apply
        (edits_modifyCell (Nat.lt_of_le_of_lt
          (Nat.sub_le _ _) hCol) hRow _).congr
      apply hRest
      unfold Line.breakWideAt
      rw [hWide, hWidth, hPlaceholder, if_neg hHere,
        if_pos hBefore]
    · rename_i hBefore
      have hSame :
          grid.lines[row] =
            grid.lines[row].breakWideAt col := by
        unfold Line.breakWideAt
        rw [hWide, hWidth, hPlaceholder, if_neg hHere,
          if_neg hBefore]
      apply (Edits.refl grid).congr
      intro y line hSome
      refine Eq.trans ?_
        (hRest id (·.breakWideAt col) hSame y line hSome)
      unfold onRow
      split <;> rfl

theorem edits_overwrite
    (hGrid : grid.Rectangular)
    (hCol : col < grid.cols)
    (hRow : row < grid.rows)
    (cell : Cell) :
    grid.Edits ((grid.breakWideAt col row).set col row cell)
      (onRow row (·.overwrite col cell)) := by
  have hBroken := edits_breakWideAt hGrid hCol hRow
  exact
    hBroken.trans_onRow
      (edits_set (hBroken.cols_eq.symm ▸ hCol)
        (hBroken.rows_eq.symm ▸ hRow) cell)

theorem edits_overwriteWide
    (hGrid : grid.Rectangular)
    (hCol : col + 1 < grid.cols)
    (hRow : row < grid.rows)
    (lead second : Cell) :
    grid.Edits
      ((((grid.breakWideAt col row).breakWideAt
        (col + 1) row).set col row lead).set (col + 1) row
          second)
      (onRow row (·.overwriteWide col lead second)) := by
  have hHere : col < grid.cols := Nat.lt_of_succ_lt hCol
  have hFirst := edits_breakWideAt hGrid hHere hRow
  have hBroken :=
    hFirst.trans_onRow
      (edits_breakWideAt
        (hFirst.rectangular hGrid
          fun line => line.width_breakWideAt col)
        (hFirst.cols_eq.symm ▸ hCol)
        (hFirst.rows_eq.symm ▸ hRow))
  have hLead :=
    hBroken.trans_onRow
      (edits_set (hBroken.cols_eq.symm ▸ hHere)
        (hBroken.rows_eq.symm ▸ hRow) lead)
  exact
    hLead.trans_onRow
      (edits_set (hLead.cols_eq.symm ▸ hCol)
        (hLead.rows_eq.symm ▸ hRow) second)

end

------------------------------------------------------------
-- Filling and Erasing
------------------------------------------------------------

theorem edits_clear
    (grid : Grid)
    (blank : Cell) :
    grid.Edits (grid.clear blank)
      fun _ line => line.fill blank where
  cols_eq := rfl
  lines_eq := by
    apply List.ext_getElem?
    intro y
    simp [clear, markAllDirty]
  scrollback_eq := rfl
  dirty_length := List.length_replicate
  view_eq := rfl

/- The change of a rectangle, row by row. -/
def inRows
    (top bottom : Nat)
    (change : Line → Line)
    (y : Nat)
    (line : Line) : Line :=
  if top ≤ y ∧ y ≤ bottom then change line else line

/- A single row is a rectangle of its own. -/
theorem Edits.inRows_self
    {grid edited : Grid}
    {row : Nat}
    {change : Line → Line}
    (hEdits : grid.Edits edited (onRow row change)) :
    grid.Edits edited (inRows row row change) := by
  apply hEdits.congr
  intro y line _
  have hRow : y = row ↔ row ≤ y ∧ y ≤ row := by omega
  simp only [onRow, inRows, hRow]

/- Erase the columns between two, as far as there are any. -/
def eraseColumns
    (cols x₁ x₂ : Nat)
    (blank : Cell)
    (line : Line) : Line :=
  if min x₁ x₂ < cols then
    line.eraseSpan (min x₁ x₂) (min (max x₁ x₂) (cols - 1))
      blank
  else
    line

/-
  Erasing between two corners erases the columns between them
  in the rows between them.
-/
theorem edits_eraseRect
    (grid : Grid)
    (x₁ y₁ x₂ y₂ : Nat)
    (blank : Cell) :
    grid.Edits (grid.eraseRect x₁ y₁ x₂ y₂ blank)
      (inRows (min y₁ y₂) (max y₁ y₂)
        (eraseColumns grid.cols x₁ x₂ blank)) := by
  unfold eraseRect
  dsimp only
  split
  · rename_i hNone
    apply (Edits.refl grid).congr
    intro y line hLine
    have hY : y < grid.rows :=
      (List.getElem?_eq_some_iff.mp hLine).1
    unfold inRows
    split
    · unfold eraseColumns
      rw [if_neg]
      omega
    · rfl
  · rename_i hSome
    refine
      { cols_eq := rfl
        lines_eq := ?_
        scrollback_eq := rfl
        dirty_length := List.length_mapIdx
        view_eq := rfl }
    apply List.ext_getElem?
    intro y
    rw [List.getElem?_mapIdx, List.getElem?_mapIdx]
    cases hLine : grid.lines[y]? with
    | none => rfl
    | some line =>
        have hY : y < grid.rows :=
          (List.getElem?_eq_some_iff.mp hLine).1
        have hRow :
            (min y₁ y₂ ≤ y ∧
                y ≤ min (max y₁ y₂) (grid.rows - 1)) ↔
              (min y₁ y₂ ≤ y ∧ y ≤ max y₁ y₂) := by
          omega
        have hLeft : min x₁ x₂ < grid.cols := by omega
        simp only [Option.map_some, inRows, eraseColumns,
          hRow, if_pos hLeft]

/- Rows that keep well-formed lines so keep the screen so. -/
theorem Edits.wellFormed_inRows
    {cols rows capacity top bottom : Nat}
    {grid edited : Grid}
    {change : Line → Line}
    (hEdits : grid.Edits edited (inRows top bottom change))
    (hGrid : grid.WellFormed cols rows capacity)
    (hChange :
      ∀ line,
        line.WellFormed cols →
          (change line).WellFormed cols) :
    edited.WellFormed cols rows capacity := by
  apply hEdits.wellFormed hGrid
  intro y line hLine
  unfold inRows
  split
  · exact hChange line hLine
  · exact hLine

theorem WellFormed.eraseRect
    {cols rows capacity : Nat}
    {grid : Grid}
    (hGrid : grid.WellFormed cols rows capacity)
    (x₁ y₁ x₂ y₂ : Nat)
    {blank : Cell}
    (hBlank : blank.IsPlain) :
    (grid.eraseRect x₁ y₁ x₂ y₂ blank).WellFormed cols rows
      capacity := by
  apply
    (edits_eraseRect grid x₁ y₁ x₂ y₂
      blank).wellFormed_inRows hGrid
  intro line hLine
  unfold eraseColumns
  split
  · exact hLine.eraseSpan (by omega) hBlank
  · exact hLine

end Grid

end VideoTerminal
