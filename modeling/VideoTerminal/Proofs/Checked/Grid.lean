import VideoTerminal.Proofs.Checked.Line
import VideoTerminal.Proofs.Checked.Scrollback
import VideoTerminal.Proofs.Grid.Resize
import VideoTerminal.Proofs.Grid.Scroll

/-
  The reading, editing, scrolling and resizing of one screen
  by operations that can fault.  They go by a number of rows
  that is kept apart from the lines.  None of them faults on a
  screen that has that many lines, all of its width, and whose
  history is a sound ring.

  Main declarations:
    * `Grid.lineAtChecked_eq`
    * `Grid.visibleLineChecked_eq`
    * `Grid.modifyCellChecked_eq`
    * `Grid.breakWideAtChecked_eq`
    * `Grid.eraseRectChecked_eq`
    * `Grid.scrollRegionChecked_eq`
    * `Grid.resizeChecked_eq`
-/

namespace VideoTerminal

namespace Grid

------------------------------------------------------------
-- Reading
------------------------------------------------------------

/- The line of a screen row or of a history row. -/
def lineAtChecked
    (grid : Grid)
    (row : Int) : Option (Option Line) := do
  if 0 ≤ row then
    return grid.line? row.toNat
  else
    let age ← Checked.sub row.natAbs 1
    grid.scrollback.getChecked age

/- The line of a row exists and continues on the next row. -/
def isWrappedAtChecked
    (grid : Grid)
    (row : Int) : Option Bool := do
  let line? ← grid.lineAtChecked row
  return line?.any Line.isWrapped

/- The line shown in a viewport row. -/
def visibleLineChecked
    (grid : Grid)
    (rows y : Nat) : Option (Option Line) := do
  if rows ≤ y then
    return none
  else if y < grid.viewOffset then
    let newest ← Checked.sub grid.viewOffset 1
    let age ← Checked.sub newest y
    grid.scrollback.getChecked age
  else
    let row ← Checked.sub y grid.viewOffset
    return grid.line? row

section

variable {grid : Grid}
  (hRing : grid.scrollback.Aligned)

include hRing

theorem lineAtChecked_eq
    (row : Int) :
    grid.lineAtChecked row = some (grid.lineAt? row) := by
  unfold lineAtChecked lineAt?
  cases row with
  | ofNat row => rfl
  | negSucc age =>
      rw [if_neg (by omega)]
      exact hRing.getChecked_eq age

theorem isWrappedAtChecked_eq
    (row : Int) :
    grid.isWrappedAtChecked row =
      some (grid.isWrappedAt row) := by
  unfold isWrappedAtChecked isWrappedAt
  rw [lineAtChecked_eq hRing]
  rfl

theorem visibleLineChecked_eq
    {rows : Nat}
    (hRows : grid.rows = rows)
    (y : Nat) :
    grid.visibleLineChecked rows y =
      some (grid.visibleLine? y) := by
  subst hRows
  unfold visibleLineChecked visibleLine?
  split
  · rfl
  · split
    · rename_i hView
      rw [Checked.sub_eq (show 1 ≤ grid.viewOffset by omega)]
      simp only [Option.bind_eq_bind, Option.bind_some]
      rw [Checked.sub_eq (by omega)]
      exact hRing.getChecked_eq _
    · rw [Checked.sub_eq (by omega)]
      rfl

end

------------------------------------------------------------
-- Single Cells
------------------------------------------------------------

/- Change the cell in a column of a screen row, if any. -/
def modifyCellChecked
    (grid : Grid)
    (rows col row : Nat)
    (change : Cell → Cell) : Option Grid := do
  if col < grid.cols ∧ row < rows then
    let line ← Checked.get grid.lines row
    let cell ← Checked.get line.cells col
    let line ← line.setChecked col (change cell)
    let lines ← Checked.set grid.lines row line
    return { grid.markDirty row with lines := lines }
  else
    return grid

/- Replace the cell in a column of a screen row, if any. -/
def setChecked
    (grid : Grid)
    (rows col row : Nat)
    (cell : Cell) : Option Grid :=
  grid.modifyCellChecked rows col row fun _ => cell

/- Take a wide character apart. -/
def breakWideAtChecked
    (grid : Grid)
    (rows col row : Nat) : Option Grid := do
  match grid.get? col row with
  | none => return grid
  | some cell =>
    if cell.wide ∧ col + 1 < grid.cols then
      grid.modifyCellChecked rows (col + 1) row fun next =>
        { next with char := ' ', placeholder := false }
    else if cell.placeholder ∧ 0 < col then
      let before ← Checked.sub col 1
      grid.modifyCellChecked rows before row fun previous =>
        { previous with char := ' ', wide := false }
    else
      return grid

section

variable (grid : Grid) (col row : Nat)

theorem rows_modifyCell
    (change : Cell → Cell) :
    (grid.modifyCell col row change).rows = grid.rows := by
  unfold modifyCell
  split
  · exact List.length_modify _ _ _
  · rfl

theorem rows_set
    (cell : Cell) :
    (grid.set col row cell).rows = grid.rows := by
  unfold set
  split
  · exact List.length_modify _ _ _
  · rfl

theorem rows_breakWideAt :
    (grid.breakWideAt col row).rows = grid.rows := by
  unfold breakWideAt
  split
  · rfl
  · split
    · exact grid.rows_modifyCell _ _ _
    · split
      · exact grid.rows_modifyCell _ _ _
      · rfl

end

section

variable {grid : Grid} {rows : Nat}
  (hGrid : grid.Rectangular)
  (hRows : grid.rows = rows)

include hGrid hRows

theorem Rectangular.modifyCellChecked_eq
    (col row : Nat)
    (change : Cell → Cell) :
    grid.modifyCellChecked rows col row change =
      some (grid.modifyCell col row change) := by
  subst hRows
  unfold modifyCellChecked modifyCell
  split
  · rename_i hInside
    have hRow : row < grid.lines.length := hInside.2
    have hCell : col < grid.lines[row].cells.length :=
      Nat.lt_of_lt_of_eq hInside.1
        (hGrid _ (List.getElem_mem hRow)).symm
    rw [Checked.get_eq hRow]
    simp only [Option.bind_eq_bind, Option.bind_some]
    rw [Checked.get_eq hCell]
    simp only [Option.bind_some]
    rw [Line.setChecked_eq hCell]
    simp only [Option.bind_some]
    rw [Checked.set_eq _ hRow]
    unfold modifyLine Line.modify Line.set
    rw [List.modify_eq_set_get _ hRow]
    simp only [List.get_eq_getElem]
    rw [List.modify_eq_set_get _ hCell]
    rfl
  · rfl

theorem Rectangular.setChecked_eq
    (col row : Nat)
    (cell : Cell) :
    grid.setChecked rows col row cell =
      some (grid.set col row cell) := by
  unfold setChecked set Line.set
  rw [hGrid.modifyCellChecked_eq hRows]
  unfold modifyCell Line.modify
  simp only [List.set_eq_modify]

theorem Rectangular.breakWideAtChecked_eq
    (col row : Nat) :
    grid.breakWideAtChecked rows col row =
      some (grid.breakWideAt col row) := by
  unfold breakWideAtChecked breakWideAt
  cases grid.get? col row with
  | none => rfl
  | some cell =>
      dsimp only
      split
      · exact hGrid.modifyCellChecked_eq hRows _ _ _
      · split
        · rename_i hBoth
          rw [Checked.sub_eq (show 1 ≤ col from hBoth.2)]
          exact hGrid.modifyCellChecked_eq hRows _ _ _
        · rfl

end

section

variable {grid : Grid}
  (hGrid : grid.Rectangular)

include hGrid

theorem Rectangular.modifyCell
    (col row : Nat)
    (change : Cell → Cell) :
    (grid.modifyCell col row change).Rectangular := by
  by_cases hInside : col < grid.cols ∧ row < grid.rows
  · exact
      (edits_modifyCell hInside.1 hInside.2
        change).rectangular hGrid
          fun _ => Line.width_modify _ _ _
  · unfold Grid.modifyCell
    rw [if_neg hInside]
    exact hGrid

theorem Rectangular.set
    (col row : Nat)
    (cell : Cell) :
    (grid.set col row cell).Rectangular := by
  by_cases hInside : col < grid.cols ∧ row < grid.rows
  · exact
      (edits_set hInside.1 hInside.2 cell).rectangular hGrid
        fun _ => Line.width_set _ _ _
  · unfold Grid.set
    rw [if_neg hInside]
    exact hGrid

theorem Rectangular.breakWideAt
    (col row : Nat) :
    (grid.breakWideAt col row).Rectangular := by
  unfold Grid.breakWideAt
  split
  · exact hGrid
  · split
    · exact hGrid.modifyCell _ _ _
    · split
      · exact hGrid.modifyCell _ _ _
      · exact hGrid

end

------------------------------------------------------------
-- Lines
------------------------------------------------------------

/- Change the line of a screen row, if there is one. -/
def changeLineChecked
    (grid : Grid)
    (row : Nat)
    (change : Line → Option Line) : Option Grid := do
  match grid.line? row with
  | none => return grid
  | some line =>
    let changed ← change line
    return grid.modifyLine row fun _ => changed

/- Insert `n` blanks in a screen row. -/
def insertBlanksChecked
    (grid : Grid)
    (rows col row n : Nat)
    (blank : Cell) : Option Grid :=
  if col < grid.cols ∧ row < rows then
    grid.changeLineChecked row
      (·.insertBlanksChecked grid.cols col n blank)
  else
    return grid

/- Delete `n` cells of a screen row. -/
def deleteCellsChecked
    (grid : Grid)
    (rows col row n : Nat)
    (blank : Cell) : Option Grid :=
  if col < grid.cols ∧ row < rows then
    grid.changeLineChecked row
      (·.deleteCellsChecked grid.cols col n blank)
  else
    return grid

/- Erase columns of a line.  There is no state to change. -/
def eraseColumnsChecked
    (cols left right : Nat)
    (blank : Cell)
    (state : Unit)
    (line : Line) : Option (Unit × Line) := do
  let erased ← line.eraseSpanChecked cols left right blank
  return (state, erased)

/- Erase columns of the lines of the rows `top` to `bottom`. -/
def eraseLinesChecked
    (grid : Grid)
    (left right top bottom : Nat)
    (blank : Cell) : Option (List Line) := do
  let (_, lines) ←
    Checked.updateEach
      (eraseColumnsChecked grid.cols left right blank) ()
      grid.lines (List.range' top (bottom + 1 - top))
  return lines

/- Erase the rectangle between two opposite corners. -/
def eraseRectChecked
    (grid : Grid)
    (rows x₁ y₁ x₂ y₂ : Nat)
    (blank : Cell) : Option Grid := do
  if grid.cols = 0 ∨ rows = 0 then
    return grid
  else
    let lastCol ← Checked.sub grid.cols 1
    let lastRow ← Checked.sub rows 1
    let left := min x₁ x₂
    let right := min (max x₁ x₂) lastCol
    let top := min y₁ y₂
    let bottom := min (max y₁ y₂) lastRow
    if right < left ∨ bottom < top then
      return grid
    else
      let lines ←
        grid.eraseLinesChecked left right top bottom blank
      some
        { grid.markDirtyRange top bottom with lines := lines }

section

variable {grid : Grid}

theorem changeLineChecked_eq
    {row : Nat}
    {change : Line → Option Line}
    {changed : Line → Line}
    (hChange :
      ∀ line ∈ grid.lines, change line = some (changed line))
    (hRow : row < grid.rows) :
    grid.changeLineChecked row change =
      some (grid.modifyLine row changed) := by
  have hLength : row < grid.lines.length := hRow
  have hLine : grid.line? row = some grid.lines[row] :=
    List.getElem?_eq_getElem hLength
  unfold changeLineChecked
  rw [hLine]
  dsimp only
  rw [hChange _ (List.getElem_mem hLength)]
  simp only [Option.bind_eq_bind, Option.bind_some]
  unfold modifyLine
  rw [List.modify_eq_set_get _ hLength,
    List.modify_eq_set_get _ hLength]
  rfl

variable {rows : Nat}
  (hGrid : grid.Rectangular)
  (hRows : grid.rows = rows)

include hGrid hRows

theorem Rectangular.insertBlanksChecked_eq
    (col row n : Nat)
    (blank : Cell) :
    grid.insertBlanksChecked rows col row n blank =
      some (grid.insertBlanks col row n blank) := by
  subst hRows
  unfold insertBlanksChecked insertBlanks
  split
  · rename_i hInside
    exact
      changeLineChecked_eq
        (fun line hLine =>
          line.insertBlanksChecked_eq (hGrid line hLine)
            hInside.1 n blank)
        hInside.2
  · rfl

theorem Rectangular.deleteCellsChecked_eq
    (col row n : Nat)
    (blank : Cell) :
    grid.deleteCellsChecked rows col row n blank =
      some (grid.deleteCells col row n blank) := by
  subst hRows
  unfold deleteCellsChecked deleteCells
  split
  · rename_i hInside
    exact
      changeLineChecked_eq
        (fun line hLine =>
          line.deleteCellsChecked_eq (hGrid line hLine)
            hInside.1 n blank)
        hInside.2
  · rfl

omit hRows in
theorem Rectangular.eraseLinesChecked_eq
    {left right top bottom : Nat}
    (hOrder : left ≤ right)
    (hRight : right < grid.cols)
    (hRows : top ≤ bottom)
    (hBottom : bottom < grid.rows)
    (blank : Cell) :
    grid.eraseLinesChecked left right top bottom blank =
      some
        (grid.lines.mapIdx fun row line =>
          if top ≤ row ∧ row ≤ bottom then
            line.eraseSpan left right blank
          else
            line) := by
  have hLength : bottom < grid.lines.length := hBottom
  have hSwept :
      Checked.sweep
          (eraseColumnsChecked grid.cols left right blank) ()
          ((grid.lines.take (top + (bottom + 1 - top))).drop
            top) =
        some
          ((),
            ((grid.lines.take
                (top + (bottom + 1 - top))).drop top).map
              (·.eraseSpan left right blank)) := by
    apply Checked.sweep_eq
    intro line hLine
    have hWidth :=
      hGrid line
        (List.mem_of_mem_take (List.mem_of_mem_drop hLine))
    exact
      Checked.bind_eq
        (Line.eraseSpanChecked_eq hWidth hOrder hRight blank)
  have hEach :=
    Checked.updateEach_range'_eq (by omega) hSwept
  have hRange :
      ∀ row,
        row < top + (bottom + 1 - top) ↔ row ≤ bottom := by
    intro row
    omega
  unfold eraseLinesChecked
  refine (Checked.bind_eq hEach).trans ?_
  dsimp only
  rw [Checked.slice_map_eq_mapIdx]
  simp only [hRange]
  rfl

theorem Rectangular.eraseRectChecked_eq
    (x₁ y₁ x₂ y₂ : Nat)
    (blank : Cell) :
    grid.eraseRectChecked rows x₁ y₁ x₂ y₂ blank =
      some (grid.eraseRect x₁ y₁ x₂ y₂ blank) := by
  subst hRows
  unfold eraseRectChecked eraseRect
  by_cases hNone : grid.cols = 0 ∨ grid.rows = 0
  · rw [if_pos hNone]
    dsimp only
    rw [if_pos (by tauto)]
    rfl
  · rw [if_neg hNone,
      Checked.sub_eq (show 1 ≤ grid.cols by omega),
      Checked.sub_eq (show 1 ≤ grid.rows by omega)]
    simp only [Option.bind_eq_bind, Option.bind_some]
    split
    · rename_i hEmpty
      rw [if_pos (by tauto)]
      rfl
    · rename_i hOrder
      have hLines :=
        hGrid.eraseLinesChecked_eq
          (show min x₁ x₂ ≤
            min (max x₁ x₂) (grid.cols - 1) by omega)
          (by omega)
          (show min y₁ y₂ ≤
            min (max y₁ y₂) (grid.rows - 1) by omega)
          (by omega) blank
      rw [if_neg (by tauto), hLines]
      rfl

end

------------------------------------------------------------
-- Regions
------------------------------------------------------------

/- Consecutive slices make up the slice over both. -/
theorem slice_append_slice
    (grid : Grid)
    {start middle stop : Nat}
    (hFirst : start ≤ middle)
    (hLast : middle ≤ stop) :
    grid.slice start middle ++ grid.slice middle stop =
      grid.slice start stop := by
  have hCut :=
    Checked.slice_append_drop (grid.lines.take stop) hFirst
  rw [List.take_take, Nat.min_eq_left hLast] at hCut
  exact hCut

section

variable {grid : Grid} {origin bottom n : Nat}
  (hBottom : bottom < grid.rows)
  (hRoom : origin + n ≤ bottom + 1)

include hBottom hRoom

/- The rows above a region. -/
theorem length_above :
    (grid.lines.take origin).length = origin := by
  have hLength : bottom < grid.lines.length := hBottom
  rw [List.length_take]
  omega

/- They move in front of the rest of the region. -/
theorem rotatedDown_eq :
    Checked.onSlice grid.lines origin (bottom + 1)
        (Checked.rotateRight · n) =
      some
        (grid.lines.take origin ++
          (grid.slice (bottom + 1 - n) (bottom + 1) ++
            grid.slice origin (bottom + 1 - n)) ++
          grid.lines.drop (bottom + 1)) := by
  have hLength : bottom < grid.lines.length := hBottom
  have hStop :
      origin + (bottom + 1 - origin) = bottom + 1 := by
    omega
  have hAround :=
    Checked.take_slice_drop grid.lines origin
      (bottom + 1 - origin)
  rw [hStop] at hAround
  have hMoved :=
    Checked.onSlice_append (grid.lines.take origin)
      (grid.slice origin (bottom + 1))
      (grid.lines.drop (bottom + 1))
      (Checked.rotateRight · n)
  have hRotated :=
    Checked.rotateRight_append
      (grid.slice origin (bottom + 1 - n))
      (grid.slice (bottom + 1 - n) (bottom + 1))
  rw [length_leaving hBottom (by omega),
    slice_append_slice grid (by omega) (by omega)]
    at hRotated
  unfold slice at hMoved hRotated ⊢
  rw [hAround, length_above hBottom hRoom, List.length_drop,
    List.length_take, Nat.min_eq_left (by omega), hStop,
    hRotated] at hMoved
  exact hMoved

end

------------------------------------------------------------
-- Scrolling Upwards
------------------------------------------------------------

/- A line leaves a region, for the history if that is kept. -/
def leaveChecked
    (keeps : Bool)
    (blank : Cell)
    (ring : Scrollback)
    (line : Line) : Option (Scrollback × Line) :=
  if keeps then
    ring.pushChecked blank line
  else
    return (ring, line.fill blank)

/- The ring after lines have left, and the lines in turn. -/
def recycled
    (grid : Grid)
    (keeps : Bool)
    (blank : Cell)
    (lines : List Line) : Scrollback × List Line :=
  if keeps then
    grid.scrollback.pushAll blank lines
  else
    (grid.scrollback, lines.map (·.fill blank))

/-
  Lines are exchanged with the history of a screen that is
  held to have a number of rows.
-/
def usesHistoryBy
    (grid : Grid)
    (rows origin bottom : Nat)
    (retain : Bool) : Bool :=
  retain && origin == 0 && bottom + 1 == rows &&
    decide (0 < grid.scrollback.capacity)

/- The ring and the lines after the lines have moved up. -/
def movedUpChecked
    (grid : Grid)
    (origin bottom n : Nat)
    (keeps : Bool)
    (blank : Cell) : Option (Scrollback × List Line) := do
  let (ring, left) ←
    Checked.updateEach (leaveChecked keeps blank)
      grid.scrollback grid.lines (List.range' origin n)
  let lines ←
    Checked.onSlice left origin (bottom + 1)
      (Checked.rotateLeft · n)
  return (ring, lines)

/- Move the rows `origin` to `bottom` up by `n` lines. -/
def scrollUpChecked
    (grid : Grid)
    (rows origin bottom n : Nat)
    (retain : Bool)
    (blank : Cell) : Option (Grid × Nat) := do
  let bottom := min bottom (rows - 1)
  if bottom < origin then
    return (grid, 0)
  else
    let span ← Checked.sub bottom origin
    let n := min n (span + 1)
    if n = 0 then
      return (grid, 0)
    else
      let keeps :=
        grid.usesHistoryBy rows origin bottom retain
      let (ring, lines) ←
        grid.movedUpChecked origin bottom n keeps blank
      let retained := if keeps then n else 0
      let moved :=
        { grid with scrollback := ring, lines := lines }
      if 0 < retained ∧ 0 < grid.viewOffset then
        some
          (markAllDirty
            { moved with
              viewOffset :=
                min (grid.viewOffset + retained) ring.size },
            retained)
      else
        some (moved.markDirtyRange origin bottom, retained)

section

variable {grid : Grid} {bottom : Nat}
  (hRing : grid.scrollback.Aligned)

include hRing

theorem sweep_leaveChecked_eq
    (keeps : Bool)
    (blank : Cell)
    (lines : List Line) :
    Checked.sweep (leaveChecked keeps blank) grid.scrollback
        lines =
      some (grid.recycled keeps blank lines) := by
  cases keeps with
  | false => exact Checked.sweep_eq fun _ _ => rfl
  | true => exact hRing.pushAllChecked_eq blank lines

theorem movedUpChecked_eq
    {origin n : Nat}
    (hBottom : bottom < grid.rows)
    (hRoom : origin + n ≤ bottom + 1)
    (keeps : Bool)
    (blank : Cell) :
    grid.movedUpChecked origin bottom n keeps blank =
      some
        (let left :=
          grid.recycled keeps blank
            (grid.slice origin (origin + n))
        (left.1,
          grid.lines.take origin ++
            grid.slice (origin + n) (bottom + 1) ++ left.2 ++
            grid.lines.drop (bottom + 1))) := by
  have hLength : bottom < grid.lines.length := hBottom
  have hSwept :=
    sweep_leaveChecked_eq hRing keeps blank
      (grid.slice origin (origin + n))
  have hEntering := Checked.length_of_sweep hSwept
  rw [length_slice (by omega), Nat.add_sub_cancel_left]
    at hEntering
  dsimp only
  generalize
    grid.recycled keeps blank (grid.slice origin (origin + n)) =
      left at hSwept hEntering ⊢
  have hLeft :=
    Checked.updateEach_range'_eq (by omega) hSwept
  have hMoved :=
    Checked.onSlice_append (grid.lines.take origin)
      (left.2 ++ grid.slice (origin + n) (bottom + 1))
      (grid.lines.drop (bottom + 1))
      (Checked.rotateLeft · n)
  have hStop :
      origin + (n + (bottom + 1 - (origin + n))) =
        bottom + 1 := by
    omega
  have hRest :
      grid.slice (origin + n) (bottom + 1) ++
          grid.lines.drop (bottom + 1) =
        grid.lines.drop (origin + n) :=
    Checked.slice_append_drop grid.lines hRoom
  have hRotated :=
    Checked.rotateLeft_append left.2
      (grid.slice (origin + n) (bottom + 1))
  rw [hEntering] at hRotated
  rw [List.length_append, hEntering,
    length_above hBottom hRoom, length_slice (by omega),
    hStop, List.append_assoc, List.append_assoc, hRest,
    ← List.append_assoc, hRotated] at hMoved
  unfold movedUpChecked
  refine (Checked.bind_eq hLeft).trans ?_
  refine (Checked.bind_eq hMoved).trans ?_
  simp only [Option.pure_def, List.append_assoc]

theorem scrollUpChecked_eq
    {rows : Nat}
    (hRows : grid.rows = rows)
    (hSome : 0 < rows)
    (origin bottom n : Nat)
    (retain : Bool)
    (blank : Cell) :
    grid.scrollUpChecked rows origin bottom n retain blank =
      some (grid.scrollUp origin bottom n retain blank) := by
  subst hRows
  unfold scrollUpChecked scrollUp
  have hLast : min bottom (grid.rows - 1) < grid.rows := by
    omega
  dsimp only
  generalize min bottom (grid.rows - 1) = bottom at hLast ⊢
  by_cases hBelow : bottom < origin
  · rw [if_pos hBelow, if_pos (by omega)]
    rfl
  · have hSpan : bottom - origin + 1 = bottom + 1 - origin := by
      omega
    rw [if_neg hBelow, Checked.sub_eq (by omega)]
    simp only [Option.bind_eq_bind, Option.bind_some, hSpan]
    split
    · rfl
    · rw [movedUpChecked_eq hRing hLast (by omega)]
      exact (apply_ite some _ _ _).symm

end

------------------------------------------------------------
-- Scrolling Downwards
------------------------------------------------------------

/- A line enters a region, from the history if that is used. -/
def enterChecked
    (keeps : Bool)
    (blank : Cell)
    (state : Scrollback × Nat)
    (line : Line) : Option ((Scrollback × Nat) × Line) :=
  if keeps then
    Scrollback.restoreChecked blank state line
  else
    return (state, line.fill blank)

/- The ring after lines have entered, and those lines. -/
def restored
    (grid : Grid)
    (keeps : Bool)
    (blank : Cell)
    (lines : List Line) : Scrollback × List Line :=
  if keeps then
    grid.scrollback.popInto blank lines
  else
    (grid.scrollback, lines.map (·.fill blank))

/-
  The ring, the number of lines from it, and the lines after
  the lines have moved down.
-/
def movedDownChecked
    (grid : Grid)
    (origin bottom n : Nat)
    (keeps : Bool)
    (blank : Cell) :
    Option ((Scrollback × Nat) × List Line) := do
  let rotated ←
    Checked.onSlice grid.lines origin (bottom + 1)
      (Checked.rotateRight · n)
  let rows ←
    (List.range n).mapM fun k => do
      let last ← Checked.sub (origin + n) 1
      Checked.sub last k
  Checked.updateEach (enterChecked keeps blank)
    (grid.scrollback, 0) rotated rows

/- Move the rows `origin` to `bottom` down by `n` lines. -/
def scrollDownChecked
    (grid : Grid)
    (rows origin bottom n : Nat)
    (retain : Bool)
    (blank : Cell) : Option (Grid × Nat) := do
  let bottom := min bottom (rows - 1)
  if bottom < origin then
    return (grid, 0)
  else
    let span ← Checked.sub bottom origin
    let n := min n (span + 1)
    if n = 0 then
      return (grid, 0)
    else
      let keeps :=
        grid.usesHistoryBy rows origin bottom retain
      let ((ring, restored), lines) ←
        grid.movedDownChecked origin bottom n keeps blank
      let moved :=
        { grid with scrollback := ring, lines := lines }
      if 0 < restored ∧ 0 < grid.viewOffset then
        some
          (markAllDirty
            { moved with
              viewOffset := grid.viewOffset - restored },
            restored)
      else
        some (moved.markDirtyRange origin bottom, restored)

/- Move the rows `origin` to `bottom` by `n` lines. -/
def scrollRegionChecked
    (grid : Grid)
    (rows origin bottom n : Nat)
    (direction : ScrollDirection)
    (retain : Bool)
    (blank : Cell) : Option (Grid × Nat) :=
  match direction with
  | .up =>
    grid.scrollUpChecked rows origin bottom n retain blank
  | .down =>
    grid.scrollDownChecked rows origin bottom n retain blank

/- The rows that lines enter, the last of them first. -/
theorem descendingRows_eq
    {origin n : Nat} :
    ((List.range n).mapM fun k => do
        let last ← Checked.sub (origin + n) 1
        Checked.sub last k) =
      some (List.range' origin n).reverse := by
  rw [List.reverse_range']
  apply Checked.mapM_eq
  intro k hMem
  have hLt := List.mem_range.mp hMem
  refine (Checked.bind_eq (Checked.sub_eq (by omega))).trans ?_
  exact Checked.sub_eq (by omega)

section

variable {grid : Grid} {bottom : Nat}
  (hRing : grid.scrollback.Aligned)

include hRing

theorem sweep_enterChecked_eq
    (keeps : Bool)
    (blank : Cell)
    (lines : List Line) :
    Checked.sweep (enterChecked keeps blank)
        (grid.scrollback, 0) lines =
      some
        (((grid.restored keeps blank lines).1,
            if keeps then
              min lines.length grid.scrollback.size
            else
              0),
          (grid.restored keeps blank lines).2) := by
  cases keeps with
  | false => exact Checked.sweep_eq fun _ _ => rfl
  | true =>
      have hPopped := hRing.popIntoChecked_eq blank 0 lines
      rw [Nat.zero_add] at hPopped
      exact hPopped

theorem movedDownChecked_eq
    {origin n : Nat}
    (hBottom : bottom < grid.rows)
    (hRoom : origin + n ≤ bottom + 1)
    (keeps : Bool)
    (blank : Cell) :
    grid.movedDownChecked origin bottom n keeps blank =
      some
        (let entered :=
          grid.restored keeps blank
            (grid.slice (bottom + 1 - n) (bottom + 1)).reverse
        ((entered.1,
            if keeps then min n grid.scrollback.size else 0),
          grid.lines.take origin ++ entered.2.reverse ++
            grid.slice origin (bottom + 1 - n) ++
            grid.lines.drop (bottom + 1))) := by
  have hLeaving :=
    length_leaving hBottom (show n ≤ bottom + 1 by omega)
  have hEntered :=
    Checked.updateEach_descending (enterChecked keeps blank)
      (grid.scrollback, 0) (grid.lines.take origin)
      (grid.slice (bottom + 1 - n) (bottom + 1)).reverse
      (grid.slice origin (bottom + 1 - n) ++
        grid.lines.drop (bottom + 1))
  rw [length_above hBottom hRoom, List.length_reverse,
    hLeaving, List.reverse_reverse,
    sweep_enterChecked_eq hRing, List.length_reverse,
    hLeaving] at hEntered
  unfold movedDownChecked
  refine
    (Checked.bind_eq (rotatedDown_eq hBottom hRoom)).trans ?_
  refine (Checked.bind_eq descendingRows_eq).trans ?_
  simp only [List.append_assoc, Option.map_some]
    at hEntered ⊢
  exact hEntered

theorem scrollDownChecked_eq
    {rows : Nat}
    (hRows : grid.rows = rows)
    (hSome : 0 < rows)
    (origin bottom n : Nat)
    (retain : Bool)
    (blank : Cell) :
    grid.scrollDownChecked rows origin bottom n retain blank =
      some (grid.scrollDown origin bottom n retain blank) := by
  subst hRows
  unfold scrollDownChecked scrollDown
  have hLast : min bottom (grid.rows - 1) < grid.rows := by
    omega
  dsimp only
  generalize min bottom (grid.rows - 1) = bottom at hLast ⊢
  by_cases hBelow : bottom < origin
  · rw [if_pos hBelow, if_pos (by omega)]
    rfl
  · have hSpan : bottom - origin + 1 = bottom + 1 - origin := by
      omega
    rw [if_neg hBelow, Checked.sub_eq (by omega)]
    simp only [Option.bind_eq_bind, Option.bind_some, hSpan]
    split
    · rfl
    · rw [movedDownChecked_eq hRing hLast (by omega)]
      exact (apply_ite some _ _ _).symm

theorem scrollRegionChecked_eq
    {rows : Nat}
    (hRows : grid.rows = rows)
    (hSome : 0 < rows)
    (origin bottom n : Nat)
    (direction : ScrollDirection)
    (retain : Bool)
    (blank : Cell) :
    grid.scrollRegionChecked rows origin bottom n direction
        retain blank =
      some
        (grid.scrollRegion origin bottom n direction retain
          blank) := by
  cases direction with
  | up => exact scrollUpChecked_eq hRing hRows hSome _ _ _ _ _
  | down => exact scrollDownChecked_eq hRing hRows hSome _ _ _ _ _

end

------------------------------------------------------------
-- Size
------------------------------------------------------------

/- Lines leave at the top, for the history if that is kept. -/
def leaveTopChecked
    (grid : Grid)
    (shift : Nat)
    (retain : Bool)
    (blank : Cell) : Option (Scrollback × List Line) := do
  if retain then
    let leaving ← Checked.slice grid.lines 0 shift
    let (ring, recycled) ←
      Checked.sweep (Scrollback.pushChecked blank)
        grid.scrollback leaving
    let kept ←
      Checked.drain (recycled ++ grid.lines.drop shift) shift
    return (ring, kept)
  else
    let kept ← Checked.drain grid.lines shift
    return (grid.scrollback, kept)

/- Change both dimensions of a screen. -/
def resizeChecked
    (grid : Grid)
    (cols rows cursorRow : Nat)
    (retain : Bool)
    (blank : Cell) : Option (Grid × Nat) := do
  let widened := grid.resizeCols cols blank
  let shift := min (cursorRow + 1 - rows) widened.rows
  let (ring, lines) ←
    if 0 < shift then
      widened.leaveTopChecked shift retain blank
    else
      some (widened.scrollback, widened.lines)
  let kept := lines.take rows
  some
    ({ widened with
        lines := kept ++
          List.replicate (rows - kept.length)
            (.ofBlank widened.cols blank)
        scrollback := ring
        dirty := List.replicate rows true
        viewOffset := min widened.viewOffset ring.size },
      shift)

section

variable {grid : Grid}
  (hRing : grid.scrollback.Aligned)

include hRing

theorem leaveTopChecked_eq
    {shift : Nat}
    (hShift : shift ≤ grid.rows)
    (retain : Bool)
    (blank : Cell) :
    grid.leaveTopChecked shift retain blank =
      some
        (if retain then
            (grid.scrollback.pushAll blank
              (grid.lines.take shift)).1
          else
            grid.scrollback,
          grid.lines.drop shift) := by
  have hLength : shift ≤ grid.lines.length := hShift
  unfold leaveTopChecked
  cases retain with
  | false =>
      exact Checked.bind_eq (Checked.drain_eq hLength)
  | true =>
      have hPushed :=
        hRing.pushAllChecked_eq blank (grid.lines.take shift)
      have hRecycled := Checked.length_of_sweep hPushed
      rw [List.length_take, Nat.min_eq_left hLength]
        at hRecycled
      rw [if_pos rfl, if_pos rfl]
      refine
        (Checked.bind_eq
          (Checked.slice_eq (Nat.zero_le _) hLength)).trans ?_
      refine (Checked.bind_eq hPushed).trans ?_
      refine (Checked.bind_eq (Checked.drain_eq ?_)).trans ?_
      · rw [List.length_append, hRecycled]
        exact Nat.le_add_right _ _
      · rw [List.drop_left' hRecycled]
        rfl

theorem resizeChecked_eq
    (cols rows cursorRow : Nat)
    (retain : Bool)
    (blank : Cell) :
    grid.resizeChecked cols rows cursorRow retain blank =
      some
        (grid.resize cols rows cursorRow retain blank) := by
  have hWidened :
      (grid.resizeCols cols blank).scrollback.Aligned := by
    unfold resizeCols
    split
    · exact hRing
    · exact hRing.resizeCols cols blank
  unfold resizeChecked resize resizeRows
  dsimp only
  generalize grid.resizeCols cols blank = widened at hWidened ⊢
  by_cases hShift :
      0 < min (cursorRow + 1 - rows) widened.rows
  · rw [if_pos hShift,
      leaveTopChecked_eq hWidened (Nat.min_le_right _ _)]
    rfl
  · have hNone :
        min (cursorRow + 1 - rows) widened.rows = 0 := by
      omega
    rw [if_neg hShift, hNone]
    cases retain <;> rfl

end

end Grid

end VideoTerminal
