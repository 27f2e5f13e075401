import VideoTerminal.Proofs.Grid.Resize
import VideoTerminal.Proofs.Grid.Scroll
import VideoTerminal.Terminal.Dispatch
import VideoTerminal.Terminal.Pointer

/-
  Sessions whose parts fit together, which is what everything
  that a session does leaves behind: both screens have the
  same size, the cursors are on them, and the scroll region
  and the tab stops are within them.

  Main declarations:
    * `Session.WellFormed`
    * `Session.wellFormed_start`
    * `Session.WellFormed.scrollLines`
    * `Session.WellFormed.writeChar`
    * `Session.WellFormed.resize`
    * `Session.WellFormed.handle`
-/

namespace VideoTerminal

namespace Session

------------------------------------------------------------
-- Well-Formed Sessions
------------------------------------------------------------

/- A saved cursor lies on a screen of a given size. -/
def SavedWithin
    (cols rows : Nat)
    (saved? : Option SavedCursor) : Prop :=
  ∀ saved ∈ saved?, saved.col < cols ∧ saved.row < rows

/- A session with given settings on screens of a given size. -/
structure WellFormed
    (config : Config)
    (cols rows : Nat)
    (session : Session) : Prop where
  config_eq : session.config = config
  cols_pos : 0 < cols
  rows_pos : 0 < rows
  primary :
    session.primary.WellFormed cols rows
      config.scrollbackLines
  alternate : session.alternate.WellFormed cols rows 0
  cursor_col : session.cursor.col < cols
  cursor_row : session.cursor.row < rows
  savedPrimary : SavedWithin cols rows session.savedPrimary
  savedAlternate :
    SavedWithin cols rows session.savedAlternate
  region_le : session.regionTop ≤ session.regionBottom
  region_lt : session.regionBottom < rows
  tabStops_length : session.tabStops.length = cols

theorem isPlain_configBlank
    (config : Config) :
    config.blank.IsPlain :=
  Cell.isPlain_blank _ _

theorem isPlain_sessionBlank
    (session : Session) :
    session.blank.IsPlain :=
  Pen.isPlain_blank _

theorem wellFormed_start
    {cols rows : Nat}
    (hCols : 0 < cols)
    (hRows : 0 < rows)
    (config : Config) :
    (start cols rows config).WellFormed config cols rows where
  config_eq := rfl
  cols_pos := hCols
  rows_pos := hRows
  primary :=
    Grid.wellFormed_ofBlank cols rows _
      (isPlain_configBlank config)
  alternate :=
    Grid.wellFormed_ofBlank cols rows _
      (isPlain_configBlank config)
  cursor_col := hCols
  cursor_row := hRows
  savedPrimary := by
    intro saved hSaved
    cases hSaved
  savedAlternate := by
    intro saved hSaved
    cases hSaved
  region_le := Nat.zero_le _
  region_lt := Nat.sub_lt hRows Nat.one_pos
  tabStops_length := by
    simp [start, defaultTabStops]

/- The history that the screen in use has room for. -/
def activeCapacity
    (session : Session) : Nat :=
  match session.screen with
  | .primary => session.config.scrollbackLines
  | .alternate => 0

section

variable {config : Config} {cols rows : Nat}
  {session : Session}

theorem WellFormed.cols_eq
    (hSession : session.WellFormed config cols rows) :
    session.cols = cols :=
  hSession.primary.cols_eq

theorem WellFormed.rows_eq
    (hSession : session.WellFormed config cols rows) :
    session.rows = rows :=
  hSession.primary.rows_eq

theorem WellFormed.active
    (hSession : session.WellFormed config cols rows) :
    session.active.WellFormed cols rows
      session.activeCapacity := by
  unfold Session.active activeCapacity
  cases session.screen with
  | primary =>
      exact hSession.config_eq.symm ▸ hSession.primary
  | alternate => exact hSession.alternate

theorem WellFormed.grid
    (hSession : session.WellFormed config cols rows)
    (screen : Screen) :
    ∃ capacity,
      (session.grid screen).WellFormed cols rows capacity := by
  cases screen with
  | primary => exact ⟨_, hSession.primary⟩
  | alternate => exact ⟨_, hSession.alternate⟩

theorem WellFormed.cols_grid
    (hSession : session.WellFormed config cols rows)
    (screen : Screen) :
    (session.grid screen).cols = cols := by
  rcases hSession.grid screen with ⟨_, hGrid⟩
  exact hGrid.cols_eq

------------------------------------------------------------
-- Changes of One Part
------------------------------------------------------------

theorem WellFormed.modifyActive
    (hSession : session.WellFormed config cols rows)
    {change : Grid → Grid}
    (hChange :
      ∀ capacity,
        session.active.WellFormed cols rows capacity →
          (change session.active).WellFormed cols rows
            capacity) :
    (session.modifyActive change).WellFormed config cols
      rows := by
  unfold Session.active at hChange
  unfold Session.modifyActive
  cases hScreen : session.screen with
  | primary =>
      rw [hScreen] at hChange
      exact
        { hSession with
          primary := hChange _ hSession.primary }
  | alternate =>
      rw [hScreen] at hChange
      exact
        { hSession with
          alternate := hChange _ hSession.alternate }

theorem WellFormed.goto
    (hSession : session.WellFormed config cols rows)
    {col row : Nat}
    (hCol : col < cols)
    (hRow : row < rows) :
    (session.goto col row).WellFormed config cols rows :=
  { hSession with
    cursor_col := hCol
    cursor_row := hRow }

/- A change that leaves the cursor in its place. -/
theorem WellFormed.modifyCursor
    (hSession : session.WellFormed config cols rows)
    {change : Cursor → Cursor}
    (hCol : (change session.cursor).col < cols)
    (hRow : (change session.cursor).row < rows) :
    (session.modifyCursor change).WellFormed config cols
      rows :=
  { hSession with
    cursor_col := hCol
    cursor_row := hRow }

theorem WellFormed.modifyModes
    (hSession : session.WellFormed config cols rows)
    (change : Modes → Modes) :
    (session.modifyModes change).WellFormed config cols
      rows :=
  { hSession with }

theorem WellFormed.notify
    (hSession : session.WellFormed config cols rows)
    (notice : Notice) :
    (session.notify notice).WellFormed config cols rows :=
  { hSession with }

theorem WellFormed.respond
    (hSession : session.WellFormed config cols rows)
    (bytes : List UInt8) :
    (session.respond bytes).WellFormed config cols rows :=
  { hSession with }

theorem WellFormed.dropSelectionIn
    (hSession : session.WellFormed config cols rows)
    (x₁ y₁ x₂ y₂ : Nat) :
    (session.dropSelectionIn x₁ y₁ x₂ y₂).WellFormed config
      cols rows :=
  { hSession with }

------------------------------------------------------------
-- Scrolling and Clearing
------------------------------------------------------------

/- The lines that scrolling by some lines really moves by. -/
def scrollCount
    (session : Session)
    (origin count : Nat) : Nat :=
  min count (session.regionBottom + 1 - origin)

theorem add_scrollCount_le
    {origin count : Nat}
    (hSome : session.scrollCount origin count ≠ 0) :
    origin + session.scrollCount origin count ≤
      session.regionBottom + 1 := by
  unfold scrollCount at hSome ⊢
  omega

/- The screen in use and what it exchanged with its history. -/
def scrolledGrid
    (session : Session)
    (origin count : Nat)
    (direction : ScrollDirection)
    (retain : Bool) : Grid × Nat :=
  session.active.scrollRegion origin session.regionBottom
    (session.scrollCount origin count) direction retain
    session.blank

theorem scrollLines_of_eq_zero
    {origin count : Nat}
    (hNone : session.scrollCount origin count = 0)
    (direction : ScrollDirection)
    (retain : Bool) :
    session.scrollLines origin count direction retain =
      session :=
  if_pos hNone

theorem scrollLines_of_ne_zero
    {origin count : Nat}
    (hSome : session.scrollCount origin count ≠ 0)
    (direction : ScrollDirection)
    (retain : Bool) :
    session.scrollLines origin count direction retain =
      { session.modifyActive fun _ =>
          (session.scrolledGrid origin count direction
            retain).1 with
        selection :=
          session.selection.bind fun selection =>
            followScroll selection
              (session.scrolledGrid origin count direction
                retain).1
              (session.scrolledGrid origin count direction
                retain).2
              origin session.regionBottom
              (scrollDelta direction
                (session.scrollCount origin count))
              session.screen } :=
  if_neg hSome

/- Only the screen in use scrolls. -/
theorem primary_scrollLines
    {origin count : Nat}
    (hSome : session.scrollCount origin count ≠ 0)
    (direction : ScrollDirection)
    (retain : Bool) :
    (session.scrollLines origin count direction
        retain).primary =
      match session.screen with
      | .primary =>
        (session.primary.scrollRegion origin
          session.regionBottom
          (session.scrollCount origin count) direction retain
          session.blank).1
      | .alternate => session.primary := by
  rw [scrollLines_of_ne_zero hSome]
  unfold Session.modifyActive Session.scrolledGrid
    Session.active
  cases session.screen with
  | primary => rfl
  | alternate => rfl

theorem WellFormed.scrolledGrid
    (hSession : session.WellFormed config cols rows)
    {origin count : Nat}
    (hSome : session.scrollCount origin count ≠ 0)
    (direction : ScrollDirection)
    (retain : Bool)
    {capacity : Nat}
    (hActive :
      session.active.WellFormed cols rows capacity) :
    (session.scrolledGrid origin count direction
      retain).1.WellFormed cols rows capacity := by
  unfold Session.scrolledGrid
  exact
    hActive.scrollRegion hSession.region_lt
      (Nat.pos_of_ne_zero hSome) (add_scrollCount_le hSome)
      direction retain (isPlain_sessionBlank session)

theorem WellFormed.scrollLines
    (hSession : session.WellFormed config cols rows)
    (origin count : Nat)
    (direction : ScrollDirection)
    (retain : Bool) :
    (session.scrollLines origin count direction
      retain).WellFormed config cols rows := by
  by_cases hNone : session.scrollCount origin count = 0
  · rw [scrollLines_of_eq_zero hNone]
    exact hSession
  · have hScrolled :
        (session.modifyActive fun _ =>
          (session.scrolledGrid origin count direction
            retain).1).WellFormed config cols rows :=
      hSession.modifyActive fun _ hActive =>
        hSession.scrolledGrid hNone direction retain hActive
    rw [scrollLines_of_ne_zero hNone]
    exact { hScrolled with }

theorem WellFormed.clearRegion
    (hSession : session.WellFormed config cols rows)
    (x₁ y₁ x₂ y₂ : Nat) :
    (session.clearRegion x₁ y₁ x₂ y₂).WellFormed config cols
      rows := by
  unfold Session.clearRegion
  apply (hSession.dropSelectionIn _ _ _ _).modifyActive
  intro capacity hActive
  exact
    hActive.eraseRect x₁ y₁ x₂ y₂
      (isPlain_sessionBlank session)

theorem WellFormed.clearScrollback
    (hSession : session.WellFormed config cols rows) :
    session.clearScrollback.WellFormed config cols rows :=
  { hSession with
    primary := hSession.primary.clearScrollback }

------------------------------------------------------------
-- Cursor Positions
------------------------------------------------------------

theorem WellFormed.moveTo
    (hSession : session.WellFormed config cols rows)
    (col row : Nat) :
    (session.moveTo col row).WellFormed config cols rows := by
  have hCols := hSession.cols_pos
  have hRows := hSession.rows_pos
  have hWidth := hSession.cols_eq
  have hHeight := hSession.rows_eq
  have hTop := hSession.region_le
  have hBottom := hSession.region_lt
  unfold Session.moveTo
  split
  rename_i minRow maxRow hLimits
  have hMost : minRow ≤ maxRow ∧ maxRow < rows := by
    split at hLimits
    · cases hLimits
      omega
    · cases hLimits
      omega
  apply hSession.goto
  · omega
  · omega

theorem WellFormed.moveToOrigin
    (hSession : session.WellFormed config cols rows)
    (col row : Nat) :
    (session.moveToOrigin col row).WellFormed config cols
      rows :=
  hSession.moveTo _ _

/- Scrolling is confined, and the cursor stays for now. -/
def confinedTo
    (session : Session)
    (top bottom : Nat) : Session :=
  let top := min top (session.rows - 1)
  let bottom := min bottom (session.rows - 1)
  { session with
    regionTop := min top bottom
    regionBottom := max top bottom }

theorem WellFormed.confinedTo
    (hSession : session.WellFormed config cols rows)
    (top bottom : Nat) :
    (session.confinedTo top bottom).WellFormed config cols
      rows := by
  have hRows := hSession.rows_pos
  have hHeight := hSession.rows_eq
  exact
    { hSession with
      region_le := by
        simp only [Session.confinedTo]
        omega
      region_lt := by
        simp only [Session.confinedTo]
        omega }

theorem WellFormed.setScrollRegion
    (hSession : session.WellFormed config cols rows)
    (top bottom : Nat) :
    (session.setScrollRegion top bottom).WellFormed config
      cols rows :=
  (hSession.confinedTo top bottom).moveToOrigin 0 0

------------------------------------------------------------
-- Lines
------------------------------------------------------------

theorem WellFormed.newLine
    (hSession : session.WellFormed config cols rows)
    (toFirstColumn : Bool) :
    (session.newLine toFirstColumn).WellFormed config cols
      rows := by
  have hCol :
      (if toFirstColumn then 0 else session.cursor.col) <
        cols := by
    split
    · exact hSession.cols_pos
    · exact hSession.cursor_col
  unfold Session.newLine
  dsimp only
  split
  · exact
      (hSession.scrollLines _ _ _ _).goto hCol
        hSession.cursor_row
  · split
    · rename_i hNext
      exact hSession.goto hCol (hSession.rows_eq ▸ hNext)
    · exact hSession.goto hCol hSession.cursor_row

theorem WellFormed.reverseIndex
    (hSession : session.WellFormed config cols rows) :
    session.reverseIndex.WellFormed config cols rows := by
  unfold Session.reverseIndex
  dsimp only
  split
  · have hScrolled :=
      hSession.scrollLines session.regionTop 1 .down false
    exact
      hScrolled.modifyCursor hScrolled.cursor_col
        hScrolled.cursor_row
  · exact
      hSession.goto hSession.cursor_col
        (Nat.lt_of_le_of_lt (Nat.sub_le _ _)
          hSession.cursor_row)

/- The mark of a soft wrap goes on the last cell of the row. -/
theorem WellFormed.edits_softWrapped
    (hSession : session.WellFormed config cols rows) :
    session.active.Edits
      (session.active.modifyCell (session.cols - 1)
        session.cursor.row (·.setWrapped true))
      (Grid.onRow session.cursor.row
        (·.setWrapped true)) := by
  have hActive := hSession.active
  have hCol : session.cols - 1 < session.active.cols := by
    rw [hActive.cols_eq, hSession.cols_eq]
    exact Nat.sub_lt hSession.cols_pos Nat.one_pos
  have hRow : session.cursor.row < session.active.rows :=
    hActive.rows_eq.symm ▸ hSession.cursor_row
  apply (Grid.edits_modifyCell hCol hRow _).congr
  intro y line hLine
  unfold Grid.onRow
  split
  · unfold Line.setWrapped
    dsimp only
    rw [(hActive.of_line?_eq_some hLine).width_eq,
      hSession.cols_eq]
  · rfl

/- The line of the cursor is marked, and the cursor stays. -/
def markWrapped
    (session : Session) : Session :=
  session.modifyActive
    (·.modifyCell (session.cols - 1) session.cursor.row
      (·.setWrapped true))

theorem WellFormed.markWrapped
    (hSession : session.WellFormed config cols rows) :
    session.markWrapped.WellFormed config cols rows := by
  apply hSession.modifyActive
  intro capacity hActive
  exact
    hSession.edits_softWrapped.wellFormed_onRow hActive
      fun _ hLine => hLine.setWrapped true

theorem WellFormed.softWrap
    (hSession : session.WellFormed config cols rows) :
    session.softWrap.WellFormed config cols rows :=
  hSession.markWrapped.newLine true

------------------------------------------------------------
-- Characters
------------------------------------------------------------

theorem col_newLine_true
    (session : Session) :
    (session.newLine true).cursor.col = 0 := by
  unfold Session.newLine
  dsimp only
  split
  · rfl
  · split <;> rfl

theorem wrapPending_newLine
    (session : Session)
    (toFirstColumn : Bool) :
    (session.newLine toFirstColumn).cursor.wrapPending =
      false := by
  unfold Session.newLine
  dsimp only
  split
  · rfl
  · split <;> rfl

/- Wrap the line if its last column has been written. -/
def wrapIfPending
    (session : Session) : Session :=
  if session.cursor.wrapPending ∧ session.modes.autoWrap then
    session.softWrap
  else
    session

/- Wrap the line, or move back, if a character does not fit. -/
def fit
    (session : Session)
    (wraps : Bool)
    (width : Nat) : Session :=
  if session.cols < session.cursor.col + width then
    if wraps then
      session.softWrap
    else
      session.modifyCursor
        ({ · with col := session.cols - width })
  else
    session

theorem makeRoom_eq
    (session : Session)
    (width : Nat) :
    session.makeRoom width =
      session.wrapIfPending.fit session.modes.autoWrap
        width :=
  rfl

theorem WellFormed.wrapIfPending
    (hSession : session.WellFormed config cols rows) :
    session.wrapIfPending.WellFormed config cols rows := by
  unfold Session.wrapIfPending
  split
  · exact hSession.softWrap
  · exact hSession

theorem WellFormed.fit
    (hSession : session.WellFormed config cols rows)
    (wraps : Bool)
    {width : Nat}
    (hSome : 0 < width) :
    (session.fit wraps width).WellFormed config cols
      rows := by
  have hCols := hSession.cols_pos
  have hWidth := hSession.cols_eq
  unfold Session.fit
  split
  · split
    · exact hSession.softWrap
    · apply hSession.modifyCursor
      · simp only
        omega
      · exact hSession.cursor_row
  · exact hSession

theorem WellFormed.makeRoom
    (hSession : session.WellFormed config cols rows)
    {width : Nat}
    (hSome : 0 < width) :
    (session.makeRoom width).WellFormed config cols rows :=
  hSession.wrapIfPending.fit _ hSome

theorem col_fit_add_le
    (session : Session)
    (wraps : Bool)
    {width : Nat}
    (hWidth : width ≤ session.cols) :
    (session.fit wraps width).cursor.col + width ≤
      session.cols := by
  have hWrapped : session.softWrap.cursor.col = 0 :=
    col_newLine_true _
  unfold Session.fit
  split
  · split
    · omega
    · simp only [Session.modifyCursor]
      omega
  · omega

/- There is room for a character where it is put. -/
theorem WellFormed.col_makeRoom_add_le
    (hSession : session.WellFormed config cols rows)
    {width : Nat}
    (hWidth : width ≤ cols) :
    (session.makeRoom width).cursor.col + width ≤ cols := by
  have hCols := hSession.wrapIfPending.cols_eq
  have hFit :=
    col_fit_add_le session.wrapIfPending
      session.modes.autoWrap (hCols.symm ▸ hWidth)
  rw [hCols] at hFit
  exact hFit

theorem WellFormed.advance
    (hSession : session.WellFormed config cols rows)
    (width : Nat) :
    (session.advance width).WellFormed config cols rows := by
  unfold Session.advance
  apply hSession.modifyCursor
  · split
    · rename_i hInside
      exact hSession.cols_eq ▸ hInside
    · exact hSession.cursor_col
  · split
    · exact hSession.cursor_row
    · exact hSession.cursor_row

/- The cells of a line after a character has been put there. -/
def putCells
    (pen : Pen)
    (col width : Nat)
    (c : Char)
    (line : Line) : Line :=
  if width = 2 then
    line.overwriteWide col { pen.cell c with wide := true }
      { pen.cell ' ' with placeholder := true }
  else
    line.overwrite col (pen.cell c)

theorem wellFormed_putCells
    {line : Line}
    (hLine : line.WellFormed cols)
    {pen : Pen}
    {col width : Nat}
    (hSome : 0 < width)
    (hRoom : col + width ≤ cols)
    (c : Char) :
    (putCells pen col width c line).WellFormed cols := by
  unfold putCells
  split
  · exact
      hLine.overwriteWide (by omega) ⟨rfl, rfl⟩ ⟨rfl, rfl⟩
        ⟨rfl, rfl⟩ rfl
  · exact hLine.overwrite (by omega) (pen.isPlain_cell c)

theorem edits_putChar
    {grid : Grid}
    (hGrid : grid.Rectangular)
    {pen : Pen}
    {col row width : Nat}
    (hRow : row < grid.rows)
    (hSome : 0 < width)
    (hRoom : col + width ≤ grid.cols)
    (c : Char) :
    grid.Edits (putChar grid pen col row width c)
      (Grid.onRow row (putCells pen col width c)) := by
  unfold putChar putCells
  dsimp only
  by_cases hWide : width = 2
  · rw [if_pos ⟨hWide, by omega⟩]
    simp only [if_pos hWide]
    exact
      Grid.edits_overwriteWide hGrid (by omega) hRow _ _
  · rw [if_neg fun hBoth => hWide hBoth.1]
    simp only [if_neg hWide]
    have hNarrow : (width == 2) = false :=
      beq_eq_false_iff_ne.mpr hWide
    rw [hNarrow]
    exact Grid.edits_overwrite hGrid (by omega) hRow _

/- What writing a character does to the line of the cursor. -/
def writtenLine
    (session : Session)
    (width : Nat)
    (c : Char)
    (line : Line) : Line :=
  let col := session.cursor.col
  putCells session.cursor.pen col width c
    (if session.modes.insert ∧ col + width < session.cols then
      line.insertBlanks col width session.blank
    else
      line)

theorem WellFormed.writtenLine
    (hSession : session.WellFormed config cols rows)
    {line : Line}
    (hLine : line.WellFormed cols)
    {width : Nat}
    (hSome : 0 < width)
    (hRoom : session.cursor.col + width ≤ cols)
    (c : Char) :
    (session.writtenLine width c line).WellFormed cols := by
  apply wellFormed_putCells _ hSome hRoom
  split
  · exact
      hLine.insertBlanks hSession.cursor_col width
        (isPlain_sessionBlank session)
  · exact hLine

theorem WellFormed.edits_putAtCursor
    (hSession : session.WellFormed config cols rows)
    {width : Nat}
    (hSome : 0 < width)
    (hRoom : session.cursor.col + width ≤ cols)
    (c : Char) :
    session.active.Edits
      (putChar
        (if session.modes.insert ∧
            session.cursor.col + width < session.cols then
          session.active.insertBlanks session.cursor.col
            session.cursor.row width session.blank
        else
          session.active)
        session.cursor.pen session.cursor.col
        session.cursor.row width c)
      (Grid.onRow session.cursor.row
        (session.writtenLine width c)) := by
  have hActive := hSession.active
  have hCol : session.cursor.col < session.active.cols :=
    hActive.cols_eq.symm ▸ hSession.cursor_col
  have hRow : session.cursor.row < session.active.rows :=
    hActive.rows_eq.symm ▸ hSession.cursor_row
  unfold Session.writtenLine
  dsimp only
  by_cases hInserts :
      session.modes.insert ∧
        session.cursor.col + width < session.cols
  · simp only [if_pos hInserts]
    have hOpened :=
      Grid.edits_insertBlanks hCol hRow width session.blank
    have hWellFormed :=
      hOpened.wellFormed_onRow hActive fun _ hLine =>
        hLine.insertBlanks hSession.cursor_col width
          (isPlain_sessionBlank session)
    exact
      hOpened.trans_onRow
        (edits_putChar hWellFormed.rectangular
          (hOpened.rows_eq.symm ▸ hRow) hSome
          (hWellFormed.cols_eq.symm ▸ hRoom) c)
  · simp only [if_neg hInserts]
    exact
      edits_putChar hActive.rectangular hRow hSome
        (hActive.cols_eq.symm ▸ hRoom) c

theorem WellFormed.putAtCursor
    (hSession : session.WellFormed config cols rows)
    {width : Nat}
    (hSome : 0 < width)
    (hRoom : session.cursor.col + width ≤ cols)
    (c : Char) :
    (session.putAtCursor width c).WellFormed config cols
      rows := by
  unfold Session.putAtCursor
  apply (hSession.dropSelectionIn _ _ _ _).modifyActive
  intro capacity hActive
  exact
    (hSession.edits_putAtCursor hSome hRoom
      c).wellFormed_onRow hActive
      fun _ hLine => hSession.writtenLine hLine hSome hRoom c

theorem WellFormed.writeChar
    [TextLibrary]
    (hSession : session.WellFormed config cols rows)
    (c : Char) :
    (session.writeChar c).WellFormed config cols rows := by
  unfold Session.writeChar
  dsimp only
  split
  · exact hSession
  · exact hSession
  · rename_i width hZero hWidth
    split
    · exact hSession
    · rename_i hFits
      have hSome : 0 < width := Nat.pos_of_ne_zero hZero
      have hLe : width ≤ cols := by
        rw [hSession.cols_eq] at hFits
        exact Nat.le_of_not_lt hFits
      have hWritten :=
        (hSession.makeRoom hSome).putAtCursor hSome
          (hSession.col_makeRoom_add_le hLe)
          (session.charsets.substitute c)
      apply WellFormed.advance
      exact { hWritten with }

theorem WellFormed.writeCharTimes
    [TextLibrary]
    (hSession : session.WellFormed config cols rows)
    (c : Char)
    (n : Nat) :
    (session.writeCharTimes c n).WellFormed config cols
      rows := by
  induction n generalizing session with
  | zero => exact hSession
  | succ n hRest => exact hRest (hSession.writeChar c)

------------------------------------------------------------
-- Control Characters
------------------------------------------------------------

/- A column as far as the screen goes. -/
theorem WellFormed.min_lt_cols
    (hSession : session.WellFormed config cols rows)
    (col : Nat) :
    min col (session.cols - 1) < cols := by
  have hCols := hSession.cols_pos
  have hWidth := hSession.cols_eq
  omega

theorem WellFormed.tabForward
    (hSession : session.WellFormed config cols rows)
    (n : Nat) :
    (session.tabForward n).WellFormed config cols rows :=
  hSession.goto (hSession.min_lt_cols _) hSession.cursor_row

theorem WellFormed.tabBackward
    (hSession : session.WellFormed config cols rows)
    (n : Nat) :
    (session.tabBackward n).WellFormed config cols rows :=
  hSession.goto (hSession.min_lt_cols _) hSession.cursor_row

theorem WellFormed.setTabStop
    (hSession : session.WellFormed config cols rows)
    (on : Bool) :
    (session.setTabStop on).WellFormed config cols rows :=
  { hSession with
    tabStops_length :=
      List.length_set.trans hSession.tabStops_length }

theorem WellFormed.edits_showSubstitute
    (hSession : session.WellFormed config cols rows) :
    session.active.Edits
      ((session.active.breakWideAt session.cursor.col
        session.cursor.row).set session.cursor.col
          session.cursor.row (session.cursor.pen.cell '?'))
      (Grid.onRow session.cursor.row
        (·.overwrite session.cursor.col
          (session.cursor.pen.cell '?'))) := by
  have hActive := hSession.active
  exact
    Grid.edits_overwrite hActive.rectangular
      (hActive.cols_eq.symm ▸ hSession.cursor_col)
      (hActive.rows_eq.symm ▸ hSession.cursor_row) _

theorem WellFormed.showSubstitute
    (hSession : session.WellFormed config cols rows) :
    session.showSubstitute.WellFormed config cols rows := by
  unfold Session.showSubstitute
  apply hSession.modifyActive
  intro capacity hActive
  exact
    hSession.edits_showSubstitute.wellFormed_onRow hActive
      fun _ hLine =>
        hLine.overwrite hSession.cursor_col
          (Pen.isPlain_cell _ _)

theorem WellFormed.left
    (hSession : session.WellFormed config cols rows)
    (n : Nat) :
    (session.modifyCursor (·.left n)).WellFormed config cols
      rows :=
  hSession.modifyCursor
    (Nat.lt_of_le_of_lt (Nat.sub_le _ _) hSession.cursor_col)
    hSession.cursor_row

theorem WellFormed.shiftCharset
    (hSession : session.WellFormed config cols rows)
    (slot : Nat) :
    (session.shiftCharset slot).WellFormed config cols
      rows :=
  { hSession with }

theorem WellFormed.execute
    (hSession : session.WellFormed config cols rows)
    (c : Char) :
    (session.execute c).WellFormed config cols rows := by
  unfold Session.execute
  split
  · exact hSession.notify _
  · exact hSession.left 1
  · exact hSession.tabForward 1
  · exact hSession.newLine _
  · exact hSession.newLine _
  · exact hSession.newLine _
  · exact hSession.goto hSession.cols_pos hSession.cursor_row
  · exact hSession.shiftCharset 1
  · exact hSession.shiftCharset 0
  · exact hSession.showSubstitute
  · exact hSession.newLine false
  · exact hSession.newLine true
  · exact hSession.setTabStop true
  · exact hSession.reverseIndex
  · exact hSession.respond _
  · exact hSession

------------------------------------------------------------
-- Screens
------------------------------------------------------------

theorem WellFormed.useAlternate
    (hSession : session.WellFormed config cols rows) :
    session.useAlternate.WellFormed config cols rows := by
  unfold Session.useAlternate
  split
  · exact hSession
  · exact
      { hSession with
        primary := hSession.primary.setViewOffset 0
        alternate :=
          hSession.alternate.clear
            (isPlain_sessionBlank session) }

theorem WellFormed.usePrimary
    (hSession : session.WellFormed config cols rows) :
    session.usePrimary.WellFormed config cols rows := by
  unfold Session.usePrimary
  split
  · exact hSession
  · exact
      { hSession with
        primary := hSession.primary.markAllDirty }

theorem WellFormed.saveCursor
    (hSession : session.WellFormed config cols rows) :
    session.saveCursor.WellFormed config cols rows := by
  have hSaved :
      SavedWithin cols rows (some session.snapshot) := by
    intro saved hMem
    cases hMem
    exact ⟨hSession.cursor_col, hSession.cursor_row⟩
  unfold Session.saveCursor
  split
  · exact { hSession with savedPrimary := hSaved }
  · exact { hSession with savedAlternate := hSaved }

theorem WellFormed.restoreCursor
    (hSession : session.WellFormed config cols rows) :
    session.restoreCursor.WellFormed config cols rows := by
  apply WellFormed.moveTo
  exact { hSession with }

theorem WellFormed.reset
    (hSession : session.WellFormed config cols rows) :
    session.reset.WellFormed config cols rows := by
  have hFresh :=
    wellFormed_start hSession.cols_pos hSession.rows_pos
      config
  have hBlank := isPlain_configBlank config
  unfold Session.reset
  rw [hSession.cols_eq, hSession.rows_eq,
    hSession.config_eq]
  exact
    { hFresh with
      primary :=
        ((hSession.primary.clear hBlank).setViewOffset
          0).markAllDirty
      alternate := hSession.alternate.clear hBlank }

theorem length_resizeTabStops
    (tabStops : List Bool)
    (cols tabWidth : Nat) :
    (resizeTabStops tabStops cols tabWidth).length = cols := by
  unfold resizeTabStops
  simp only [List.length_append, List.length_take,
    List.length_map, List.length_range']
  omega

theorem WellFormed.resizeTo
    (hSession : session.WellFormed config cols rows)
    {cols' rows' : Nat}
    (hCols : 0 < cols')
    (hRows : 0 < rows') :
    (session.resizeTo cols' rows').WellFormed config cols'
      rows' := by
  have hBlank : session.config.blank.IsPlain :=
    isPlain_configBlank _
  have hClamped :
      ∀ saved,
        (clampSaved cols' rows' saved).col < cols' ∧
          (clampSaved cols' rows' saved).row < rows' := by
    intro saved
    simp only [clampSaved]
    omega
  unfold Session.resizeTo
  dsimp only
  apply WellFormed.notify
  exact
    { config_eq := hSession.config_eq
      cols_pos := hCols
      rows_pos := hRows
      primary := hSession.primary.resize _ _ _ _ hBlank
      alternate := hSession.alternate.resize _ _ _ _ hBlank
      cursor_col := by
        simp only
        omega
      cursor_row := by
        simp only
        omega
      savedPrimary := by
        intro saved hMem
        rcases Option.map_eq_some_iff.mp hMem with
          ⟨old, hOld, hEq⟩
        exact hEq ▸ hClamped _
      savedAlternate := by
        intro saved hMem
        rcases Option.map_eq_some_iff.mp hMem with
          ⟨old, hOld, hEq⟩
        exact hEq ▸ hClamped _
      region_le := Nat.zero_le _
      region_lt := Nat.sub_lt hRows Nat.one_pos
      tabStops_length := length_resizeTabStops _ _ _ }

------------------------------------------------------------
-- Modes
------------------------------------------------------------

theorem WellFormed.setPrivateMode?
    (hSession : session.WellFormed config cols rows)
    {mode : Nat}
    {on : Bool}
    {changed : Session}
    (hChanged : session.setPrivateMode? mode on = some changed) :
    changed.WellFormed config cols rows := by
  have hAlternate :
      (session.setAlternate on).WellFormed config cols
        rows := by
    unfold Session.setAlternate
    split
    · exact hSession.useAlternate
    · exact hSession.usePrimary
  have hWithCursor :
      (session.setAlternateWithCursor on).WellFormed config
        cols rows := by
    unfold Session.setAlternateWithCursor
    split
    · exact hSession.saveCursor.useAlternate
    · exact hSession.usePrimary.restoreCursor
    · exact hSession
  have hReverse :
      (session.setReverseVideo on).WellFormed config cols
        rows := by
    unfold Session.setReverseVideo
    split
    · exact hSession
    · apply (hSession.modifyModes _).modifyActive
      intro capacity hActive
      exact hActive.markAllDirty
  unfold Session.setPrivateMode? at hChanged
  split at hChanged
  all_goals cases hChanged
  · exact hSession.modifyModes _
  · exact hReverse
  · exact (hSession.modifyModes _).moveToOrigin 0 0
  · exact hSession.modifyModes _
  · exact { hSession with }
  · exact
      hSession.modifyCursor hSession.cursor_col
        hSession.cursor_row
  · exact hAlternate
  · exact hAlternate
  · exact { hSession with }
  · exact { hSession with }
  · exact { hSession with }
  · exact hSession.modifyModes _
  · exact { hSession with }
  · split
    · exact hSession.saveCursor
    · exact hSession.restoreCursor
  · exact hWithCursor
  · exact hSession.modifyModes _

theorem WellFormed.setMode
    (hSession : session.WellFormed config cols rows)
    (isPrivate on : Bool)
    (mode : Nat) :
    (session.setMode isPrivate on mode).WellFormed config
      cols rows := by
  unfold Session.setMode
  dsimp only
  split
  · exact hSession
  · rename_i changed hChanged
    apply WellFormed.notify
    split at hChanged
    · exact hSession.setPrivateMode? hChanged
    · unfold Session.setAnsiMode? at hChanged
      split at hChanged
      · cases hChanged
        exact hSession.modifyModes _
      · cases hChanged
        exact hSession.modifyModes _
      · cases hChanged

theorem WellFormed.setModes
    (hSession : session.WellFormed config cols rows)
    (isPrivate on : Bool)
    (params : Parameters) :
    (session.setModes isPrivate on params).WellFormed config
      cols rows := by
  unfold Session.setModes
  induction params.items.filterMap Parameter.value
    generalizing session with
  | nil => exact hSession
  | cons mode modes hRest =>
      exact hRest (hSession.setMode isPrivate on mode)

------------------------------------------------------------
-- Control Sequences
------------------------------------------------------------

theorem WellFormed.cursorUp
    (hSession : session.WellFormed config cols rows)
    (n : Nat) :
    (session.cursorUp n).WellFormed config cols rows := by
  have hRow := hSession.cursor_row
  have hTop := hSession.region_le
  have hBottom := hSession.region_lt
  apply hSession.goto hSession.cursor_col
  unfold upperLimit
  split
  · omega
  · omega

theorem WellFormed.cursorDown
    (hSession : session.WellFormed config cols rows)
    (n : Nat) :
    (session.cursorDown n).WellFormed config cols rows := by
  have hRows := hSession.rows_pos
  have hHeight := hSession.rows_eq
  have hBottom := hSession.region_lt
  apply hSession.goto hSession.cursor_col
  unfold lowerLimit
  split
  · omega
  · omega

theorem WellFormed.toFirstColumn
    (hSession : session.WellFormed config cols rows) :
    session.toFirstColumn.WellFormed config cols rows :=
  hSession.modifyCursor hSession.cols_pos
    hSession.cursor_row

theorem WellFormed.clearTabStops
    (hSession : session.WellFormed config cols rows)
    (param : Nat) :
    (session.clearTabStops param).WellFormed config cols
      rows := by
  unfold Session.clearTabStops
  split
  · exact hSession.setTabStop false
  · exact
      { hSession with
        tabStops_length :=
          List.length_replicate.trans
            hSession.tabStops_length }
  · exact hSession

theorem WellFormed.setCursorStyle
    (hSession : session.WellFormed config cols rows)
    (param : Nat) :
    (session.setCursorStyle param).WellFormed config cols
      rows := by
  unfold Session.setCursorStyle
  split
  · exact hSession
  · exact
      hSession.modifyCursor hSession.cursor_col
        hSession.cursor_row

theorem WellFormed.eraseDisplay
    (hSession : session.WellFormed config cols rows)
    (param : Nat) :
    (session.eraseDisplay param).WellFormed config cols
      rows := by
  unfold Session.eraseDisplay
  dsimp only
  split
  · split
    · exact (hSession.clearRegion _ _ _ _).clearRegion _ _ _ _
    · exact hSession.clearRegion _ _ _ _
  · apply WellFormed.clearRegion
    split
    · exact hSession.clearRegion _ _ _ _
    · exact hSession
  · exact hSession.clearRegion _ _ _ _
  · exact hSession.clearScrollback
  · exact hSession

theorem WellFormed.eraseLine
    (hSession : session.WellFormed config cols rows)
    (param : Nat) :
    (session.eraseLine param).WellFormed config cols
      rows := by
  unfold Session.eraseLine
  dsimp only
  split
  · exact hSession.clearRegion _ _ _ _
  · exact hSession.clearRegion _ _ _ _
  · exact hSession.clearRegion _ _ _ _
  · exact hSession

theorem WellFormed.scrollFromCursor
    (hSession : session.WellFormed config cols rows)
    (n : Nat)
    (direction : ScrollDirection) :
    (session.scrollFromCursor n direction).WellFormed config
      cols rows := by
  unfold Session.scrollFromCursor
  dsimp only
  split
  · exact hSession.scrollLines _ _ _ _
  · exact hSession

/-
  A change of the line of the cursor, which is where editing
  takes place.
-/
theorem WellFormed.editLine
    (hSession : session.WellFormed config cols rows)
    {change : Grid → Nat → Nat → Cell → Grid}
    {edit : Line → Line}
    (hEdits :
      session.active.Edits
        (change session.active session.cursor.col
          session.cursor.row session.blank)
        (Grid.onRow session.cursor.row edit))
    (hLines :
      ∀ line,
        line.WellFormed cols → (edit line).WellFormed cols) :
    (session.editLine change).WellFormed config cols rows := by
  unfold Session.editLine
  apply (hSession.dropSelectionIn _ _ _ _).modifyActive
  intro capacity hActive
  exact hEdits.wellFormed_onRow hActive hLines

theorem WellFormed.edits_insertChars
    (hSession : session.WellFormed config cols rows)
    (n : Nat) :
    session.active.Edits
      (session.active.insertBlanks session.cursor.col
        session.cursor.row n session.blank)
      (Grid.onRow session.cursor.row
        (·.insertBlanks session.cursor.col n
          session.blank)) := by
  have hActive := hSession.active
  exact
    Grid.edits_insertBlanks
      (hActive.cols_eq.symm ▸ hSession.cursor_col)
      (hActive.rows_eq.symm ▸ hSession.cursor_row) n _

theorem WellFormed.edits_deleteChars
    (hSession : session.WellFormed config cols rows)
    (n : Nat) :
    session.active.Edits
      (session.active.deleteCells session.cursor.col
        session.cursor.row n session.blank)
      (Grid.onRow session.cursor.row
        (·.deleteCells session.cursor.col n
          session.blank)) := by
  have hActive := hSession.active
  exact
    Grid.edits_deleteCells
      (hActive.cols_eq.symm ▸ hSession.cursor_col)
      (hActive.rows_eq.symm ▸ hSession.cursor_row) n _

theorem WellFormed.insertChars
    (hSession : session.WellFormed config cols rows)
    (n : Nat) :
    (session.insertChars n).WellFormed config cols rows :=
  hSession.editLine (hSession.edits_insertChars n)
    fun _ hLine =>
      hLine.insertBlanks hSession.cursor_col n
        (isPlain_sessionBlank session)

theorem WellFormed.deleteChars
    (hSession : session.WellFormed config cols rows)
    (n : Nat) :
    (session.deleteChars n).WellFormed config cols rows :=
  hSession.editLine (hSession.edits_deleteChars n)
    fun _ hLine =>
      hLine.deleteCells hSession.cursor_col n
        (isPlain_sessionBlank session)

theorem WellFormed.repeatLast
    [TextLibrary]
    (hSession : session.WellFormed config cols rows)
    (n : Nat) :
    (session.repeatLast n).WellFormed config cols rows := by
  unfold Session.repeatLast
  split
  · exact hSession
  · exact hSession.writeCharTimes _ n

theorem WellFormed.reportStatus
    (hSession : session.WellFormed config cols rows)
    (param : Nat) :
    (session.reportStatus param).WellFormed config cols
      rows := by
  unfold Session.reportStatus
  split
  · exact hSession.respond _
  · exact hSession.respond _
  · exact hSession

theorem WellFormed.reportIfZero
    (hSession : session.WellFormed config cols rows)
    (param : Nat)
    {report : Session → Session}
    (hReport :
      (report session).WellFormed config cols rows) :
    (session.reportIfZero param report).WellFormed config
      cols rows := by
  unfold Session.reportIfZero
  split
  · exact hReport
  · exact hSession

theorem WellFormed.perform
    [TextLibrary]
    (hSession : session.WellFormed config cols rows)
    (action : Action)
    (params : Parameters) :
    (session.perform action params).WellFormed config cols
      rows := by
  have hCols := hSession.cols_pos
  have hWidth := hSession.cols_eq
  have hCol := hSession.cursor_col
  unfold Session.perform
  dsimp only
  cases action with
  | insertChars => exact hSession.insertChars _
  | cursorUp => exact hSession.cursorUp _
  | cursorDown => exact hSession.cursorDown _
  | cursorForward =>
      exact
        hSession.goto (hSession.min_lt_cols _)
          hSession.cursor_row
  | cursorBack => exact hSession.left _
  | cursorNextLine =>
      exact (hSession.cursorDown _).toFirstColumn
  | cursorPrevLine =>
      exact (hSession.cursorUp _).toFirstColumn
  | cursorColumn =>
      exact
        hSession.goto (hSession.min_lt_cols _)
          hSession.cursor_row
  | cursorPosition => exact hSession.moveToOrigin _ _
  | tabForward => exact hSession.tabForward _
  | eraseDisplay => exact hSession.eraseDisplay _
  | eraseLine => exact hSession.eraseLine _
  | insertLines => exact hSession.scrollFromCursor _ _
  | deleteLines => exact hSession.scrollFromCursor _ _
  | deleteChars => exact hSession.deleteChars _
  | scrollUp => exact hSession.scrollLines _ _ _ _
  | scrollDown => exact hSession.scrollLines _ _ _ _
  | eraseChars => exact hSession.clearRegion _ _ _ _
  | tabBackward => exact hSession.tabBackward _
  | repeatChar => exact hSession.repeatLast _
  | deviceAttributes =>
      exact hSession.reportIfZero _ (hSession.respond _)
  | secondaryDeviceAttributes =>
      exact hSession.reportIfZero _ (hSession.respond _)
  | linePosition => exact hSession.moveToOrigin _ _
  | tabClear => exact hSession.clearTabStops _
  | setMode => exact hSession.setModes _ _ _
  | resetMode => exact hSession.setModes _ _ _
  | setPrivateMode => exact hSession.setModes _ _ _
  | resetPrivateMode => exact hSession.setModes _ _ _
  | selectRendition =>
      exact
        hSession.modifyCursor hSession.cursor_col
          hSession.cursor_row
  | deviceStatus => exact hSession.reportStatus _
  | setScrollRegion => exact hSession.setScrollRegion _ _
  | saveCursor => exact hSession.saveCursor
  | restoreCursor => exact hSession.restoreCursor
  | setCursorStyle => exact hSession.setCursorStyle _

------------------------------------------------------------
-- Escape Sequences and Strings
------------------------------------------------------------

/- The screen is filled, and the cursor stays for now. -/
def aligned
    (session : Session) : Session :=
  { session.modifyActive
      (·.fillWith 'E' session.config.blank) with
    selection := none
    regionTop := 0
    regionBottom := session.rows - 1
    modes := { session.modes with origin := false } }

theorem alignmentTest_eq
    (session : Session) :
    session.alignmentTest = session.aligned.moveTo 0 0 :=
  rfl

theorem WellFormed.filled
    (hSession : session.WellFormed config cols rows) :
    (session.modifyActive
      (·.fillWith 'E' session.config.blank)).WellFormed
      config cols rows := by
  apply hSession.modifyActive
  intro capacity hActive
  exact hActive.clear ⟨rfl, rfl, rfl⟩

theorem WellFormed.aligned
    (hSession : session.WellFormed config cols rows) :
    session.aligned.WellFormed config cols rows := by
  have hRows := hSession.rows_pos
  have hHeight := hSession.rows_eq
  exact
    { hSession.filled with
      region_le := Nat.zero_le _
      region_lt := by
        simp only [Session.aligned]
        omega }

theorem WellFormed.alignmentTest
    (hSession : session.WellFormed config cols rows) :
    session.alignmentTest.WellFormed config cols rows :=
  hSession.aligned.moveTo 0 0

theorem WellFormed.performEscape
    (hSession : session.WellFormed config cols rows)
    (intermediate : Option Char)
    (final : Char) :
    (session.performEscape intermediate final).WellFormed
      config cols rows := by
  unfold Session.performEscape
  split
  · unfold performPlainEscape
    split
    · exact hSession.saveCursor
    · exact hSession.restoreCursor
    · exact hSession.newLine false
    · exact hSession.newLine true
    · exact hSession.setTabStop true
    · exact hSession.reverseIndex
    · exact hSession.respond _
    · exact hSession.reset
    · exact hSession.modifyModes _
    · exact hSession.modifyModes _
    · exact hSession.shiftCharset 2
    · exact hSession.shiftCharset 3
    · exact hSession
  · split
    · exact hSession.alignmentTest
    · exact hSession
  · split
    · exact hSession
    · unfold designate
      split
      · exact hSession
      · exact { hSession with }

section

variable [TextLibrary]

/- A string reaches the window and the notices at most. -/
theorem performString_eq
    (session : Session)
    (kind : StringKind)
    (payload : String) :
    ∃ title iconName notices,
      session.performString kind payload =
        { session with
          title := title
          iconName := iconName
          notices := notices } := by
  unfold Session.performString
  split
  · unfold Session.performCommand
    split
    · exact ⟨_, _, _, rfl⟩
    · exact ⟨_, _, _, rfl⟩
    · exact ⟨_, _, _, rfl⟩
    · unfold setClipboard
      split
      · exact ⟨_, _, _, rfl⟩
      · dsimp only
        split
        · exact ⟨_, _, _, rfl⟩
        · split <;> exact ⟨_, _, _, rfl⟩
    · exact ⟨_, _, _, rfl⟩
  · exact ⟨_, _, _, rfl⟩
  · exact ⟨_, _, _, rfl⟩
  · exact ⟨_, _, _, rfl⟩
  · exact ⟨_, _, _, rfl⟩

theorem WellFormed.performString
    (hSession : session.WellFormed config cols rows)
    (kind : StringKind)
    (payload : String) :
    (session.performString kind payload).WellFormed config
      cols rows := by
  rcases performString_eq session kind payload with
    ⟨title, iconName, notices, hPerformed⟩
  rw [hPerformed]
  exact { hSession with }

/- Whatever the application sends, the session stays whole. -/
theorem WellFormed.handle
    (hSession : session.WellFormed config cols rows)
    (event : Event) :
    (session.handle event).WellFormed config cols rows := by
  unfold Session.handle
  cases event with
  | print c => exact hSession.writeChar c
  | execute c => exact hSession.execute c
  | escape intermediate final =>
      exact hSession.performEscape intermediate final
  | sequence action params =>
      exact hSession.perform action params
  | string kind payload =>
      exact hSession.performString kind payload

end

------------------------------------------------------------
-- On Behalf of the User
------------------------------------------------------------

theorem WellFormed.paste
    (hSession : session.WellFormed config cols rows)
    (text : String) :
    (session.paste text).WellFormed config cols rows := by
  unfold Session.paste
  apply WellFormed.respond
  apply hSession.modifyActive
  intro capacity hActive
  exact hActive.setViewOffset 0

theorem WellFormed.reportFocus
    (hSession : session.WellFormed config cols rows)
    (focused : Bool) :
    (session.reportFocus focused).WellFormed config cols
      rows := by
  unfold Session.reportFocus
  split
  · exact hSession.respond _
  · exact hSession

theorem WellFormed.reportMouse
    (hSession : session.WellFormed config cols rows)
    (event : MouseEvent) :
    (session.reportMouse event).1.WellFormed config cols
      rows := by
  unfold Session.reportMouse
  dsimp only
  split
  · exact { hSession with }
  · exact { hSession with }

theorem WellFormed.markClean
    (hSession : session.WellFormed config cols rows) :
    session.markClean.WellFormed config cols rows :=
  { hSession with
    primary := hSession.primary.markClean
    alternate := hSession.alternate.markClean }

end

end Session

end VideoTerminal
