import VideoTerminal.Proofs.Checked.Control
import VideoTerminal.Proofs.Checked.Grid
import VideoTerminal.Proofs.Session.WellFormed

/-
  Scrolling, writing and the control characters by operations
  that can fault.  They go by numbers of rows that are kept
  apart from the screens.  None of them faults in a
  well-formed session, both of whose screens have as many.

  Main declarations:
    * `Session.Heights`
    * `Session.WellFormed.scrollLinesChecked_eq`
    * `Session.WellFormed.clearRegionChecked_eq`
    * `Session.WellFormed.moveToChecked_eq`
    * `Session.WellFormed.writeCharChecked_eq`
    * `Session.WellFormed.tabForwardChecked_eq`
    * `Session.WellFormed.executeChecked_eq`
-/

namespace VideoTerminal

namespace Session

------------------------------------------------------------
-- The Screen in Use
------------------------------------------------------------

/-
  The number of rows that each screen is held to have.  It is
  kept apart from the lines of the screen, so that a row below
  that number may have no line.
-/
abbrev Heights : Type :=
  Screen → Nat

/- Both screens are held to have the same number of rows. -/
abbrev Heights.both
    (rows : Nat) : Heights :=
  fun _ => rows

/- Change the grid of the screen in use. -/
def modifyActiveChecked
    (session : Session)
    (change : Grid → Option Grid) : Option Session := do
  let grid ← change session.active
  return session.modifyActive fun _ => grid

theorem modifyActiveChecked_eq
    {session : Session}
    {change : Grid → Option Grid}
    {changed : Grid → Grid}
    (hChange :
      change session.active = some (changed session.active)) :
    session.modifyActiveChecked change =
      some (session.modifyActive changed) := by
  refine (Checked.bind_eq hChange).trans ?_
  unfold modifyActive active
  cases session.screen with
  | primary => rfl
  | alternate => rfl

theorem WellFormed.ring
    {config : Config}
    {cols rows : Nat}
    {session : Session}
    (hSession : session.WellFormed config cols rows) :
    session.active.scrollback.Aligned :=
  hSession.active.history.aligned

------------------------------------------------------------
-- Scrolling and Clearing
------------------------------------------------------------

/- Scroll rows of the scroll region. -/
def scrollLinesChecked
    (session : Session)
    (heights : Heights)
    (origin count : Nat)
    (direction : ScrollDirection)
    (retain : Bool) : Option Session := do
  let bottom := session.regionBottom
  if bottom < origin ∨ count = 0 then
    return session
  else
    let span ← Checked.sub bottom origin
    let count := min count (span + 1)
    let (grid, moved) ←
      session.active.scrollRegionChecked
        (heights session.screen) origin bottom count direction
        retain session.blank
    some
      { session.modifyActive fun _ => grid with
        selection := session.selection.bind fun selection =>
          followScroll selection grid moved origin bottom
            (scrollDelta direction count) session.screen }

/- Clear the rectangle between two opposite corners. -/
def clearRegionChecked
    (session : Session)
    (heights : Heights)
    (x₁ y₁ x₂ y₂ : Nat) : Option Session :=
  let dropped :=
    session.dropSelectionIn (min x₁ x₂) (min y₁ y₂)
      (max x₁ x₂) (max y₁ y₂)
  dropped.modifyActiveChecked
    (·.eraseRectChecked (heights session.screen) x₁ y₁ x₂ y₂
      session.blank)

section

variable {config : Config} {cols rows : Nat}
  {session : Session}
  (hSession : session.WellFormed config cols rows)

include hSession

theorem WellFormed.scrollLinesChecked_eq
    (origin count : Nat)
    (direction : ScrollDirection)
    (retain : Bool) :
    session.scrollLinesChecked (.both rows) origin count
        direction retain =
      some
        (session.scrollLines origin count direction
          retain) := by
  unfold scrollLinesChecked
  dsimp only
  split
  · rename_i hNone
    have hZero : session.scrollCount origin count = 0 := by
      unfold scrollCount
      omega
    rw [scrollLines_of_eq_zero hZero]
    rfl
  · rename_i hSome
    have hOrigin : origin ≤ session.regionBottom := by omega
    have hCount :
        min count (session.regionBottom - origin + 1) =
          session.scrollCount origin count := by
      unfold scrollCount
      omega
    have hMoves : session.scrollCount origin count ≠ 0 := by
      rw [← hCount]
      omega
    rw [Checked.sub_eq hOrigin]
    simp only [Option.bind_eq_bind, Option.bind_some]
    rw [hCount, scrollLines_of_ne_zero hMoves]
    exact
      Checked.bind_eq
        (Grid.scrollRegionChecked_eq hSession.ring
          hSession.active.rows_eq hSession.rows_pos _ _ _ _ _
          _)

theorem WellFormed.clearRegionChecked_eq
    (x₁ y₁ x₂ y₂ : Nat) :
    session.clearRegionChecked (.both rows) x₁ y₁ x₂ y₂ =
      some (session.clearRegion x₁ y₁ x₂ y₂) := by
  unfold clearRegionChecked Session.clearRegion
  apply modifyActiveChecked_eq
  exact
    hSession.active.rectangular.eraseRectChecked_eq
      hSession.active.rows_eq x₁ y₁ x₂ y₂ session.blank

end

------------------------------------------------------------
-- Cursor Positions
------------------------------------------------------------

/- The last column of the screens. -/
def lastColChecked
    (session : Session) : Option Nat :=
  Checked.sub session.cols 1

/- The last row of the screens. -/
def Heights.lastRowChecked
    (heights : Heights) : Option Nat :=
  Checked.sub (heights .primary) 1

/- The rows that the cursor can be moved to. -/
def rowLimitsChecked
    (session : Session)
    (heights : Heights) : Option (Nat × Nat) := do
  if session.modes.origin then
    return (session.regionTop, session.regionBottom)
  else
    let lastRow ← heights.lastRowChecked
    return (0, lastRow)

/- Move to a cell as far as the limits go. -/
def moveToChecked
    (session : Session)
    (heights : Heights)
    (col row : Nat) : Option Session := do
  let (minRow, maxRow) ← session.rowLimitsChecked heights
  let lastCol ← session.lastColChecked
  let row ← Checked.clamp row minRow maxRow
  return session.goto (min col lastCol) row

/- Move to a cell relative to the scroll region. -/
def moveToOriginChecked
    (session : Session)
    (heights : Heights)
    (col row : Nat) : Option Session :=
  let offset :=
    if session.modes.origin then session.regionTop else 0
  session.moveToChecked heights col (row + offset)

/- Confine scrolling, and move to the first cell. -/
def setScrollRegionChecked
    (session : Session)
    (heights : Heights)
    (top bottom : Nat) : Option Session := do
  let lastRow ← heights.lastRowChecked
  let top := min top lastRow
  let bottom := min bottom lastRow
  let confined : Session :=
    { session with
      regionTop := min top bottom
      regionBottom := max top bottom }
  confined.moveToOriginChecked heights 0 0

section

variable {config : Config} {cols rows : Nat}
  {session : Session}
  (hSession : session.WellFormed config cols rows)

include hSession

theorem WellFormed.lastColChecked_eq :
    session.lastColChecked = some (session.cols - 1) :=
  Checked.sub_eq (hSession.cols_eq.symm ▸ hSession.cols_pos)

theorem WellFormed.lastRowChecked_eq :
    (Heights.both rows).lastRowChecked =
      some (session.rows - 1) := by
  rw [hSession.rows_eq]
  exact Checked.sub_eq hSession.rows_pos

theorem WellFormed.moveToChecked_eq
    (col row : Nat) :
    session.moveToChecked (.both rows) col row =
      some (session.moveTo col row) := by
  have hLimits :
      session.rowLimitsChecked (.both rows) =
        some
          (if session.modes.origin then
            (session.regionTop, session.regionBottom)
          else
            (0, session.rows - 1)) := by
    unfold rowLimitsChecked
    rw [hSession.lastRowChecked_eq]
    exact (apply_ite some _ _ _).symm
  unfold moveToChecked Session.moveTo
  rw [hLimits, hSession.lastColChecked_eq]
  simp only [Option.bind_eq_bind, Option.bind_some]
  split
  · exact
      Checked.bind_eq
        (Checked.clamp_eq row hSession.region_le)
  · exact
      Checked.bind_eq
        (Checked.clamp_eq row (Nat.zero_le _))

theorem WellFormed.moveToOriginChecked_eq
    (col row : Nat) :
    session.moveToOriginChecked (.both rows) col row =
      some (session.moveToOrigin col row) :=
  hSession.moveToChecked_eq _ _

theorem WellFormed.setScrollRegionChecked_eq
    (top bottom : Nat) :
    session.setScrollRegionChecked (.both rows) top bottom =
      some (session.setScrollRegion top bottom) := by
  refine
    (Checked.bind_eq hSession.lastRowChecked_eq).trans ?_
  exact
    (hSession.confinedTo top bottom).moveToOriginChecked_eq
      0 0

end

------------------------------------------------------------
-- Lines
------------------------------------------------------------

/- Move to the next line. -/
def newLineChecked
    (session : Session)
    (heights : Heights)
    (toFirstColumn : Bool) : Option Session := do
  let row := session.cursor.row
  let col := if toFirstColumn then 0 else session.cursor.col
  if row = session.regionBottom then
    let scrolled ←
      session.scrollLinesChecked heights session.regionTop 1
        .up true
    return scrolled.goto col row
  else if row + 1 < heights .primary then
    return session.goto col (row + 1)
  else
    return session.goto col row

/- Move to the previous line. -/
def reverseIndexChecked
    (session : Session)
    (heights : Heights) : Option Session := do
  let row := session.cursor.row
  if row = session.regionTop then
    let scrolled ←
      session.scrollLinesChecked heights session.regionTop 1
        .down false
    return scrolled.modifyCursor
      ({ · with wrapPending := false })
  else
    return session.goto session.cursor.col (row - 1)

/- Mark the line as continued, and move to the next. -/
def softWrapChecked
    (session : Session)
    (heights : Heights) : Option Session := do
  let lastCol ← session.lastColChecked
  let marked ←
    session.modifyActiveChecked
      (·.modifyCellChecked (heights session.screen) lastCol
        session.cursor.row (·.setWrapped true))
  marked.newLineChecked heights true

section

variable {config : Config} {cols rows : Nat}
  {session : Session}
  (hSession : session.WellFormed config cols rows)

include hSession

theorem WellFormed.newLineChecked_eq
    (toFirstColumn : Bool) :
    session.newLineChecked (.both rows) toFirstColumn =
      some (session.newLine toFirstColumn) := by
  unfold newLineChecked Session.newLine
  rw [hSession.rows_eq]
  dsimp only
  split
  · exact
      Checked.bind_eq
        (hSession.scrollLinesChecked_eq _ _ _ _)
  · exact (apply_ite some _ _ _).symm

theorem WellFormed.reverseIndexChecked_eq :
    session.reverseIndexChecked (.both rows) =
      some session.reverseIndex := by
  unfold reverseIndexChecked Session.reverseIndex
  dsimp only
  split
  · exact
      Checked.bind_eq
        (hSession.scrollLinesChecked_eq _ _ _ _)
  · rfl

theorem WellFormed.softWrapChecked_eq :
    session.softWrapChecked (.both rows) =
      some session.softWrap := by
  have hMarked :
      session.modifyActiveChecked
          (·.modifyCellChecked rows (session.cols - 1)
            session.cursor.row (·.setWrapped true)) =
        some session.markWrapped :=
    modifyActiveChecked_eq
      (hSession.active.rectangular.modifyCellChecked_eq
        hSession.active.rows_eq _ _ _)
  refine
    (Checked.bind_eq hSession.lastColChecked_eq).trans ?_
  refine (Checked.bind_eq hMarked).trans ?_
  exact hSession.markWrapped.newLineChecked_eq true

end

------------------------------------------------------------
-- Characters
------------------------------------------------------------

/- Wrap the line if its last column has been written. -/
def wrapIfPendingChecked
    (session : Session)
    (heights : Heights) : Option Session :=
  if session.cursor.wrapPending ∧ session.modes.autoWrap then
    session.softWrapChecked heights
  else
    some session

/- Wrap the line, or move back, if a character does not fit. -/
def fitChecked
    (session : Session)
    (heights : Heights)
    (wraps : Bool)
    (width : Nat) : Option Session :=
  if session.cols < session.cursor.col + width then
    if wraps then
      session.softWrapChecked heights
    else
      some
        (session.modifyCursor
          ({ · with col := session.cols - width }))
  else
    some session

/- Make room on the line for a character. -/
def makeRoomChecked
    (session : Session)
    (heights : Heights)
    (width : Nat) : Option Session := do
  let ready ← session.wrapIfPendingChecked heights
  ready.fitChecked heights session.modes.autoWrap width

/- The cells at the cursor after a character has been put. -/
def putCharChecked
    (grid : Grid)
    (rows : Nat)
    (pen : Pen)
    (col row width : Nat)
    (c : Char) : Option Grid := do
  let broken ← grid.breakWideAtChecked rows col row
  if width = 2 ∧ col + 1 < grid.cols then
    let broken ← broken.breakWideAtChecked rows (col + 1) row
    let written ←
      broken.setChecked rows col row
        { pen.cell c with wide := true }
    written.setChecked rows (col + 1) row
      { pen.cell ' ' with placeholder := true }
  else
    broken.setChecked rows col row
      { pen.cell c with wide := width == 2 }

/- The last column that writing a character changes. -/
def lastWrittenChecked
    (session : Session)
    (width : Nat) : Option Nat :=
  if session.modes.insert then
    session.lastColChecked
  else
    Checked.sub (session.cursor.col + width) 1

/- Open a gap for a character in insert mode. -/
def openForChecked
    (session : Session)
    (heights : Heights)
    (width : Nat)
    (grid : Grid) : Option Grid :=
  let col := session.cursor.col
  if session.modes.insert ∧ col + width < session.cols then
    grid.insertBlanksChecked (heights session.screen) col
      session.cursor.row width session.blank
  else
    some grid

/- Put a character of the given width at the cursor. -/
def putAtCursorChecked
    (session : Session)
    (heights : Heights)
    (width : Nat)
    (c : Char) : Option Session := do
  let col := session.cursor.col
  let row := session.cursor.row
  let last ← session.lastWrittenChecked width
  let dropped := session.dropSelectionIn col row last row
  dropped.modifyActiveChecked fun grid => do
    let opened ← session.openForChecked heights width grid
    putCharChecked opened (heights session.screen)
      session.cursor.pen col row width c

/- Write a character. -/
def writeCharChecked
    [TextLibrary]
    (session : Session)
    (heights : Heights)
    (c : Char) : Option Session := do
  let c ← session.charsets.substituteChecked c
  match TextLibrary.displayWidth c with
  | none | some 0 => return session
  | some width =>
    if session.cols < width then
      return session
    else
      let roomy ← session.makeRoomChecked heights width
      let written ← roomy.putAtCursorChecked heights width c
      some ({ written with lastPrinted := some c }.advance width)

/- Write a character `n` times. -/
def writeCharTimesChecked
    [TextLibrary]
    (session : Session)
    (heights : Heights)
    (c : Char) :
    Nat → Option Session
  | 0 => some session
  | n + 1 => do
    let written ← session.writeCharChecked heights c
    written.writeCharTimesChecked heights c n

theorem putCharChecked_eq
    {grid : Grid}
    (hGrid : grid.Rectangular)
    {rows : Nat}
    (hRows : grid.rows = rows)
    (pen : Pen)
    (col row width : Nat)
    (c : Char) :
    putCharChecked grid rows pen col row width c =
      some (putChar grid pen col row width c) := by
  have hBroken := hGrid.breakWideAt col row
  have hBrokenRows :=
    (grid.rows_breakWideAt col row).trans hRows
  unfold putCharChecked putChar
  rw [hGrid.breakWideAtChecked_eq hRows]
  simp only [Option.bind_eq_bind, Option.bind_some]
  split
  · have hBoth := hBroken.breakWideAt (col + 1) row
    have hBothRows :=
      (Grid.rows_breakWideAt _ (col + 1) row).trans hBrokenRows
    rw [hBroken.breakWideAtChecked_eq hBrokenRows,
      Option.bind_some, hBoth.setChecked_eq hBothRows,
      Option.bind_some]
    exact
      (hBoth.set _ _ _).setChecked_eq
        ((Grid.rows_set _ _ _ _).trans hBothRows) _ _ _
  · exact hBroken.setChecked_eq hBrokenRows _ _ _

section

variable {config : Config} {cols rows : Nat}
  {session : Session}
  (hSession : session.WellFormed config cols rows)

include hSession

theorem WellFormed.wrapIfPendingChecked_eq :
    session.wrapIfPendingChecked (.both rows) =
      some session.wrapIfPending := by
  unfold wrapIfPendingChecked Session.wrapIfPending
  split
  · exact hSession.softWrapChecked_eq
  · rfl

theorem WellFormed.fitChecked_eq
    (wraps : Bool)
    (width : Nat) :
    session.fitChecked (.both rows) wraps width =
      some (session.fit wraps width) := by
  unfold fitChecked Session.fit
  split
  · split
    · exact hSession.softWrapChecked_eq
    · rfl
  · rfl

theorem WellFormed.makeRoomChecked_eq
    (width : Nat) :
    session.makeRoomChecked (.both rows) width =
      some (session.makeRoom width) := by
  rw [makeRoom_eq]
  refine
    (Checked.bind_eq hSession.wrapIfPendingChecked_eq).trans ?_
  exact hSession.wrapIfPending.fitChecked_eq _ _

/- A gap is opened only where a character has room. -/
theorem WellFormed.putAtCursorChecked_eq
    {width : Nat}
    (hSome : 0 < width)
    (c : Char) :
    session.putAtCursorChecked (.both rows) width c =
      some (session.putAtCursor width c) := by
  have hActive := hSession.active
  have hLast :
      session.lastWrittenChecked width =
        some
          (if session.modes.insert then
            session.cols - 1
          else
            session.cursor.col + width - 1) := by
    unfold lastWrittenChecked
    rw [hSession.lastColChecked_eq,
      Checked.sub_eq (by omega)]
    exact (apply_ite some _ _ _).symm
  refine (Checked.bind_eq hLast).trans ?_
  unfold Session.putAtCursor
  apply modifyActiveChecked_eq
  show
    (session.openForChecked (.both rows) width
      session.active).bind _ = _
  unfold openForChecked
  dsimp only
  split
  · rw [hActive.rectangular.insertBlanksChecked_eq
      hActive.rows_eq]
    have hOpened :=
      Grid.edits_insertBlanks
        (hActive.cols_eq.symm ▸ hSession.cursor_col)
        (hActive.rows_eq.symm ▸ hSession.cursor_row)
        width session.blank
    have hWellFormed :=
      hOpened.wellFormed_onRow hActive fun _ hLine =>
        hLine.insertBlanks hSession.cursor_col width
          (isPlain_sessionBlank session)
    exact
      putCharChecked_eq hWellFormed.rectangular
        hWellFormed.rows_eq _ _ _ _ _
  · exact
      putCharChecked_eq hActive.rectangular hActive.rows_eq
        _ _ _ _ _

theorem WellFormed.writeCharChecked_eq
    [TextLibrary]
    (c : Char) :
    session.writeCharChecked (.both rows) c =
      some (session.writeChar c) := by
  unfold writeCharChecked Session.writeChar
  rw [Charsets.substituteChecked_eq]
  simp only [Option.bind_eq_bind, Option.bind_some]
  cases
      TextLibrary.displayWidth
        (session.charsets.substitute c) with
  | none => rfl
  | some width =>
      cases width with
      | zero => rfl
      | succ n =>
          show
            (if session.cols < n + 1 then some session else _) =
              some
                (if session.cols < n + 1 then session else _)
          split
          · rfl
          · have hSome : 0 < n + 1 := Nat.succ_pos n
            rw [hSession.makeRoomChecked_eq, Option.bind_some,
              (hSession.makeRoom hSome).putAtCursorChecked_eq
                hSome]
            rfl

theorem WellFormed.writeCharTimesChecked_eq
    [TextLibrary]
    (c : Char)
    (n : Nat) :
    session.writeCharTimesChecked (.both rows) c n =
      some (session.writeCharTimes c n) := by
  induction n generalizing session with
  | zero => rfl
  | succ n hRest =>
      refine
        (Checked.bind_eq (hSession.writeCharChecked_eq c)).trans
          ?_
      exact hRest (hSession.writeChar c)

end

------------------------------------------------------------
-- Tab Stops
------------------------------------------------------------

/- The first column from one on with a tab stop. -/
def seekForwardChecked
    (tabStops : List Bool)
    (cols col : Nat) : Option Nat :=
  if col + 1 < cols then
    match Checked.get tabStops col with
    | none => none
    | some true => some col
    | some false => seekForwardChecked tabStops cols (col + 1)
  else
    some col
termination_by cols - col

/- The next column with a tab stop, or the last of all. -/
def nextTabStopChecked
    (tabStops : List Bool)
    (cols col : Nat) : Option Nat :=
  if col + 1 < cols then
    seekForwardChecked tabStops cols (col + 1)
  else
    some col

/- The last column up to one with a tab stop. -/
def seekBackChecked
    (tabStops : List Bool)
    (col : Nat) : Option Nat :=
  if 0 < col then
    match Checked.get tabStops col with
    | none => none
    | some true => some col
    | some false =>
      match _ : Checked.sub col 1 with
      | none => none
      | some before => seekBackChecked tabStops before
  else
    some col
termination_by col
decreasing_by
  unfold Checked.sub at *
  grind

/- The previous column with a tab stop, or the first of all. -/
def previousTabStopChecked
    (tabStops : List Bool)
    (col : Nat) : Option Nat := do
  if col = 0 then
    return col
  else
    let before ← Checked.sub col 1
    seekBackChecked tabStops before

/- Apply a function that can fault `n` times. -/
def iterateChecked
    (step : Nat → Option Nat) :
    Nat → Nat → Option Nat
  | 0, col => some col
  | n + 1, col => do
    let next ← step col
    iterateChecked step n next

/- Move forward by `n` tab stops. -/
def tabForwardChecked
    (session : Session)
    (n : Nat) : Option Session := do
  let col ←
    iterateChecked
      (nextTabStopChecked session.tabStops session.cols) n
      session.cursor.col
  let lastCol ← session.lastColChecked
  return session.goto (min col lastCol) session.cursor.row

/- Move back by `n` tab stops. -/
def tabBackwardChecked
    (session : Session)
    (n : Nat) : Option Session := do
  let col ←
    iterateChecked (previousTabStopChecked session.tabStops) n
      session.cursor.col
  let lastCol ← session.lastColChecked
  return session.goto (min col lastCol) session.cursor.row

theorem getChecked_tabStop_eq
    {tabStops : List Bool}
    {col : Nat}
    (hCol : col < tabStops.length) :
    Checked.get tabStops col =
      some (isTabStop tabStops col) := by
  unfold isTabStop
  rw [Checked.get_eq hCol, List.getElem?_eq_getElem hCol]
  rfl

theorem seekForwardChecked_eq
    {tabStops : List Bool}
    {cols col : Nat}
    (hStops : tabStops.length = cols)
    (hCol : col < cols) :
    seekForwardChecked tabStops cols col =
      some
        (((List.range' col (cols - 1 - col)).find?
          (isTabStop tabStops)).getD (cols - 1)) := by
  induction hLeft : cols - 1 - col generalizing col with
  | zero =>
      unfold seekForwardChecked
      rw [if_neg (by omega)]
      have hLast : cols - 1 = col := by omega
      rw [hLast]
      rfl
  | succ left hRest =>
      unfold seekForwardChecked
      rw [if_pos (by omega),
        getChecked_tabStop_eq (hStops.symm ▸ hCol),
        List.range'_succ, List.find?_cons]
      cases isTabStop tabStops col with
      | true => rfl
      | false => exact hRest (by omega) (by omega)

theorem seekBackChecked_eq
    {tabStops : List Bool}
    {col : Nat}
    (hCol : col < tabStops.length) :
    seekBackChecked tabStops col =
      some
        (((List.range' 1 col).reverse.find?
          (isTabStop tabStops)).getD 0) := by
  induction col with
  | zero =>
      unfold seekBackChecked
      rfl
  | succ col hRest =>
      unfold seekBackChecked
      rw [if_pos (Nat.succ_pos col),
        getChecked_tabStop_eq hCol, List.range'_concat,
        List.reverse_append, List.reverse_singleton,
        List.singleton_append, List.find?_cons, Nat.one_mul,
        Nat.add_comm 1 col]
      cases isTabStop tabStops (col + 1) with
      | true => rfl
      | false => exact hRest (Nat.lt_of_succ_lt hCol)

theorem nextTabStop_lt
    {cols col : Nat}
    (hCol : col < cols)
    (tabStops : List Bool) :
    nextTabStop tabStops cols col < cols := by
  unfold nextTabStop
  split
  · cases hFind :
        (List.range' (col + 1) (cols - 1 - (col + 1))).find?
          (isTabStop tabStops) with
    | none =>
        rw [Option.getD_none]
        omega
    | some stop =>
        have hMem := List.mem_of_find?_eq_some hFind
        rw [List.mem_range'_1] at hMem
        rw [Option.getD_some]
        omega
  · exact hCol

theorem previousTabStop_lt
    {cols col : Nat}
    (hCol : col < cols)
    (tabStops : List Bool) :
    previousTabStop tabStops col < cols := by
  unfold previousTabStop
  cases hFind :
      (List.range' 1 (col - 1)).reverse.find?
        (isTabStop tabStops) with
  | none =>
      rw [Option.getD_none]
      omega
  | some stop =>
      have hMem := List.mem_of_find?_eq_some hFind
      rw [List.mem_reverse, List.mem_range'_1] at hMem
      rw [Option.getD_some]
      omega

theorem nextTabStopChecked_eq
    {tabStops : List Bool}
    {cols : Nat}
    (hStops : tabStops.length = cols)
    (col : Nat) :
    nextTabStopChecked tabStops cols col =
      some (nextTabStop tabStops cols col) := by
  unfold nextTabStopChecked nextTabStop
  split
  · rename_i hInside
    exact seekForwardChecked_eq hStops hInside
  · rfl

theorem previousTabStopChecked_eq
    {tabStops : List Bool}
    {col : Nat}
    (hCol : col < tabStops.length) :
    previousTabStopChecked tabStops col =
      some (previousTabStop tabStops col) := by
  unfold previousTabStopChecked previousTabStop
  split
  · rename_i hFirst
    rw [hFirst]
    rfl
  · refine
      (Checked.bind_eq (Checked.sub_eq (by omega))).trans ?_
    exact seekBackChecked_eq (by omega)

/- A step that does not fault within bounds and stays there. -/
theorem iterateChecked_eq
    {stepChecked : Nat → Option Nat}
    {step : Nat → Nat}
    {cols : Nat}
    (hStep :
      ∀ col < cols, stepChecked col = some (step col))
    (hInside : ∀ col < cols, step col < cols)
    (n : Nat)
    {col : Nat}
    (hCol : col < cols) :
    iterateChecked stepChecked n col =
      some (iterate step n col) := by
  induction n generalizing col with
  | zero => rfl
  | succ n hRest =>
      refine (Checked.bind_eq (hStep col hCol)).trans ?_
      exact hRest (hInside col hCol)

section

variable {session : Session}
  (hStops : session.tabStops.length = session.cols)
  (hCol : session.cursor.col < session.cols)

include hStops hCol

theorem tabForwardChecked_eq
    (n : Nat) :
    session.tabForwardChecked n =
      some (session.tabForward n) := by
  refine
    (Checked.bind_eq
      (iterateChecked_eq
        (fun col _ => nextTabStopChecked_eq hStops col)
        (fun _ hInside =>
          nextTabStop_lt hInside session.tabStops)
        n hCol)).trans ?_
  exact Checked.bind_eq (Checked.sub_eq (by omega))

theorem tabBackwardChecked_eq
    (n : Nat) :
    session.tabBackwardChecked n =
      some (session.tabBackward n) := by
  have hInside :
      session.cursor.col < session.tabStops.length :=
    hStops.symm ▸ hCol
  refine
    (Checked.bind_eq
      (iterateChecked_eq
        (fun _ hInside => previousTabStopChecked_eq hInside)
        (fun _ hInside =>
          previousTabStop_lt hInside session.tabStops)
        n hInside)).trans ?_
  exact Checked.bind_eq (Checked.sub_eq (by omega))

end

section

variable {config : Config} {cols rows : Nat}
  {session : Session}
  (hSession : session.WellFormed config cols rows)

include hSession

theorem WellFormed.length_tabStops_eq :
    session.tabStops.length = session.cols := by
  rw [hSession.tabStops_length, hSession.cols_eq]

theorem WellFormed.cursor_col_lt :
    session.cursor.col < session.cols :=
  hSession.cols_eq.symm ▸ hSession.cursor_col

theorem WellFormed.tabForwardChecked_eq
    (n : Nat) :
    session.tabForwardChecked n =
      some (session.tabForward n) :=
  Session.tabForwardChecked_eq hSession.length_tabStops_eq
    hSession.cursor_col_lt n

theorem WellFormed.tabBackwardChecked_eq
    (n : Nat) :
    session.tabBackwardChecked n =
      some (session.tabBackward n) :=
  Session.tabBackwardChecked_eq hSession.length_tabStops_eq
    hSession.cursor_col_lt n

end

------------------------------------------------------------
-- Control Characters
------------------------------------------------------------

/- Show at the cursor that a sequence was cut off. -/
def showSubstituteChecked
    (session : Session)
    (heights : Heights) : Option Session :=
  let col := session.cursor.col
  let row := session.cursor.row
  session.modifyActiveChecked fun grid => do
    let rows := heights session.screen
    let broken ← grid.breakWideAtChecked rows col row
    broken.setChecked rows col row
      (session.cursor.pen.cell '?')

/-
  Act on a control character.  The others than those listed
  have no operation that can fault.
-/
def executeChecked
    (session : Session)
    (heights : Heights)
    (c : Char) : Option Session :=
  match c with
  | '\t' => session.tabForwardChecked 1
  | '\n' | '\x0B' | '\x0C' =>
    session.newLineChecked heights session.modes.newLine
  | '\x1A' => session.showSubstituteChecked heights
  | '\u0084' => session.newLineChecked heights false
  | '\u0085' => session.newLineChecked heights true
  | '\u008D' => session.reverseIndexChecked heights
  | _ => some (session.execute c)

section

variable {config : Config} {cols rows : Nat}
  {session : Session}
  (hSession : session.WellFormed config cols rows)

include hSession

theorem WellFormed.showSubstituteChecked_eq :
    session.showSubstituteChecked (.both rows) =
      some session.showSubstitute := by
  have hGrid := hSession.active.rectangular
  have hRows := hSession.active.rows_eq
  unfold showSubstituteChecked Session.showSubstitute
  apply modifyActiveChecked_eq
  refine
    (Checked.bind_eq
      (hGrid.breakWideAtChecked_eq hRows _ _)).trans ?_
  exact
    (hGrid.breakWideAt _ _).setChecked_eq
      ((Grid.rows_breakWideAt _ _ _).trans hRows) _ _ _

theorem WellFormed.executeChecked_eq
    (c : Char) :
    session.executeChecked (.both rows) c =
      some (session.execute c) := by
  unfold executeChecked
  split
  · exact hSession.tabForwardChecked_eq 1
  · exact hSession.newLineChecked_eq _
  · exact hSession.newLineChecked_eq _
  · exact hSession.newLineChecked_eq _
  · exact hSession.showSubstituteChecked_eq
  · exact hSession.newLineChecked_eq false
  · exact hSession.newLineChecked_eq true
  · exact hSession.reverseIndexChecked_eq
  · rfl

end

end Session

end VideoTerminal
