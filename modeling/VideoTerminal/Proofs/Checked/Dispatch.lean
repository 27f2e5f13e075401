import VideoTerminal.Proofs.Checked.Rendition
import VideoTerminal.Proofs.Checked.Screens
import VideoTerminal.Terminal.Dispatch

/-
  What a session does on the events of the parser by
  operations that can fault.  None of them does in a
  well-formed session, on an event whose parameters have room.

  Main declarations:
    * `Session.WellFormed.eraseDisplayChecked_eq`
    * `Session.WellFormed.performChecked_eq`
    * `Session.WellFormed.performEscapeChecked_eq`
    * `Session.WellFormed.handleChecked_eq`
-/

namespace VideoTerminal

namespace Session

------------------------------------------------------------
-- Cursor Movement
------------------------------------------------------------

/- The row that a movement down stops at. -/
def lowerLimitChecked
    (session : Session)
    (heights : Heights) : Option Nat :=
  if session.cursor.row ≤ session.regionBottom then
    some session.regionBottom
  else
    heights.lastRowChecked

/- Move right by `n` columns. -/
def cursorForwardChecked
    (session : Session)
    (n : Nat) : Option Session := do
  let lastCol ← session.lastColChecked
  return session.modifyCursor (·.right n lastCol)

/- Move to a column, which counts from one. -/
def toColumnChecked
    (session : Session)
    (n : Nat) : Option Session := do
  let col ← Checked.sub n 1
  let lastCol ← session.lastColChecked
  return session.goto (min col lastCol) session.cursor.row

/- Move to a row, which counts from one. -/
def toRowChecked
    (session : Session)
    (heights : Heights)
    (n : Nat) : Option Session := do
  let row ← Checked.sub n 1
  session.moveToOriginChecked heights session.cursor.col row

/- Move to a row and a column, which count from one. -/
def toPositionChecked
    (session : Session)
    (heights : Heights)
    (params : Parameters)
    (n : Nat) : Option Session := do
  let row ← Checked.sub n 1
  let count ← params.countChecked 1
  let col ← Checked.sub count 1
  session.moveToOriginChecked heights col row

/- Confine scrolling to the rows that two parameters give. -/
def setRegionByParamsChecked
    (session : Session)
    (heights : Heights)
    (params : Parameters)
    (n : Nat) : Option Session := do
  let top ← Checked.sub n 1
  let value? ← params.getChecked 1
  let count := (value?.filter (· ≠ 0)).getD (heights .primary)
  let bottom ← Checked.sub count 1
  session.setScrollRegionChecked heights top bottom

theorem count_pos
    (params : Parameters)
    (index : Nat) :
    1 ≤ params.count index := by
  rw [params.count_eq]
  exact Nat.le_max_left _ _

section

variable {config : Config} {cols rows : Nat}
  {session : Session}
  (hSession : session.WellFormed config cols rows)

include hSession

theorem WellFormed.lowerLimitChecked_eq :
    session.lowerLimitChecked (.both rows) =
      some session.lowerLimit := by
  unfold lowerLimitChecked
  rw [hSession.lastRowChecked_eq]
  exact (apply_ite some _ _ _).symm

theorem WellFormed.toColumnChecked_eq
    {n : Nat}
    (hSome : 1 ≤ n) :
    session.toColumnChecked n =
      some
        (session.goto (min (n - 1) (session.cols - 1))
          session.cursor.row) := by
  refine (Checked.bind_eq (Checked.sub_eq hSome)).trans ?_
  exact Checked.bind_eq hSession.lastColChecked_eq

theorem WellFormed.toRowChecked_eq
    {n : Nat}
    (hSome : 1 ≤ n) :
    session.toRowChecked (.both rows) n =
      some
        (session.moveToOrigin session.cursor.col (n - 1)) := by
  refine (Checked.bind_eq (Checked.sub_eq hSome)).trans ?_
  exact hSession.moveToOriginChecked_eq _ _

theorem WellFormed.toPositionChecked_eq
    (params : Parameters)
    {n : Nat}
    (hSome : 1 ≤ n) :
    session.toPositionChecked (.both rows) params n =
      some
        (session.moveToOrigin (params.count 1 - 1)
          (n - 1)) := by
  refine (Checked.bind_eq (Checked.sub_eq hSome)).trans ?_
  refine (Checked.bind_eq (params.countChecked_eq 1)).trans ?_
  refine
    (Checked.bind_eq
      (Checked.sub_eq (count_pos params 1))).trans ?_
  exact hSession.moveToOriginChecked_eq _ _

theorem WellFormed.setRegionByParamsChecked_eq
    (params : Parameters) :
    session.setRegionByParamsChecked (.both rows) params
        (params.count 0) =
      some (session.setRegionByParams params) := by
  have hRows : 1 ≤ rows := hSession.rows_pos
  refine
    (Checked.bind_eq
      (Checked.sub_eq (count_pos params 0))).trans ?_
  refine (Checked.bind_eq (params.getChecked_eq 1)).trans ?_
  unfold setRegionByParams
  rw [hSession.rows_eq]
  cases params.get? 1 with
  | none =>
      refine (Checked.bind_eq (Checked.sub_eq hRows)).trans ?_
      exact hSession.setScrollRegionChecked_eq _ _
  | some count =>
      cases count with
      | zero =>
          refine
            (Checked.bind_eq (Checked.sub_eq hRows)).trans ?_
          exact hSession.setScrollRegionChecked_eq _ _
      | succ n =>
          refine
            (Checked.bind_eq
              (Checked.sub_eq (Nat.succ_pos n))).trans ?_
          exact hSession.setScrollRegionChecked_eq _ _

end

------------------------------------------------------------
-- Erasing
------------------------------------------------------------

/- Erase the rows above one, if there are any. -/
def eraseAboveChecked
    (session : Session)
    (heights : Heights)
    (lastCol row : Nat) : Option Session := do
  if 0 < row then
    let last ← Checked.sub row 1
    session.clearRegionChecked heights 0 0 lastCol last
  else
    return session

/-
  Erase the part of the screen that a parameter selects.  The
  values that are not listed cannot fault.
-/
def eraseDisplayChecked
    (session : Session)
    (heights : Heights)
    (param : Nat) : Option Session := do
  let col := session.cursor.col
  let row := session.cursor.row
  let lastCol ← session.lastColChecked
  let lastRow ← heights.lastRowChecked
  match param with
  | 0 =>
    let erased ←
      session.clearRegionChecked heights col row lastCol row
    if row + 1 < heights .primary then
      erased.clearRegionChecked heights 0 (row + 1) lastCol
        lastRow
    else
      return erased
  | 1 =>
    let above ← session.eraseAboveChecked heights lastCol row
    above.clearRegionChecked heights 0 row col row
  | 2 => session.clearRegionChecked heights 0 0 lastCol lastRow
  | _ => return session.eraseDisplay param

/-
  Erase the part of the line that a parameter selects.  The
  values that are not listed cannot fault.
-/
def eraseLineChecked
    (session : Session)
    (heights : Heights)
    (param : Nat) : Option Session := do
  let col := session.cursor.col
  let row := session.cursor.row
  let lastCol ← session.lastColChecked
  match param with
  | 0 => session.clearRegionChecked heights col row lastCol row
  | 1 => session.clearRegionChecked heights 0 row col row
  | 2 => session.clearRegionChecked heights 0 row lastCol row
  | _ => return session.eraseLine param

/- Erase `n` cells from the cursor on. -/
def eraseCharsChecked
    (session : Session)
    (heights : Heights)
    (n : Nat) : Option Session := do
  let col := session.cursor.col
  let row := session.cursor.row
  let others ← Checked.sub n 1
  let lastCol ← session.lastColChecked
  session.clearRegionChecked heights col row
    (min (col + others) lastCol) row

section

variable {config : Config} {cols rows : Nat}
  {session : Session}
  (hSession : session.WellFormed config cols rows)

include hSession

theorem WellFormed.eraseAboveChecked_eq
    (lastCol row : Nat) :
    session.eraseAboveChecked (.both rows) lastCol row =
      some
        (if 0 < row then
          session.clearRegion 0 0 lastCol (row - 1)
        else
          session) := by
  unfold eraseAboveChecked
  split
  · rename_i hAbove
    refine (Checked.bind_eq (Checked.sub_eq hAbove)).trans ?_
    exact hSession.clearRegionChecked_eq _ _ _ _
  · rfl

theorem WellFormed.eraseDisplayChecked_eq
    (param : Nat) :
    session.eraseDisplayChecked (.both rows) param =
      some (session.eraseDisplay param) := by
  refine
    (Checked.bind_eq hSession.lastColChecked_eq).trans ?_
  refine
    (Checked.bind_eq hSession.lastRowChecked_eq).trans ?_
  split
  · have hErased :=
      hSession.clearRegion session.cursor.col
        session.cursor.row (session.cols - 1)
        session.cursor.row
    refine
      (Checked.bind_eq
        (hSession.clearRegionChecked_eq _ _ _ _)).trans ?_
    unfold Session.eraseDisplay
    rw [hSession.rows_eq]
    dsimp only
    split
    · exact hErased.clearRegionChecked_eq _ _ _ _
    · rfl
  · refine
      (Checked.bind_eq
        (hSession.eraseAboveChecked_eq _ _)).trans ?_
    apply WellFormed.clearRegionChecked_eq
    split
    · exact hSession.clearRegion _ _ _ _
    · exact hSession
  · exact hSession.clearRegionChecked_eq _ _ _ _
  · rfl

theorem WellFormed.eraseLineChecked_eq
    (param : Nat) :
    session.eraseLineChecked (.both rows) param =
      some (session.eraseLine param) := by
  refine
    (Checked.bind_eq hSession.lastColChecked_eq).trans ?_
  split
  · exact hSession.clearRegionChecked_eq _ _ _ _
  · exact hSession.clearRegionChecked_eq _ _ _ _
  · exact hSession.clearRegionChecked_eq _ _ _ _
  · rfl

theorem WellFormed.eraseCharsChecked_eq
    {n : Nat}
    (hSome : 1 ≤ n) :
    session.eraseCharsChecked (.both rows) n =
      some (session.eraseChars n) := by
  refine (Checked.bind_eq (Checked.sub_eq hSome)).trans ?_
  refine
    (Checked.bind_eq hSession.lastColChecked_eq).trans ?_
  exact hSession.clearRegionChecked_eq _ _ _ _

end

------------------------------------------------------------
-- Editing
------------------------------------------------------------

/- Scroll the lines from the cursor to the region's bottom. -/
def scrollFromCursorChecked
    (session : Session)
    (heights : Heights)
    (n : Nat)
    (direction : ScrollDirection) : Option Session :=
  let row := session.cursor.row
  if session.regionTop ≤ row ∧ row ≤ session.regionBottom then
    session.scrollLinesChecked heights row n direction false
  else
    some session

/- Change the line of the cursor from its column on. -/
def editLineChecked
    (session : Session)
    (change : Grid → Nat → Nat → Cell → Option Grid) :
    Option Session := do
  let col := session.cursor.col
  let row := session.cursor.row
  let lastCol ← session.lastColChecked
  (session.dropSelectionIn col row lastCol
    row).modifyActiveChecked (change · col row session.blank)

/- Insert `n` blanks at the cursor. -/
def insertCharsChecked
    (session : Session)
    (heights : Heights)
    (n : Nat) : Option Session :=
  session.editLineChecked fun grid col row blank =>
    grid.insertBlanksChecked (heights session.screen) col row n
      blank

/- Delete `n` characters at the cursor. -/
def deleteCharsChecked
    (session : Session)
    (heights : Heights)
    (n : Nat) : Option Session :=
  session.editLineChecked fun grid col row blank =>
    grid.deleteCellsChecked (heights session.screen) col row n
      blank

/- Write the last character `n` more times. -/
def repeatLastChecked
    [TextLibrary]
    (session : Session)
    (heights : Heights)
    (n : Nat) : Option Session :=
  match session.lastPrinted with
  | none => some session
  | some c => session.writeCharTimesChecked heights c n

/- Choose colours and attributes for the pen. -/
def selectRenditionChecked
    (session : Session)
    (params : Parameters) : Option Session := do
  let pen ←
    session.cursor.pen.selectChecked session.config params
  return session.modifyCursor ({ · with pen := pen })

section

variable {config : Config} {cols rows : Nat}
  {session : Session}
  (hSession : session.WellFormed config cols rows)

include hSession

theorem WellFormed.scrollFromCursorChecked_eq
    (n : Nat)
    (direction : ScrollDirection) :
    session.scrollFromCursorChecked (.both rows) n direction =
      some (session.scrollFromCursor n direction) := by
  unfold scrollFromCursorChecked Session.scrollFromCursor
  dsimp only
  split
  · exact hSession.scrollLinesChecked_eq _ _ _ _
  · rfl

theorem WellFormed.insertCharsChecked_eq
    (n : Nat) :
    session.insertCharsChecked (.both rows) n =
      some (session.insertChars n) := by
  refine
    (Checked.bind_eq hSession.lastColChecked_eq).trans ?_
  unfold Session.insertChars Session.editLine
  apply modifyActiveChecked_eq
  exact
    hSession.active.rectangular.insertBlanksChecked_eq
      hSession.active.rows_eq _ _ _ _

theorem WellFormed.deleteCharsChecked_eq
    (n : Nat) :
    session.deleteCharsChecked (.both rows) n =
      some (session.deleteChars n) := by
  refine
    (Checked.bind_eq hSession.lastColChecked_eq).trans ?_
  unfold Session.deleteChars Session.editLine
  apply modifyActiveChecked_eq
  exact
    hSession.active.rectangular.deleteCellsChecked_eq
      hSession.active.rows_eq _ _ _ _

theorem WellFormed.repeatLastChecked_eq
    [TextLibrary]
    (n : Nat) :
    session.repeatLastChecked (.both rows) n =
      some (session.repeatLast n) := by
  unfold repeatLastChecked Session.repeatLast
  cases session.lastPrinted with
  | none => rfl
  | some c => exact hSession.writeCharTimesChecked_eq c n

end

------------------------------------------------------------
-- Control Sequences
------------------------------------------------------------

section

variable [TextLibrary]

/-
  Do what a control sequence asks for.  The lower limit is
  found at once, whether or not the cursor is to move.  The
  actions that are not listed have no further operation that
  can fault.
-/
def performChecked
    (session : Session)
    (heights : Heights)
    (action : Action)
    (params : Parameters) : Option Session := do
  let n ← params.countChecked 0
  let param ← params.getDChecked 0 0
  let limit ← session.lowerLimitChecked heights
  match action with
  | .insertChars => session.insertCharsChecked heights n
  | .cursorDown =>
    return session.modifyCursor (·.down n limit)
  | .cursorForward => session.cursorForwardChecked n
  | .cursorNextLine =>
    return (session.modifyCursor
      (·.down n limit)).toFirstColumn
  | .cursorColumn => session.toColumnChecked n
  | .cursorPosition =>
    session.toPositionChecked heights params n
  | .tabForward => session.tabForwardChecked n
  | .eraseDisplay => session.eraseDisplayChecked heights param
  | .eraseLine => session.eraseLineChecked heights param
  | .insertLines =>
    session.scrollFromCursorChecked heights n .down
  | .deleteLines =>
    session.scrollFromCursorChecked heights n .up
  | .deleteChars => session.deleteCharsChecked heights n
  | .scrollUp =>
    session.scrollLinesChecked heights session.regionTop n .up
      false
  | .scrollDown =>
    session.scrollLinesChecked heights session.regionTop n
      .down false
  | .eraseChars => session.eraseCharsChecked heights n
  | .tabBackward => session.tabBackwardChecked n
  | .repeatChar => session.repeatLastChecked heights n
  | .linePosition => session.toRowChecked heights n
  | .setMode =>
    session.setModesChecked heights false true params
  | .resetMode =>
    session.setModesChecked heights false false params
  | .setPrivateMode =>
    session.setModesChecked heights true true params
  | .resetPrivateMode =>
    session.setModesChecked heights true false params
  | .selectRendition => session.selectRenditionChecked params
  | .setScrollRegion =>
    session.setRegionByParamsChecked heights params n
  | .saveCursor => session.saveCursorChecked
  | .restoreCursor => session.restoreCursorChecked heights
  | _ => return session.perform action params

theorem WellFormed.performChecked_eq
    {config : Config}
    {cols rows : Nat}
    {session : Session}
    (hSession : session.WellFormed config cols rows)
    (params : Parameters)
    (action : Action) :
    session.performChecked (.both rows) action params =
      some (session.perform action params) := by
  have hCount := count_pos params 0
  refine (Checked.bind_eq (params.countChecked_eq 0)).trans ?_
  refine
    (Checked.bind_eq (params.getDChecked_eq 0 0)).trans ?_
  refine
    (Checked.bind_eq hSession.lowerLimitChecked_eq).trans ?_
  cases action with
  | insertChars => exact hSession.insertCharsChecked_eq _
  | cursorForward =>
      exact Checked.bind_eq hSession.lastColChecked_eq
  | cursorColumn => exact hSession.toColumnChecked_eq hCount
  | cursorPosition =>
      exact hSession.toPositionChecked_eq params hCount
  | tabForward => exact hSession.tabForwardChecked_eq _
  | eraseDisplay => exact hSession.eraseDisplayChecked_eq _
  | eraseLine => exact hSession.eraseLineChecked_eq _
  | insertLines =>
      exact hSession.scrollFromCursorChecked_eq _ _
  | deleteLines =>
      exact hSession.scrollFromCursorChecked_eq _ _
  | deleteChars => exact hSession.deleteCharsChecked_eq _
  | scrollUp => exact hSession.scrollLinesChecked_eq _ _ _ _
  | scrollDown => exact hSession.scrollLinesChecked_eq _ _ _ _
  | eraseChars => exact hSession.eraseCharsChecked_eq hCount
  | tabBackward => exact hSession.tabBackwardChecked_eq _
  | repeatChar => exact hSession.repeatLastChecked_eq _
  | linePosition => exact hSession.toRowChecked_eq hCount
  | setMode => exact hSession.setModesChecked_eq params _ _
  | resetMode => exact hSession.setModesChecked_eq params _ _
  | setPrivateMode =>
      exact hSession.setModesChecked_eq params _ _
  | resetPrivateMode =>
      exact hSession.setModesChecked_eq params _ _
  | selectRendition =>
      exact Checked.bind_eq (Pen.selectChecked_eq _ _)
  | setScrollRegion =>
      exact hSession.setRegionByParamsChecked_eq params
  | saveCursor => exact session.saveCursorChecked_eq
  | restoreCursor => exact hSession.restoreCursorChecked_eq
  | _ => rfl

------------------------------------------------------------
-- Escape Sequences
------------------------------------------------------------

/- Fill the screen for its alignment. -/
def alignmentTestChecked
    (session : Session)
    (heights : Heights) : Option Session := do
  let lastRow ← heights.lastRowChecked
  { session.aligned with
    regionBottom := lastRow }.moveToChecked heights 0 0

/-
  Do what an escape sequence asks for.  Those that are not
  listed have no operation that can fault.
-/
def performEscapeChecked
    (session : Session)
    (heights : Heights)
    (intermediate : Option Char)
    (final : Char) : Option Session :=
  match intermediate, final with
  | none, '7' => session.saveCursorChecked
  | none, '8' => session.restoreCursorChecked heights
  | none, 'D' => session.newLineChecked heights false
  | none, 'E' => session.newLineChecked heights true
  | none, 'M' => session.reverseIndexChecked heights
  | none, 'c' => session.resetChecked heights
  | some '#', '8' => session.alignmentTestChecked heights
  | _, _ => some (session.performEscape intermediate final)

------------------------------------------------------------
-- Events
------------------------------------------------------------

/- Act on an event of the parser.  A string cannot fault. -/
def handleChecked
    (session : Session)
    (heights : Heights) :
    Event → Option Session
  | .print c => session.writeCharChecked heights c
  | .execute c => session.executeChecked heights c
  | .escape intermediate final =>
    session.performEscapeChecked heights intermediate final
  | .sequence action params =>
    session.performChecked heights action params
  | .string kind payload =>
    some (session.performString kind payload)

end

section

variable {config : Config} {cols rows : Nat}
  {session : Session}
  (hSession : session.WellFormed config cols rows)
  (hWidth : 0 < config.tabWidth)

include hSession hWidth

omit hWidth in
theorem WellFormed.alignmentTestChecked_eq :
    session.alignmentTestChecked (.both rows) =
      some session.alignmentTest := by
  refine
    (Checked.bind_eq hSession.lastRowChecked_eq).trans ?_
  exact hSession.aligned.moveToChecked_eq 0 0

theorem WellFormed.performEscapeChecked_eq
    (intermediate : Option Char)
    (final : Char) :
    session.performEscapeChecked (.both rows) intermediate
        final =
      some (session.performEscape intermediate final) := by
  unfold performEscapeChecked
  split
  · exact session.saveCursorChecked_eq
  · exact hSession.restoreCursorChecked_eq
  · exact hSession.newLineChecked_eq false
  · exact hSession.newLineChecked_eq true
  · exact hSession.reverseIndexChecked_eq
  · exact hSession.resetChecked_eq hWidth
  · exact hSession.alignmentTestChecked_eq
  · rfl

/- Whatever the application sends, no operation faults. -/
theorem WellFormed.handleChecked_eq
    [TextLibrary]
    (event : Event) :
    session.handleChecked (.both rows) event =
      some (session.handle event) := by
  cases event with
  | print c => exact hSession.writeCharChecked_eq c
  | execute c => exact hSession.executeChecked_eq c
  | escape intermediate final =>
      exact
        hSession.performEscapeChecked_eq hWidth intermediate
          final
  | sequence action params =>
      exact hSession.performChecked_eq params action
  | string kind payload => rfl

end

end Session

end VideoTerminal
