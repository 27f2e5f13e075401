import VideoTerminal.Proofs.Checked.Writing
import VideoTerminal.Terminal.ModeSetting

/-
  Saved cursors, modes, the reset and changes of size by
  operations that can fault.  None of them does in a
  well-formed session whose tab stops have some distance.

  Main declarations:
    * `Session.WellFormed.restoreCursorChecked_eq`
    * `Session.WellFormed.setModesChecked_eq`
    * `Session.startChecked_eq`
    * `Session.WellFormed.resetChecked_eq`
    * `Session.WellFormed.resizeToChecked_eq`
-/

namespace VideoTerminal

namespace Session

------------------------------------------------------------
-- Saved Cursors
------------------------------------------------------------

/- The place of a screen's saved cursor among the two. -/
def savedPlace :
    Screen → Nat
  | .primary => 0
  | .alternate => 1

/- The cursor saved for the screen in use. -/
def savedChecked
    (session : Session) : Option (Option SavedCursor) :=
  Checked.get [session.savedPrimary, session.savedAlternate]
    (savedPlace session.screen)

/- Save the cursor in its place, which has to exist. -/
def saveCursorChecked
    (session : Session) : Option Session := do
  let _ ← session.savedChecked
  return session.saveCursor

/- Restore the cursor saved for the screen in use. -/
def restoreCursorChecked
    (session : Session)
    (heights : Heights) : Option Session := do
  let saved? ← session.savedChecked
  let saved := saved?.getD session.unsaved
  let restored : Session :=
    { session with
      cursor := { session.cursor with pen := saved.pen }
      charsets := saved.charsets
      modes := { session.modes with origin := saved.origin } }
  restored.moveToChecked heights saved.col saved.row

theorem savedChecked_eq
    (session : Session) :
    session.savedChecked = some session.saved := by
  unfold savedChecked saved
  cases session.screen with
  | primary => rfl
  | alternate => rfl

theorem saveCursorChecked_eq
    (session : Session) :
    session.saveCursorChecked = some session.saveCursor :=
  Checked.bind_eq session.savedChecked_eq

theorem WellFormed.restoreCursorChecked_eq
    {config : Config}
    {cols rows : Nat}
    {session : Session}
    (hSession : session.WellFormed config cols rows) :
    session.restoreCursorChecked (.both rows) =
      some session.restoreCursor := by
  refine (Checked.bind_eq session.savedChecked_eq).trans ?_
  apply WellFormed.moveToChecked_eq
  exact { hSession with }

------------------------------------------------------------
-- Modes
------------------------------------------------------------

/- Start or end origin mode. -/
def setOriginChecked
    (session : Session)
    (heights : Heights)
    (on : Bool) : Option Session :=
  (session.modifyModes
    ({ · with origin := on })).moveToOriginChecked heights 0 0

/- Save or restore the cursor. -/
def setSavedChecked
    (session : Session)
    (heights : Heights)
    (on : Bool) : Option Session :=
  if on then
    session.saveCursorChecked
  else
    session.restoreCursorChecked heights

/- Use the alternate screen with a cursor of its own. -/
def setAlternateWithCursorChecked
    (session : Session)
    (heights : Heights)
    (on : Bool) : Option Session := do
  match session.screen, on with
  | .primary, true =>
    let saved ← session.saveCursorChecked
    return saved.useAlternate
  | .alternate, false =>
    session.usePrimary.restoreCursorChecked heights
  | _, _ => return session

/-
  Set or reset a private mode.  The others than those listed
  have no operation that can fault.
-/
def setPrivateModeChecked
    (session : Session)
    (heights : Heights)
    (mode : Nat)
    (on : Bool) : Option (Option Session) :=
  match mode with
  | 6 => (session.setOriginChecked heights on).map some
  | 1048 => (session.setSavedChecked heights on).map some
  | 1049 =>
    (session.setAlternateWithCursorChecked heights on).map
      some
  | _ => some (session.setPrivateMode? mode on)

/- The session after a mode has been set, if it is known. -/
def changedByModeChecked
    (session : Session)
    (heights : Heights)
    (isPrivate on : Bool)
    (mode : Nat) : Option (Option Session) :=
  if isPrivate then
    session.setPrivateModeChecked heights mode on
  else
    some (session.setAnsiMode? mode on)

/- Set or reset a mode.  A known one is told about. -/
def setModeChecked
    (session : Session)
    (heights : Heights)
    (isPrivate on : Bool)
    (mode : Nat) : Option Session := do
  match ←
    session.changedByModeChecked heights isPrivate on mode with
  | none => return session
  | some changed =>
    return changed.notify (.modeChanged mode isPrivate on)

/- Set or reset the mode that a parameter gives, if any. -/
def setModeAtChecked
    (heights : Heights)
    (params : Parameters)
    (isPrivate on : Bool)
    (session : Session)
    (index : Nat) : Option Session := do
  match ← params.getChecked index with
  | none => return session
  | some mode => session.setModeChecked heights isPrivate on mode

/- Set or reset the modes that the parameters list. -/
def setModesChecked
    (session : Session)
    (heights : Heights)
    (isPrivate on : Bool)
    (params : Parameters) : Option Session :=
  (List.range params.length).foldlM
    (setModeAtChecked heights params isPrivate on) session

section

variable {config : Config} {cols rows : Nat}
  {session : Session}
  (hSession : session.WellFormed config cols rows)

include hSession

theorem WellFormed.setAlternateWithCursorChecked_eq
    (on : Bool) :
    session.setAlternateWithCursorChecked (.both rows) on =
      some (session.setAlternateWithCursor on) := by
  unfold setAlternateWithCursorChecked setAlternateWithCursor
  cases session.screen with
  | primary =>
      cases on with
      | true =>
          exact Checked.bind_eq session.saveCursorChecked_eq
      | false => rfl
  | alternate =>
      cases on with
      | true => rfl
      | false =>
          exact hSession.usePrimary.restoreCursorChecked_eq

theorem WellFormed.setPrivateModeChecked_eq
    (mode : Nat)
    (on : Bool) :
    session.setPrivateModeChecked (.both rows) mode on =
      some (session.setPrivateMode? mode on) := by
  unfold setPrivateModeChecked
  split
  · exact
      congrArg (Option.map some)
        ((hSession.modifyModes _).moveToOriginChecked_eq 0 0)
  · unfold setSavedChecked
    rw [saveCursorChecked_eq,
      hSession.restoreCursorChecked_eq]
    cases on with
    | true => rfl
    | false => rfl
  · rw [hSession.setAlternateWithCursorChecked_eq]
    rfl
  · rfl

theorem WellFormed.setModeChecked_eq
    (isPrivate on : Bool)
    (mode : Nat) :
    session.setModeChecked (.both rows) isPrivate on mode =
      some (session.setMode isPrivate on mode) := by
  have hChanged :
      session.changedByModeChecked (.both rows) isPrivate on
          mode =
        some
          (if isPrivate then
            session.setPrivateMode? mode on
          else
            session.setAnsiMode? mode on) := by
    unfold changedByModeChecked
    rw [hSession.setPrivateModeChecked_eq]
    exact (apply_ite some _ _ _).symm
  refine (Checked.bind_eq hChanged).trans ?_
  unfold Session.setMode
  generalize
    (if isPrivate then
      session.setPrivateMode? mode on
    else
      session.setAnsiMode? mode on) = changed?
  cases changed? with
  | none => rfl
  | some changed => rfl

/- The values of parameters, read by their indices. -/
omit hSession in
theorem filterMap_get?_range
    (params : Parameters) :
    (List.range params.length).filterMap params.get? =
      params.items.filterMap Parameter.value := by
  unfold Parameters.items
  rw [List.filterMap_map]
  rfl

theorem WellFormed.setModesChecked_eq
    (params : Parameters)
    (isPrivate on : Bool) :
    session.setModesChecked (.both rows) isPrivate on params =
      some (session.setModes isPrivate on params) := by
  unfold setModesChecked Session.setModes
  rw [← filterMap_get?_range, List.foldl_filterMap]
  apply
    Checked.foldlM_eq (Session.WellFormed config cols rows)
  · intro state index hState
    refine
      (Checked.bind_eq (params.getChecked_eq index)).trans ?_
    cases params.get? index with
    | none => rfl
    | some mode => exact hState.setModeChecked_eq _ _ mode
  · intro state index hState
    cases params.get? index with
    | none => exact hState
    | some mode => exact hState.setMode _ _ mode
  · exact hSession

end

------------------------------------------------------------
-- Tab Stops
------------------------------------------------------------

/- A column has a tab stop at first. -/
def isDefaultTabStopChecked
    (tabWidth col : Nat) : Option Bool := do
  if 0 < col then
    let rest ← Checked.rem col tabWidth
    return rest == 0
  else
    return false

/- The tab stops that a screen has at first. -/
def defaultTabStopsChecked
    (cols tabWidth : Nat) : Option (List Bool) :=
  (List.range cols).mapM (isDefaultTabStopChecked tabWidth)

/- The tab stops after a change of width. -/
def resizeTabStopsChecked
    (tabStops : List Bool)
    (cols tabWidth : Nat) : Option (List Bool) := do
  let kept := tabStops.take cols
  let added ←
    (List.range' kept.length (cols - kept.length)).mapM
      (isDefaultTabStopChecked tabWidth)
  return kept ++ added

section

variable {tabWidth : Nat}
  (hWidth : 0 < tabWidth)

include hWidth

theorem isDefaultTabStopChecked_eq
    (col : Nat) :
    isDefaultTabStopChecked tabWidth col =
      some (isDefaultTabStop tabWidth col) := by
  unfold isDefaultTabStopChecked isDefaultTabStop
  rw [Checked.rem_eq col hWidth]
  split
  · rename_i hCol
    simp only [hCol, true_and]
    rfl
  · rename_i hCol
    simp only [hCol, false_and]
    rfl

theorem defaultTabStopsChecked_eq
    (cols : Nat) :
    defaultTabStopsChecked cols tabWidth =
      some (defaultTabStops cols tabWidth) :=
  Checked.mapM_eq fun col _ =>
    isDefaultTabStopChecked_eq hWidth col

theorem resizeTabStopsChecked_eq
    (tabStops : List Bool)
    (cols : Nat) :
    resizeTabStopsChecked tabStops cols tabWidth =
      some (resizeTabStops tabStops cols tabWidth) :=
  Checked.bind_eq
    (Checked.mapM_eq fun col _ =>
      isDefaultTabStopChecked_eq hWidth col)

end

------------------------------------------------------------
-- Start and Reset
------------------------------------------------------------

/- A session with blank screens, and their numbers of rows. -/
def startChecked
    (cols rows : Nat)
    (config : Config) : Option (Heights × Session) := do
  let lastRow ← Checked.sub rows 1
  let tabStops ← defaultTabStopsChecked cols config.tabWidth
  some
    (.both rows,
      { start cols rows config with
        regionBottom := lastRow
        tabStops := tabStops })

/- Return to the state at the start. -/
def resetChecked
    (session : Session)
    (heights : Heights) : Option Session := do
  let lastRow ← heights.lastRowChecked
  let tabStops ←
    defaultTabStopsChecked session.cols
      session.config.tabWidth
  some
    { session.reset with
      regionBottom := lastRow
      tabStops := tabStops }

theorem startChecked_eq
    {rows : Nat}
    (hRows : 0 < rows)
    {config : Config}
    (hWidth : 0 < config.tabWidth)
    (cols : Nat) :
    startChecked cols rows config =
      some (.both rows, start cols rows config) := by
  refine (Checked.bind_eq (Checked.sub_eq hRows)).trans ?_
  exact
    Checked.bind_eq (defaultTabStopsChecked_eq hWidth cols)

theorem WellFormed.resetChecked_eq
    {config : Config}
    {cols rows : Nat}
    {session : Session}
    (hSession : session.WellFormed config cols rows)
    (hWidth : 0 < config.tabWidth) :
    session.resetChecked (.both rows) =
      some session.reset := by
  have hTabs : 0 < session.config.tabWidth :=
    hSession.config_eq.symm ▸ hWidth
  refine
    (Checked.bind_eq hSession.lastRowChecked_eq).trans ?_
  exact
    Checked.bind_eq
      (defaultTabStopsChecked_eq hTabs session.cols)

------------------------------------------------------------
-- Size
------------------------------------------------------------

/- Keep a saved cursor above a column and a row. -/
def limitSaved
    (lastCol lastRow : Nat)
    (saved : SavedCursor) : SavedCursor :=
  { saved with
    col := min saved.col lastCol
    row := min saved.row lastRow }

/-
  Keep the cursors on screens that have a new size.  A screen
  comes with the number of its lines that were dropped.
-/
def fitToChecked
    (session : Session)
    (cols rows : Nat)
    (primary alternate : Grid × Nat) : Option Session := do
  let (cursorShift, savedShift) :=
    match session.screen with
    | .primary => (primary.2, 0)
    | .alternate => (alternate.2, primary.2)
  let row ← Checked.sub session.cursor.row cursorShift
  let lastCol ← Checked.sub cols 1
  let lastRow ← Checked.sub rows 1
  let tabStops ←
    resizeTabStopsChecked session.tabStops cols
      session.config.tabWidth
  let resized : Session :=
    { session with
      primary := primary.1
      alternate := alternate.1
      cursor :=
        { session.cursor with
          col := min session.cursor.col lastCol
          row := min row lastRow
          wrapPending := false }
      savedPrimary :=
        session.savedPrimary.map fun saved =>
          limitSaved lastCol lastRow
            { saved with row := saved.row - savedShift }
      savedAlternate :=
        session.savedAlternate.map (limitSaved lastCol lastRow)
      tabStops := tabStops
      regionTop := 0
      regionBottom := lastRow
      selection := none }
  return resized.notify (.resized cols rows)

/-
  Change both screens and the cursors on them.  Both screens
  are held to have the new number of rows from then on.
-/
def resizeToChecked
    (session : Session)
    (cols rows : Nat) : Option (Heights × Session) := do
  let blank := session.config.blank
  let primary ←
    session.primary.resizeChecked cols rows session.anchorRow
      true blank
  let alternate ←
    session.alternate.resizeChecked cols rows
      session.cursor.row false blank
  let resized ←
    session.fitToChecked cols rows primary alternate
  return (.both rows, resized)

/- Change the size, unless a dimension is zero. -/
def resizeChecked
    (session : Session)
    (heights : Heights)
    (cols rows : Nat) :
    Option (Except TerminalError (Heights × Session)) := do
  if cols = 0 ∨ rows = 0 then
    return .error (.invalidSize cols rows)
  else if cols = session.cols ∧ rows = heights .primary then
    return .ok (heights, session)
  else
    let resized ← session.resizeToChecked cols rows
    return .ok resized

section

variable {config : Config} {cols rows : Nat}
  {session : Session}
  (hSession : session.WellFormed config cols rows)
  (hWidth : 0 < config.tabWidth)

include hSession hWidth

/- The cursor's row is not above the lines that are dropped. -/
omit hWidth in
theorem WellFormed.shift_le_row
    (cols' : Nat)
    {rows' : Nat}
    (hRows : 0 < rows') :
    (match session.screen with
      | .primary =>
        (session.primary.resize cols' rows' session.anchorRow
          true session.config.blank).2
      | .alternate =>
        (session.alternate.resize cols' rows'
          session.cursor.row false
          session.config.blank).2) ≤
      session.cursor.row := by
  have hBlank := isPlain_configBlank session.config
  have hRow := hSession.cursor_row
  cases hScreen : session.screen with
  | primary =>
      have hAnchor : session.anchorRow = session.cursor.row := by
        unfold anchorRow
        rw [hScreen]
      dsimp only
      rw [hAnchor,
        hSession.primary.shift_resize hRow _ _ _ hBlank]
      omega
  | alternate =>
      dsimp only
      rw [hSession.alternate.shift_resize hRow _ _ _ hBlank]
      omega

theorem WellFormed.fitToChecked_eq
    {cols' rows' : Nat}
    (hCols : 0 < cols')
    (hRows : 0 < rows') :
    session.fitToChecked cols' rows'
        (session.primary.resize cols' rows' session.anchorRow
          true session.config.blank)
        (session.alternate.resize cols' rows'
          session.cursor.row false session.config.blank) =
      some (session.resizeTo cols' rows') := by
  have hTabs : 0 < session.config.tabWidth :=
    hSession.config_eq.symm ▸ hWidth
  have hShift := hSession.shift_le_row cols' hRows
  unfold Session.resizeTo fitToChecked
  dsimp only
  generalize
    session.primary.resize cols' rows' session.anchorRow true
      session.config.blank = primary at hShift ⊢
  generalize
    session.alternate.resize cols' rows' session.cursor.row
      false session.config.blank = alternate at hShift ⊢
  rw [Checked.sub_eq hCols, Checked.sub_eq hRows,
    resizeTabStopsChecked_eq hTabs]
  cases hScreen : session.screen with
  | primary =>
      rw [hScreen] at hShift
      exact Checked.bind_eq (Checked.sub_eq hShift)
  | alternate =>
      rw [hScreen] at hShift
      exact Checked.bind_eq (Checked.sub_eq hShift)

theorem WellFormed.resizeToChecked_eq
    {cols' rows' : Nat}
    (hCols : 0 < cols')
    (hRows : 0 < rows') :
    session.resizeToChecked cols' rows' =
      some
        (.both rows', session.resizeTo cols' rows') := by
  refine
    (Checked.bind_eq
      (Grid.resizeChecked_eq
        hSession.primary.history.aligned _ _ _ _ _)).trans ?_
  refine
    (Checked.bind_eq
      (Grid.resizeChecked_eq
        hSession.alternate.history.aligned _ _ _ _ _)).trans ?_
  exact
    Checked.bind_eq
      (hSession.fitToChecked_eq hWidth hCols hRows)

/-
  Unless the size is refused, both screens have as many rows
  as they are held to have from then on.
-/
theorem WellFormed.resizeChecked_eq
    (cols' rows' : Nat) :
    session.resizeChecked (.both rows) cols' rows' =
      some
        ((session.resize cols' rows').map
          (Heights.both rows', ·)) := by
  unfold resizeChecked Session.resize
  rw [hSession.rows_eq]
  split
  · rfl
  · rename_i hSome
    split
    · rename_i hSame
      rw [hSame.2]
      rfl
    · exact
        Checked.bind_eq
          (hSession.resizeToChecked_eq hWidth
            (by omega) (by omega))

end

end Session

end VideoTerminal
