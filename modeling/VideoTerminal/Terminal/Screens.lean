import VideoTerminal.Terminal.Scroll

/-
  This file defines the switch between the two screens, the
  saving of the cursor, the reset, and the change of size.

  Key definitions include:
    * `Session.useAlternate`
    * `Session.usePrimary`
    * `Session.saveCursor`
    * `Session.restoreCursor`
    * `Session.reset`
    * `Session.resize`
-/

namespace VideoTerminal

namespace Session

------------------------------------------------------------
-- Switching
------------------------------------------------------------

/- Switch to the alternate screen and clear it. -/
def useAlternate
    (session : Session) : Session :=
  match session.screen with
  | .alternate => session
  | .primary =>
    { session with
      screen := .alternate
      primary := session.primary.resetView
      alternate := session.alternate.clear session.blank }

/- Switch back to the primary screen. -/
def usePrimary
    (session : Session) : Session :=
  match session.screen with
  | .primary => session
  | .alternate =>
    { session with
      screen := .primary
      primary := session.primary.markAllDirty }

------------------------------------------------------------
-- Saved Cursors
------------------------------------------------------------

/- What saving the cursor would keep now. -/
def snapshot
    (session : Session) : SavedCursor where
  col := session.cursor.col
  row := session.cursor.row
  pen := session.cursor.pen
  origin := session.modes.origin
  charsets := session.charsets

/- Save the cursor for the screen in use. -/
def saveCursor
    (session : Session) : Session :=
  match session.screen with
  | .primary =>
    { session with savedPrimary := some session.snapshot }
  | .alternate =>
    { session with savedAlternate := some session.snapshot }

/- What is restored where nothing has been saved. -/
def unsaved
    (session : Session) : SavedCursor where
  col := 0
  row := 0
  pen := session.config.pen
  origin := false
  charsets := .default

/- Restore the cursor saved for the screen in use. -/
def restoreCursor
    (session : Session) : Session :=
  let saved := session.saved.getD session.unsaved
  let restored :=
    { session with
      cursor := { session.cursor with pen := saved.pen }
      charsets := saved.charsets
      modes := { session.modes with origin := saved.origin } }
  restored.moveTo saved.col saved.row

------------------------------------------------------------
-- Reset
------------------------------------------------------------

/-
  Return to the state at the start.  The history, the title
  and what is on its way out are kept.
-/
def reset
    (session : Session) : Session :=
  let config := session.config
  let fresh := start session.cols session.rows config
  { fresh with
    primary :=
      (session.primary.clear
        config.blank).resetView.markAllDirty
    alternate := session.alternate.clear config.blank
    title := session.title
    iconName := session.iconName
    notices := session.notices
    outbox := session.outbox }

------------------------------------------------------------
-- Size
------------------------------------------------------------

/- Keep a saved cursor on a screen of the given size. -/
def clampSaved
    (cols rows : Nat)
    (saved : SavedCursor) : SavedCursor :=
  { saved with
    col := min saved.col (cols - 1)
    row := min saved.row (rows - 1) }

/- The tab stops after a change of width. -/
def resizeTabStops
    (tabStops : List Bool)
    (cols tabWidth : Nat) : List Bool :=
  let kept := tabStops.take cols
  kept ++ (List.range' kept.length (cols - kept.length)).map
    (isDefaultTabStop tabWidth)

/-
  The row of the primary screen that stays on it: that of the
  cursor while it is in use, and else that of the cursor saved
  for it or of its last text.
-/
def anchorRow
    (session : Session) : Nat :=
  match session.screen with
  | .primary => session.cursor.row
  | .alternate =>
    session.savedPrimary.elim session.primary.lastUsedRow
      SavedCursor.row

/-
  Change both screens and the cursors on them to a new size.
-/
def resizeTo
    (session : Session)
    (cols rows : Nat) : Session :=
  let blank := session.config.blank
  let row := session.cursor.row
  let (primary, shift) :=
    session.primary.resize cols rows session.anchorRow true
      blank
  let (alternate, alternateShift) :=
    session.alternate.resize cols rows row false blank
  let (cursorShift, savedShift) :=
    match session.screen with
    | .primary => (shift, 0)
    | .alternate => (alternateShift, shift)
  let resized : Session :=
    { session with
      primary := primary
      alternate := alternate
      cursor :=
        { session.cursor with
          col := min session.cursor.col (cols - 1)
          row := min (row - cursorShift) (rows - 1)
          wrapPending := false }
      savedPrimary :=
        session.savedPrimary.map fun saved =>
          clampSaved cols rows
            { saved with row := saved.row - savedShift }
      savedAlternate :=
        session.savedAlternate.map (clampSaved cols rows)
      tabStops :=
        resizeTabStops session.tabStops cols
          session.config.tabWidth
      regionTop := 0
      regionBottom := rows - 1
      selection := none }
  resized.notify (.resized cols rows)

/-
  Change the size.  There is nothing to do for the size that
  the screens already have.
-/
def resize
    (session : Session)
    (cols rows : Nat) : Except TerminalError Session :=
  if cols = 0 ∨ rows = 0 then
    .error (.invalidSize cols rows)
  else if cols = session.cols ∧ rows = session.rows then
    .ok session
  else
    .ok (session.resizeTo cols rows)

end Session

end VideoTerminal
