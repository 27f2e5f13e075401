import VideoTerminal.Proofs.Terminal.Reachable
import VideoTerminal.Text.Linked

/-
  A change of size loses nothing at or above the row that it
  is anchored to: what does not fit on the primary screen any
  more goes to the history, and the cursors keep to the lines
  that they are on.

  Main declarations:
    * `Session.Resized`
    * `Session.WellFormed.resized_resizeTo`
    * `Terminal.Reachable.perform_resize`
-/

namespace VideoTerminal

------------------------------------------------------------
-- The Anchor Row
------------------------------------------------------------

theorem Grid.lastUsedRow_lt
    {grid : Grid}
    (hSome : 0 < grid.rows) :
    grid.lastUsedRow < grid.rows := by
  unfold Grid.lastUsedRow
  dsimp only
  split
  · omega
  · exact hSome

namespace Session

theorem WellFormed.anchorRow_lt
    {config : Config}
    {cols rows : Nat}
    {session : Session}
    (hSession : session.WellFormed config cols rows) :
    session.anchorRow < rows := by
  unfold Session.anchorRow
  cases session.screen with
  | primary => exact hSession.cursor_row
  | alternate =>
      cases hSaved : session.savedPrimary with
      | some saved =>
          exact (hSession.savedPrimary saved hSaved).2
      | none =>
          have hRows := hSession.primary.rows_eq
          have hSome := hSession.rows_pos
          rw [← hRows] at hSome ⊢
          exact Grid.lastUsedRow_lt hSome

------------------------------------------------------------
-- Sessions of Another Size
------------------------------------------------------------

/-
  What becomes of a session whose size changes.  The lines
  that leave the primary screen at the top go to the history,
  those that leave the alternate screen are lost.
-/
structure Resized
    (cols rows : Nat)
    (session next : Session) : Prop where
  screen_eq : next.screen = session.screen
  primary :
    session.primary.Resized cols rows session.anchorRow
      session.config.blank next.primary
  history_eq :
    next.primary.scrollback.toList =
      ((session.primary.scrollback.toList ++
          session.primary.lines.take
            (session.anchorRow + 1 - rows)).map
        (Line.resize · cols session.config.blank)).rtake
          session.primary.scrollback.capacity
  alternate :
    session.alternate.Resized cols rows session.cursor.row
      session.config.blank next.alternate
  no_history : next.alternate.scrollback.toList = []
  cursor_row :
    next.cursor.row =
      session.cursor.row - (session.cursor.row + 1 - rows)
  cursor_col :
    next.cursor.col = min session.cursor.col (cols - 1)
  savedPrimary_row :
    session.screen = .alternate →
      next.savedPrimary.map SavedCursor.row =
        session.savedPrimary.map fun _ =>
          session.anchorRow - (session.anchorRow + 1 - rows)
  savedPrimary_col :
    next.savedPrimary.map SavedCursor.col =
      session.savedPrimary.map fun saved =>
        min saved.col (cols - 1)
  savedAlternate_col :
    next.savedAlternate.map SavedCursor.col =
      session.savedAlternate.map fun saved =>
        min saved.col (cols - 1)

/- The cursor moves up with the lines of its screen. -/
theorem row_resizeTo
    (session : Session)
    (cols rows : Nat) :
    (session.resizeTo cols rows).cursor.row =
      min
        (session.cursor.row -
          match session.screen with
          | .primary =>
            (session.primary.resize cols rows
              session.anchorRow true session.config.blank).2
          | .alternate =>
            (session.alternate.resize cols rows
              session.cursor.row false
              session.config.blank).2)
        (rows - 1) := by
  unfold Session.resizeTo
  cases session.screen with
  | primary => rfl
  | alternate => rfl

/- So does what is saved for a screen that is not in use. -/
theorem savedPrimary_resizeTo
    {session : Session}
    (hScreen : session.screen = .alternate)
    (cols rows : Nat) :
    (session.resizeTo cols rows).savedPrimary =
      session.savedPrimary.map fun saved =>
        clampSaved cols rows
          { saved with
            row :=
              saved.row -
                (session.primary.resize cols rows
                  session.anchorRow true
                  session.config.blank).2 } := by
  unfold Session.resizeTo
  rw [hScreen]
  rfl

theorem WellFormed.resized_resizeTo
    {config : Config}
    {cols rows : Nat}
    {session : Session}
    (hSession : session.WellFormed config cols rows)
    {cols' rows' : Nat}
    (hCols : 0 < cols')
    (hRows : 0 < rows') :
    session.Resized cols' rows'
      (session.resizeTo cols' rows') := by
  have hBlank := isPlain_configBlank session.config
  have hAnchor := hSession.anchorRow_lt
  have hNext := hSession.resizeTo hCols hRows
  have hShift :=
    hSession.primary.shift_resize hAnchor cols' rows' true
      hBlank
  have hAlternateShift :=
    hSession.alternate.shift_resize hSession.cursor_row cols'
      rows' false hBlank
  exact
    { screen_eq := rfl
      primary :=
        hSession.primary.resized_resize hAnchor cols' hRows
          true hBlank
      history_eq := by
        rw [hSession.primary.capacity_eq]
        exact
          hSession.primary.toList_resize hAnchor cols' rows'
            hBlank
      alternate :=
        hSession.alternate.resized_resize hSession.cursor_row
          cols' hRows false hBlank
      no_history := by
        rw [Scrollback.toList_eq_reverse_retained]
        apply List.reverse_eq_nil_iff.mpr
        apply List.eq_nil_of_length_eq_zero
        rw [hNext.alternate.history.length_retained]
        exact hNext.alternate.size_eq_zero
      cursor_row := by
        rw [row_resizeTo]
        cases hScreen : session.screen with
        | primary =>
            have hCursor :
                session.anchorRow = session.cursor.row := by
              unfold Session.anchorRow
              rw [hScreen]
            dsimp only
            omega
        | alternate =>
            dsimp only
            omega
      cursor_col := rfl
      savedPrimary_row := by
        intro hScreen
        rw [savedPrimary_resizeTo hScreen, Option.map_map]
        cases hSaved : session.savedPrimary with
        | none => rfl
        | some saved =>
            have hRow : session.anchorRow = saved.row := by
              unfold Session.anchorRow
              rw [hScreen, hSaved]
              rfl
            have hRoom :
                min (saved.row - (saved.row + 1 - rows'))
                    (rows' - 1) =
                  saved.row - (saved.row + 1 - rows') := by
              omega
            rw [hShift, hRow]
            exact congrArg some hRoom
      savedPrimary_col := Option.map_map _ _ _
      savedAlternate_col := Option.map_map _ _ _ }

end Session

namespace Terminal

------------------------------------------------------------
-- Terminals of Another Size
------------------------------------------------------------

/-
  A change to a size without columns or rows is refused and
  changes nothing.  A change to another size than the present
  one keeps the lines down to the anchor row.
-/
theorem Reachable.perform_resize
    [TextLibrary]
    {terminal : Terminal}
    (hTerminal : Reachable terminal)
    (cols rows : Nat) :
    (cols = 0 ∨ rows = 0 →
      terminal.perform (.resize cols rows) =
        (terminal, .refused (.invalidSize cols rows))) ∧
    (0 < cols → 0 < rows →
      ¬(cols = terminal.session.cols ∧
        rows = terminal.session.rows) →
      ∃ next,
        terminal.session.Resized cols rows next ∧
          terminal.perform (.resize cols rows) =
            ({ terminal with session := next }, .none)) := by
  rcases hTerminal.wellFormed with
    ⟨config, cols', rows', hWellFormed⟩
  refine ⟨?_, ?_⟩
  · intro hZero
    have hRefused :
        terminal.session.resize cols rows =
          .error (.invalidSize cols rows) := by
      unfold Session.resize
      rw [if_pos hZero]
    unfold Terminal.perform
    dsimp only
    rw [hRefused]
  · intro hCols hRows hOther
    have hAccepted :
        terminal.session.resize cols rows =
          .ok (terminal.session.resizeTo cols rows) := by
      unfold Session.resize
      rw [if_neg (by omega), if_neg hOther]
    refine
      ⟨terminal.session.resizeTo cols rows,
        hWellFormed.session.resized_resizeTo hCols hRows, ?_⟩
    unfold Terminal.perform
    dsimp only
    rw [hAccepted]

/- A small terminal whose history has room for one line. -/
def withOneLine : Terminal :=
  start 4 3 { Config.default with scrollbackLines := 1 }

theorem reachable_withOneLine :
    Reachable withOneLine :=
  have hCreated :
      create 4 3
          { Config.default with scrollbackLines := 1 } =
        .ok withOneLine :=
    rfl
  .create hCreated

/-
  Five lines of text, the last of them a prompt whose cursor
  is saved, and text on the alternate screen.
-/
def promptAndAlternate : List Operation :=
  [.process (Utf8.ofString "a\r\nb\r\nc\r\nd\r\n$ x"),
    .saveCursor, .useAlternate,
    .process (Utf8.ofString "\r\u001B[Hone\r\ntwo")]

/- The prompt stays, and the line above it is kept as well. -/
theorem perform_resize_withOneLine :
    ∃ next,
      (withOneLine.performAll
            promptAndAlternate).session.Resized 3 1 next ∧
        (withOneLine.performAll promptAndAlternate).perform
            (.resize 3 1) =
          ({ withOneLine.performAll promptAndAlternate with
              session := next },
            .none) :=
  have hCreated :
      create 4 3
          { Config.default with scrollbackLines := 1 } =
        .ok withOneLine :=
    rfl
  ((Reachable.perform_resize
    ((Reachable.create hCreated).performAll
      promptAndAlternate) 3 1).2
    (by decide) (by decide) (by decide +kernel))

end Terminal

end VideoTerminal
