import VideoTerminal.Proofs.Terminal.Evolves
import VideoTerminal.Text.Linked

/-
  The rows that an embedder draws anew are enough: whatever is
  done with a terminal, a row in view that shows another line
  than before is among the changed rows, until these are
  marked as unchanged.

  Main declarations:
    * `Session.Evolves.flags`
    * `Terminal.WellFormed.flags_perform`
    * `Terminal.WellFormed.flags_performAll`
    * `Terminal.Reachable.dirty_of_changed`
-/

namespace VideoTerminal

namespace Grid

------------------------------------------------------------
-- Changed Rows
------------------------------------------------------------

theorem mem_dirtyRows
    (grid : Grid)
    (y : Nat) :
    y ∈ grid.dirtyRows ↔ grid.isDirty y := by
  unfold dirtyRows
  rw [List.mem_filter, List.mem_range]
  constructor
  · exact And.right
  · intro hDirty
    refine ⟨?_, hDirty⟩
    unfold isDirty at hDirty
    grind

/- Every row of a whole screen shows some line. -/
theorem WellFormed.exists_visibleLine?
    {cols rows capacity : Nat}
    {grid : Grid}
    (hGrid : grid.WellFormed cols rows capacity)
    {y : Nat}
    (hRow : y < grid.rows) :
    ∃ line, grid.visibleLine? y = some line := by
  have hView := hGrid.view_le
  unfold visibleLine?
  rw [if_neg (Nat.not_le.mpr hRow)]
  split
  · exact
      hGrid.history.aligned.exists_get?_eq_some (by omega)
  · apply hGrid.exists_line?_eq_some
    rw [hGrid.rows_eq] at hRow
    omega

/- A row that has changed is marked if changes are flagged. -/
theorem Flags.isDirty
    {cols rows capacity : Nat}
    {grid after : Grid}
    (hFlags : grid.Flags after)
    (hAfter : after.WellFormed cols rows capacity)
    {y : Nat}
    (hRow : y < after.rows)
    (hChanged :
      grid.rows ≤ y ∨
        after.visibleLine? y ≠ grid.visibleLine? y) :
    after.isDirty y := by
  rcases hAfter.exists_visibleLine? hRow with ⟨line, hLine⟩
  rcases hFlags y line hLine with hDirty | ⟨hSame, _⟩
  · exact hDirty
  · rcases hChanged with hNew | hOther
    · exact
        absurd (lt_rows_of_visibleLine? hSame)
          (Nat.not_lt.mpr hNew)
    · exact absurd (hLine.trans hSame.symm) hOther

end Grid

namespace Session

------------------------------------------------------------
-- Steps
------------------------------------------------------------

theorem active_of_screens
    {session after : Session}
    (hSame : after.screens = session.screens) :
    after.active = session.active := by
  have hScreen : after.screen = session.screen :=
    congrArg Prod.fst hSame
  have hPrimary : after.primary = session.primary :=
    congrArg (·.2.1) hSame
  have hAlternate : after.alternate = session.alternate :=
    congrArg (·.2.2) hSame
  unfold Session.active Session.grid
  rw [hScreen, hPrimary, hAlternate]

theorem flags_of_screens_eq
    {session after : Session}
    (hSame : after.screens = session.screens) :
    session.active.Flags after.active := by
  rw [active_of_screens hSame]
  exact Grid.Flags.refl _

theorem active_markClean
    (session : Session) :
    session.markClean.active = session.active.markClean := by
  rcases session with ⟨_, _, _, screen⟩
  cases screen with
  | primary => rfl
  | alternate => rfl

theorem flags_resizeTo
    (session : Session)
    (cols' rows' : Nat) :
    session.active.Flags
      (session.resizeTo cols' rows').active := by
  apply Grid.AllDirty.flags
  unfold Session.active
  show Grid.AllDirty
    (Session.grid (session.resizeTo cols' rows')
      session.screen)
  cases session.screen with
  | primary =>
      exact Grid.allDirty_resize session.primary _ _ _ _ _
  | alternate =>
      exact Grid.allDirty_resize session.alternate _ _ _ _ _

section

variable {config : Config} {cols rows : Nat}
  {session : Session}
  (hSession : session.WellFormed config cols rows)

include hSession

theorem WellFormed.flags_scrollLines
    (origin count : Nat)
    (direction : ScrollDirection)
    (retain : Bool) :
    session.active.Flags
      (session.scrollLines origin count direction
        retain).active := by
  by_cases hNone : session.scrollCount origin count = 0
  · rw [scrollLines_of_eq_zero hNone]
    exact Grid.Flags.refl _
  · rw [active_scrollLines hNone]
    unfold Session.scrolledGrid
    exact
      hSession.active.flags_scrollRegion
        hSession.region_lt (Nat.pos_of_ne_zero hNone)
        (add_scrollCount_le hNone) direction retain _

theorem WellFormed.flags_useAlternate :
    session.active.Flags session.useAlternate.active := by
  unfold Session.useAlternate
  split
  · exact Grid.Flags.refl _
  · apply Grid.AllDirty.flags
    apply Grid.allDirty_clear
    exact hSession.alternate.rows_le_dirty

theorem WellFormed.flags_usePrimary :
    session.active.Flags session.usePrimary.active := by
  unfold Session.usePrimary
  split
  · exact Grid.Flags.refl _
  · apply Grid.AllDirty.flags
    apply Grid.allDirty_of_marked
    exact hSession.primary.rows_le_dirty

theorem WellFormed.flags_clearScrollback :
    session.active.Flags session.clearScrollback.active := by
  have hLength := hSession.active.rows_le_dirty
  unfold Session.active at hLength ⊢
  unfold Session.clearScrollback
  dsimp only
  cases hScreen : session.screen with
  | primary =>
      rw [hScreen] at hLength
      exact Grid.flags_clearScrollback hLength
  | alternate => exact Grid.Flags.refl _

theorem WellFormed.flags_reset :
    session.active.Flags session.reset.active := by
  have hCleared :=
    hSession.primary.clear (isPlain_configBlank session.config)
  have hView := hCleared.setViewOffset 0
  apply Grid.AllDirty.flags
  apply Grid.allDirty_of_marked
  exact hView.rows_le_dirty

theorem WellFormed.flags_setViewOffset
    (offset : Grid → Nat) :
    session.active.Flags
      (session.modifyActive fun grid =>
        grid.setViewOffset (offset grid)).active := by
  rw [active_modifyActive]
  exact
    Grid.flags_setViewOffset hSession.active.rows_le_dirty _

end

/-
  What is changed in view is marked, unless the rows are
  marked as unchanged.
-/
theorem Evolves.flags
    [TextLibrary]
    {config : Config}
    {cols rows : Nat}
    {may : RareStep → Prop}
    {session after : Session}
    (hEvolves : session.Evolves config cols rows may after)
    (hMarks : ¬may .clean) :
    session.active.Flags after.active := by
  induction hEvolves with
  | same hSame _ => exact flags_of_screens_eq hSame
  | ink hSession hInks =>
      rw [active_modifyActive]
      exact
        hInks.toDraws.flags hSession.active.rows_le_dirty
  | scroll hSession origin count direction retain _ =>
      exact
        hSession.flags_scrollLines origin count direction
          retain
  | enter hSession _ _ => exact hSession.flags_useAlternate
  | leave hSession _ _ => exact hSession.flags_usePrimary
  | forget hSession _ => exact hSession.flags_clearScrollback
  | reset hSession _ => exact hSession.flags_reset
  | look hSession _ offset =>
      exact hSession.flags_setViewOffset offset
  | clean hCleans => exact absurd hCleans hMarks
  | trans _ _ hFirst hSecond => exact hFirst.trans hSecond

end Session

namespace Terminal

------------------------------------------------------------
-- Operations
------------------------------------------------------------

section

variable [TextLibrary]

section

variable {config : Config} {cols rows : Nat}
  {terminal : Terminal}
  (hTerminal : terminal.WellFormed config cols rows)

include hTerminal

/-
  Every operation but the one that marks the rows as unchanged
  marks what it changes in view.
-/
theorem WellFormed.flags_perform
    {operation : Operation}
    (hMarks : operation ≠ .markClean) :
    terminal.session.active.Flags
      (terminal.perform operation).1.session.active := by
  by_cases hSelects : operation.Selects
  · unfold Operation.Selects at hSelects
    split at hSelects
    · exact Session.flags_of_screens_eq rfl
    · exact Session.flags_of_screens_eq rfl
    · exact Session.flags_of_screens_eq rfl
    · exact Session.flags_of_screens_eq rfl
    · exact hSelects.elim
  · rcases hTerminal.evolves_or_resized hSelects with
      hEvolves | ⟨cols', rows', hResized⟩
    · apply hEvolves.flags
      exact fun hCleans => hMarks (hCleans.clean rfl)
    · rw [hResized]
      exact Session.flags_resizeTo _ cols' rows'

/- No operation that is run makes a changed row unmarked. -/
theorem WellFormed.flags_performAll
    {operations : List Operation}
    (hMarks : .markClean ∉ operations) :
    terminal.session.active.Flags
      (terminal.performAll operations).session.active := by
  unfold performAll
  induction operations generalizing terminal cols rows with
  | nil => exact Grid.Flags.refl _
  | cons operation operations hRest =>
      rw [List.mem_cons, not_or] at hMarks
      exact
        (hTerminal.flags_perform (Ne.symm hMarks.1)).trans
          (hRest (hTerminal.perform operation) hMarks.2)

end

------------------------------------------------------------
-- The Changed Rows Are Marked
------------------------------------------------------------

/-
  A row in view that shows another line after an operation, or
  is new, is marked.  So after any run, the marked rows are
  all those that have changed since the rows were last marked
  as unchanged, and maybe more.
-/
theorem Reachable.dirty_of_changed
    {terminal : Terminal}
    (hTerminal : Reachable terminal) :
    (∀ operation,
      operation ≠ .markClean →
        let grid := terminal.session.active
        let after :=
          (terminal.perform operation).1.session.active
        ∀ y,
          y < after.rows →
            grid.rows ≤ y ∨
                after.visibleLine? y ≠ grid.visibleLine? y →
              after.isDirty y) ∧
      ∀ operations,
        .markClean ∉ operations →
          let grid := terminal.session.active
          let after :=
            (terminal.performAll
              (.markClean :: operations)).session.active
          ∀ y,
            y < after.rows →
              grid.rows ≤ y ∨
                  after.visibleLine? y ≠ grid.visibleLine? y →
                y ∈ after.dirtyRows := by
  rcases hTerminal.wellFormed with
    ⟨config, cols, rows, hWellFormed⟩
  refine ⟨?_, ?_⟩
  · intro operation hMarks grid after y hRow hChanged
    have hAfter := (hWellFormed.perform operation).session
    have hFlags := hWellFormed.flags_perform hMarks
    exact hFlags.isDirty hAfter.active hRow hChanged
  · intro operations hMarks grid after y hRow hChanged
    have hCleaned := hWellFormed.perform .markClean
    have hFlags := hCleaned.flags_performAll hMarks
    have hReachable :=
      (hTerminal.perform .markClean).performAll operations
    rcases hReachable.wellFormed with
      ⟨config', cols', rows', hAfter⟩
    change
      terminal.session.markClean.active.Flags after
        at hFlags
    rw [Session.active_markClean] at hFlags
    rw [Grid.mem_dirtyRows]
    exact
      hFlags.isDirty hAfter.session.active hRow hChanged

end

/-
  A history that is in view is cleared, and a row that showed
  it is among the changed ones.
-/
theorem dirty_of_cleared_history :
    let terminal :=
      (createRaised 2 2).performAll
        [.process [0x61, 0x0A, 0x62, 0x0A, 0x63], .viewUp 1]
    let after :=
      (terminal.performAll
        [.markClean,
          .process [0x1B, 0x5B, 0x33, 0x4A]]).session.active
    Reachable terminal ∧
      0 < after.rows ∧
      after.visibleLine? 0 ≠
        terminal.session.active.visibleLine? 0 ∧
      0 ∈ after.dirtyRows := by
  intro terminal after
  have hReachable : Reachable terminal :=
    (Reachable.createRaised 2 2).performAll _
  have hRow : 0 < after.rows := by decide +kernel
  have hChanged :
      after.visibleLine? 0 ≠
        terminal.session.active.visibleLine? 0 := by
    decide +kernel
  exact
    ⟨hReachable, hRow, hChanged,
      hReachable.dirty_of_changed.2
        [.process [0x1B, 0x5B, 0x33, 0x4A]]
        (by decide +kernel) 0 hRow (.inr hChanged)⟩

end Terminal

end VideoTerminal
