import VideoTerminal.Proofs.Session.Addressable

/-
  The rows that the selection of a session reaches, among
  those of its screen and the history of that.  None of the
  steps that events are made up of takes it out of them.

  Main declarations:
    * `Session.SelectsRetained`
    * `Session.SelectsWithin`
    * `Session.WellFormed.selectsWithin_scrollLines`
    * `Session.handedOn_selectsWithin`
-/

namespace VideoTerminal

namespace Session

------------------------------------------------------------
-- Retained Rows
------------------------------------------------------------

/- The oldest row of a screen and its history. -/
def oldestRow
    (session : Session)
    (screen : Screen) : Int :=
  -(session.grid screen).scrollback.size

/-
  A selection begins and ends, in this order, in rows of its
  screen or of what the history of that retains.
-/
def SelectsRetained
    (session : Session) : Prop :=
  ∀ selection ∈ session.selection,
    session.oldestRow selection.screen ≤
        selection.first.row ∧
      selection.first.row ≤ selection.past.row ∧
      selection.past.row ≤ (session.rows : Int) - 1

/- So does the point that it has been begun at. -/
def SelectsWithin
    (session : Session) : Prop :=
  ∀ selection ∈ session.selection,
    selection.Lies (session.oldestRow selection.screen)
      (session.rows - 1)

theorem SelectsWithin.selectsRetained
    {session : Session}
    (hWithin : session.SelectsWithin) :
    session.SelectsRetained := by
  intro selection hSelection
  have hLies := hWithin selection hSelection
  exact
    ⟨hLies.low_le,
      Int.le_trans hLies.first_le hLies.anchor_le,
      hLies.past_le⟩

section

variable {session after : Session}

/- The rows that something else is selected in stay. -/
theorem SelectsWithin.of_stands
    (hBefore : session.SelectsWithin)
    (hStands : session.Stands after) :
    after.SelectsWithin := by
  intro selection hSelection
  have hLies :=
    hBefore selection (hStands.selected selection hSelection)
  unfold oldestRow at hLies ⊢
  rw [hStands.scrollback_eq, hStands.rows_eq]
  exact hLies

theorem selectsWithin_of_none
    (hNone : after.selection = none) :
    after.SelectsWithin := by
  intro selection hSelection
  rw [hNone] at hSelection
  cases hSelection

end

------------------------------------------------------------
-- Scrolling
------------------------------------------------------------

section

variable {selection rest : Selection} {scrolled : Grid}
  {moved origin bottom : Nat} {delta : Int}

/- Another screen is not concerned. -/
theorem followScroll_of_ne
    {screen : Screen}
    (hOther : selection.screen ≠ screen) :
    followScroll selection scrolled moved origin bottom delta
      screen = some selection := by
  unfold followScroll Selection.historyScrolled?
    Selection.regionScrolled?
  rw [if_pos hOther, if_pos hOther, ite_self]

/- A selection that follows its lines stays on its screen. -/
theorem screen_of_followScroll
    {screen : Screen}
    (hRest :
      followScroll selection scrolled moved origin bottom
        delta screen = some rest) :
    rest.screen = selection.screen := by
  unfold followScroll Selection.historyScrolled?
    Selection.regionScrolled? at hRest
  dsimp only at hRest
  split at hRest
  · split at hRest
    · cases hRest
      rfl
    · rcases Option.ite_none_left_eq_some.mp hRest with
        ⟨_, hMoved⟩
      split at hMoved
      · exact (Selection.of_cut?_eq_some hMoved).2.1
      · cases hMoved
        rfl
  · split at hRest
    · cases hRest
      rfl
    · rcases Option.ite_none_left_eq_some.mp hRest with
        ⟨_, hKept⟩
      split at hKept
      · rcases Option.ite_none_left_eq_some.mp hKept with
          ⟨_, hMoved⟩
        cases hMoved
        rfl
      · cases hKept
        rfl

/- A selection on the screen that scrolls. -/
theorem lies_of_followScroll
    {grid : Grid}
    (hCarries :
      grid.Carries scrolled moved origin bottom delta)
    (hLies :
      selection.Lies (-grid.scrollback.size)
        (grid.rows - 1))
    (hLow : -2 ^ 63 ≤ -grid.scrollback.size + delta)
    (hHigh : (grid.rows : Int) - 1 + delta < 2 ^ 63)
    (hBottom : bottom < grid.rows)
    (hRest :
      followScroll selection scrolled moved origin bottom
        delta selection.screen = some rest) :
    rest.Lies (-scrolled.scrollback.size)
      (scrolled.rows - 1) := by
  unfold followScroll at hRest
  split at hRest
  · exact hLies.historyScrolled? hLow hHigh hRest
  · rename_i hNone
    have hSize := hCarries.size_eq (by omega)
    rw [hSize, hCarries.rows_eq]
    exact
      hLies.regionScrolled? hLow hHigh (by omega) (by omega)
        hRest

end

section

variable {config : Config} {cols rows : Nat}
  {session : Session}
  (hSession : session.WellFormed config cols rows)

include hSession

theorem WellFormed.selectsWithin_scrollLines
    (hAddressable : session.Addressable)
    (hBefore : session.SelectsWithin)
    (origin count : Nat)
    (direction : ScrollDirection)
    (retain : Bool) :
    (session.scrollLines origin count direction
      retain).SelectsWithin := by
  have hAfter :=
    hSession.scrollLines origin count direction retain
  by_cases hNone : session.scrollCount origin count = 0
  · rw [scrollLines_of_eq_zero hNone]
    exact hBefore
  · intro rest hRest
    have hRows := hAfter.rows_eq.trans hSession.rows_eq.symm
    rw [hRows]
    rw [scrollLines_of_ne_zero hNone] at hRest
    rcases Option.bind_eq_some_iff.mp hRest with
      ⟨selected, hSelected, hFollows⟩
    have hScreen := screen_of_followScroll hFollows
    have hLies := hBefore selected hSelected
    unfold oldestRow at hLies ⊢
    by_cases hSame : selected.screen = session.screen
    · have hActive := hSession.active
      have hCarries :=
        hSession.carries_scrolledGrid hNone direction retain
      have hHeight : session.active.rows = session.rows :=
        hActive.rows_eq.trans hSession.rows_eq.symm
      have hDelta :=
        hSession.scrollDelta_within hNone direction
      have hTall := hAddressable.rows_le
      have hSize :=
        hSession.size_grid_le hAddressable session.screen
      rw [hSession.rows_eq] at hTall
      rw [hSame] at hLies
      rw [← hSame] at hFollows
      rw [hScreen, hSame, grid_scrollLines hNone]
      rw [← hHeight] at hLies ⊢
      rw [← hCarries.rows_eq]
      refine
        lies_of_followScroll hCarries hLies ?_ ?_ ?_ hFollows
      · unfold Session.active
        omega
      · rw [hActive.rows_eq]
        omega
      · rw [hActive.rows_eq]
        exact hSession.region_lt
    · rw [followScroll_of_ne hSame] at hFollows
      cases hFollows
      rw [scrollLines_of_ne_zero hNone]
      show
        rest.Lies
          (-((session.modifyActive _).grid
            rest.screen).scrollback.size) _
      rw [grid_modifyActive_of_ne _ _ hSame]
      exact hLies

end

------------------------------------------------------------
-- Clearing
------------------------------------------------------------

/-
  With the history, what is selected there is dropped.  What
  is left of the selections on the primary screen is on it.
-/
theorem SelectsWithin.clearScrollback
    {session : Session}
    (hBefore : session.SelectsWithin) :
    session.clearScrollback.SelectsWithin := by
  intro selection hSelection
  rcases Option.filter_eq_some_iff.mp hSelection with
    ⟨hSelected, hOutside⟩
  have hLies := hBefore selection hSelected
  have hRows : session.clearScrollback.rows = session.rows := by
    show session.primary.clearScrollback.rows = _
    unfold Grid.rows
    rw [Grid.lines_clearScrollback]
    rfl
  rw [hRows]
  cases hScreen : selection.screen with
  | primary =>
      have hOn : 0 ≤ selection.first.row := by
        unfold coversHistory at hOutside
        rw [hScreen] at hOutside
        simpa using hOutside
      have hEmpty :
          session.clearScrollback.oldestRow .primary = 0 := by
        show -((session.primary.clearScrollback).scrollback.size
          : Int) = 0
        rw [Grid.scrollback_clearScrollback]
        rfl
      rw [hEmpty]
      exact { hLies with low_le := hOn }
  | alternate =>
      rw [hScreen] at hLies
      exact hLies

------------------------------------------------------------
-- All Steps
------------------------------------------------------------

/- No step takes a selection out of the rows there are. -/
theorem handedOn_selectsWithin :
    HandedOn SelectsWithin where
  stands := fun hStands hBefore => hBefore.of_stands hStands
  scroll := fun hSession hAddressable _ _ _ _ _ hBefore =>
    hSession.selectsWithin_scrollLines hAddressable hBefore _ _
      _ _
  forget := SelectsWithin.clearScrollback
  dropped := selectsWithin_of_none

end Session

end VideoTerminal
