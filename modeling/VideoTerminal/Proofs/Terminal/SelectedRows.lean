import VideoTerminal.Proofs.Session.SelectedRows
import VideoTerminal.Proofs.Terminal.WordRows
import VideoTerminal.Text.Linked

/-
  The rows that the user selects.  A selection does not leave
  the rows of its screen and of its history, except by one
  call: a selection on the alternate screen that is dragged
  while the primary screen is in use follows the view of that,
  and reaches into its history.

  Main declarations:
    * `Session.DragsAcross`
    * `Session.WellFormed.selectsWithin_beginSelection`
    * `Session.WellFormed.selectsWithin_extendSelection`
    * `Terminal.PointsInView`
    * `Terminal.Sound.selectsWithin_take`
    * `Terminal.Reachable.selectsRetained_iff`
-/

namespace VideoTerminal

namespace Session

------------------------------------------------------------
-- Selecting
------------------------------------------------------------

/-
  Dragging the selection to a cell in view takes it from the
  alternate screen into the history of the primary one.
-/
def DragsAcross
    (session : Session)
    (x y : Nat) : Prop :=
  session.screen = .primary ∧
    ∃ selection ∈ session.selection,
      selection.screen = .alternate ∧
        (selection.extend session.active
          session.config.isDelimiter
          (session.viewportPoint x y)).first.row < 0

instance
    (session : Session)
    (x y : Nat) :
    Decidable (session.DragsAcross x y) := by
  unfold DragsAcross
  infer_instance

instance
    (session : Session) :
    Decidable session.SelectsRetained := by
  unfold SelectsRetained
  infer_instance

section

variable {config : Config} {cols rows : Nat}
  {session : Session}
  (hSession : session.WellFormed config cols rows)

theorem oldestRow_nonpos
    (session : Session)
    (screen : Screen) :
    session.oldestRow screen ≤ 0 := by
  unfold oldestRow
  omega

include hSession

/- The alternate screen has no history. -/
theorem WellFormed.oldestRow_alternate :
    session.oldestRow .alternate = 0 := by
  show -(session.alternate.scrollback.size : Int) = 0
  rw [hSession.alternate.size_eq_zero]
  rfl

/- A cell in view shows a row of the screen in use. -/
theorem WellFormed.row_viewportPoint
    (hAddressable : session.Addressable)
    {y : Nat}
    (x : Nat)
    (hRow : y < session.rows) :
    session.oldestRow session.screen ≤
        (session.viewportPoint x y).row ∧
      (session.viewportPoint x y).row <
        session.active.rows := by
  have hActive := hSession.active
  have hView := hActive.view_le
  have hHeight := hActive.rows_eq
  have hTall := hAddressable.rows_le
  rw [hSession.viewportPoint_eq hAddressable (by omega) x]
  rw [hSession.rows_eq] at hRow
  rw [hHeight]
  show
    -(session.active.scrollback.size : Int) ≤
        (y : Int) - session.active.viewOffset ∧
      (y : Int) - session.active.viewOffset < rows
  omega

theorem WellFormed.selectsWithin_beginSelection
    (hAddressable : session.Addressable)
    {y : Nat}
    (x : Nat)
    (hRow : y < session.rows)
    (snap : Snap)
    (mode : SelectionMode) :
    (session.beginSelection x y snap mode).SelectsWithin := by
  have hPoint :=
    hSession.row_viewportPoint hAddressable x hRow
  have hHeight : session.active.rows = session.rows :=
    hSession.active.rows_eq.trans hSession.rows_eq.symm
  intro selection hSelection
  cases hSelection
  show
    (Selection.begin session.active
        session.config.isDelimiter
        (session.viewportPoint x y) snap mode
        session.screen).Lies
      (session.oldestRow session.screen) (session.rows - 1)
  rw [← hHeight]
  exact
    (Selection.spans_begin session.config.isDelimiter
      (Int.le_refl _)
      (Int.le_of_eq (Int.sub_add_cancel _ 1).symm)
      snap hPoint.1 (Int.le_sub_one_of_lt hPoint.2) mode
      session.screen).toLies

theorem WellFormed.selectsWithin_clickSelection
    (hAddressable : session.Addressable)
    {y : Nat}
    (x : Nat)
    (hRow : y < session.rows)
    (mode : SelectionMode)
    (time : Nat) :
    (session.clickSelection x y mode
      time).1.SelectsWithin := by
  unfold Session.clickSelection
  dsimp only
  apply WellFormed.selectsWithin_beginSelection
  · exact { hSession with }
  · exact ⟨hAddressable.rows_le, hAddressable.size_le⟩
  · exact hRow

/-
  A dragged selection reaches no row that neither the screen
  in use nor its own has.
-/
theorem WellFormed.lies_extend
    (hAddressable : session.Addressable)
    (hBefore : session.SelectsWithin)
    {y : Nat}
    (x : Nat)
    (hRow : y < session.rows)
    {selection : Selection}
    (hSelection : selection ∈ session.selection) :
    (selection.extend session.active
        session.config.isDelimiter
        (session.viewportPoint x y)).Lies
      (min (session.oldestRow session.screen)
        (session.oldestRow selection.screen))
      (session.rows - 1) := by
  have hPoint :=
    hSession.row_viewportPoint hAddressable x hRow
  have hHeight : session.active.rows = session.rows :=
    hSession.active.rows_eq.trans hSession.rows_eq.symm
  have hLies := hBefore selection hSelection
  have hAnchor :
      session.oldestRow selection.screen ≤
          selection.anchor.row ∧
        selection.anchor.row ≤ (session.rows : Int) - 1 :=
    ⟨Int.le_trans hLies.low_le hLies.first_le,
      Int.le_trans hLies.anchor_le hLies.past_le⟩
  have hHistory :
      min (session.oldestRow session.screen)
          (session.oldestRow selection.screen) ≤
        -(session.active.scrollback.size : Int) :=
    Int.min_le_left _ _
  rw [← hHeight] at hAnchor ⊢
  refine
    (Selection.spans_extend session.config.isDelimiter
      hHistory ?_ ?_ ?_).toLies
  · omega
  · omega
  · omega

/- It stays among the rows of its own screen but in one case. -/
theorem WellFormed.selectsWithin_extendSelection
    (hAddressable : session.Addressable)
    (hBefore : session.SelectsWithin)
    {x y : Nat}
    (hRow : y < session.rows)
    (hStays : ¬session.DragsAcross x y) :
    (session.extendSelection x y).SelectsWithin := by
  intro extended hExtended
  rcases Option.map_eq_some_iff.mp hExtended with
    ⟨selection, hSelection, rfl⟩
  have hLies :=
    hSession.lies_extend hAddressable hBefore x hRow
      hSelection
  have hAlternate := hSession.oldestRow_alternate
  show
    (selection.extend session.active
        session.config.isDelimiter
        (session.viewportPoint x y)).Lies
      (session.oldestRow selection.screen)
      (session.rows - 1)
  cases hOwn : selection.screen with
  | primary =>
      have hPrimary := session.oldestRow_nonpos .primary
      rw [hOwn] at hLies
      apply hLies.mono _ (Int.le_refl _)
      cases session.screen with
      | primary =>
          exact Int.le_min.mpr ⟨Int.le_refl _, Int.le_refl _⟩
      | alternate =>
          rw [hAlternate]
          exact Int.le_min.mpr ⟨hPrimary, Int.le_refl _⟩
  | alternate =>
      cases hUsed : session.screen with
      | primary =>
          have hFirst :=
            Int.not_lt.mp fun hNegative =>
              hStays
                ⟨hUsed, selection, hSelection, hOwn,
                  hNegative⟩
          rw [hAlternate]
          exact { hLies with low_le := hFirst }
      | alternate =>
          rw [hUsed, hOwn] at hLies
          exact
            hLies.mono
              (Int.le_min.mpr ⟨Int.le_refl _, Int.le_refl _⟩)
              (Int.le_refl _)

/- And in that case it does not. -/
theorem WellFormed.not_selectsRetained_extendSelection
    {x y : Nat}
    (hDrags : session.DragsAcross x y) :
    ¬(session.extendSelection x y).SelectsRetained := by
  rcases hDrags with
    ⟨_, selection, hSelection, hOwn, hNegative⟩
  have hExtended :
      selection.extend session.active
          session.config.isDelimiter
          (session.viewportPoint x y) ∈
        (session.extendSelection x y).selection :=
    Option.map_eq_some_iff.mpr ⟨selection, hSelection, rfl⟩
  have hAlternate := hSession.oldestRow_alternate
  intro hRetained
  have hFirst :
      session.oldestRow selection.screen ≤ _ :=
    (hRetained _ hExtended).1
  rw [hOwn, hAlternate] at hFirst
  exact absurd hNegative (Int.not_lt.mpr hFirst)

end

/- The end of dragging changes no row. -/
theorem SelectsWithin.finishSelection
    {session : Session}
    (hBefore : session.SelectsWithin) :
    session.finishSelection.SelectsWithin := by
  intro finished hFinished
  rcases Option.bind_eq_some_iff.mp hFinished with
    ⟨selection, hSelection, hFinish⟩
  have hLies := hBefore selection hSelection
  unfold Selection.finish? at hFinish
  rcases Option.ite_none_left_eq_some.mp hFinish with
    ⟨_, hReady⟩
  cases hReady
  exact { hLies with }

end Session

namespace Terminal

------------------------------------------------------------
-- Steps
------------------------------------------------------------

/- The cell that the user points at is a cell in view. -/
def PointsInView
    (terminal : Terminal)
    (step : Step) :
    Prop :=
  ∀ cell ∈ step.pointedAt?,
    cell.1 < terminal.session.cols ∧
      cell.2 < terminal.session.rows

/- The cell in view that a selection is dragged to. -/
def Step.draggedTo? :
    Step → Option (Nat × Nat)
  | .operation (.extendSelection x y) => some (x, y)
  | _ => none

/-
  A step drags a selection from the alternate screen into the
  history of the primary one.
-/
def DragsAcross
    (terminal : Terminal)
    (step : Step) :
    Prop :=
  ∃ cell ∈ step.draggedTo?,
    terminal.session.DragsAcross cell.1 cell.2

instance
    (terminal : Terminal)
    (step : Step) :
    Decidable (terminal.PointsInView step) := by
  unfold PointsInView
  infer_instance

instance
    (terminal : Terminal)
    (step : Step) :
    Decidable (terminal.DragsAcross step) := by
  unfold DragsAcross
  infer_instance

section

variable [TextLibrary]

/- What the user selects is in the rows that there are. -/
theorem Sound.selectsWithin_selects
    {terminal : Terminal}
    (hTerminal : terminal.Sound)
    (hAddressable : terminal.session.Addressable)
    (hBefore : terminal.session.SelectsWithin)
    {step : Step}
    (hSelects : step.Selects)
    (hInView : terminal.PointsInView step)
    (hStays : ¬terminal.DragsAcross step) :
    (terminal.take step).session.SelectsWithin := by
  rcases hTerminal with ⟨config, cols, rows, hWellFormed⟩
  have hSession := hWellFormed.session
  cases step with
  | event event => exact hSelects.elim
  | operation operation =>
      unfold Step.Selects Operation.Selects at hSelects
      dsimp only at hSelects
      split at hSelects
      · exact
          hSession.selectsWithin_beginSelection hAddressable _
            (hInView _ rfl).2 _ _
      · exact
          hSession.selectsWithin_clickSelection hAddressable _
            (hInView _ rfl).2 _ _
      · exact
          hSession.selectsWithin_extendSelection hAddressable
            hBefore (hInView _ rfl).2
            fun hDrags => hStays ⟨_, rfl, hDrags⟩
      · exact hBefore.finishSelection
      · exact hSelects.elim

/- Only dragging across takes a selection out of the rows. -/
theorem Sound.selectsWithin_take
    (terminal : Terminal)
    (step : Step)
    (hTerminal : terminal.Sound)
    (hBefore : terminal.session.SelectsWithin)
    (hSingle : step.IsSingle)
    (hAllowed :
      terminal.PointsInView step ∧ terminal.InMemory step) :
    (terminal.DragsAcross step ∧
        ¬(terminal.take step).session.SelectsRetained) ∨
      (¬terminal.DragsAcross step ∧
        (terminal.take step).session.SelectsWithin) := by
  rcases hAllowed with ⟨hInView, hInMemory⟩
  by_cases hDrags : terminal.DragsAcross step
  · refine Or.inl ⟨hDrags, ?_⟩
    rcases hTerminal with ⟨config, cols, rows, hWellFormed⟩
    rcases hDrags with ⟨⟨x, y⟩, hDragged, hDrags⟩
    unfold Step.draggedTo? at hDragged
    split at hDragged
    · cases hDragged
      exact
        hWellFormed.session.not_selectsRetained_extendSelection
          hDrags
    · cases hDragged
  · refine Or.inr ⟨hDrags, ?_⟩
    by_cases hSelects : step.Selects
    · exact
        hTerminal.selectsWithin_selects hInMemory.1 hBefore
          hSelects hInView hDrags
    · exact
        hTerminal.handsOn Session.handedOn_selectsWithin
          hSingle hSelects hInMemory hBefore

------------------------------------------------------------
-- Runs
------------------------------------------------------------

/-
  While the user points at cells in view, and memory does not
  run out of addresses, the selection begins and ends, in this
  order, in rows that its screen or the history of that has,
  after every step of a run exactly if none of them drags a
  selection from the alternate screen into the history of the
  primary one.
-/
theorem Reachable.selectsRetained_iff
    {terminal : Terminal}
    (hTerminal : Reachable terminal)
    (hBefore : terminal.session.SelectsWithin)
    {operations : List Operation}
    (hInView :
      ∀ moment ∈ terminal.moments operations,
        moment.1.PointsInView moment.2)
    (hInMemory :
      ∀ moment ∈ terminal.moments operations,
        moment.1.InMemory moment.2) :
    ((∀ moment ∈ terminal.moments operations,
        (moment.1.take moment.2).session.SelectsRetained) ↔
      ∀ moment ∈ terminal.moments operations,
        ¬moment.1.DragsAcross moment.2) ∧
      ((∀ moment ∈ terminal.moments operations,
          ¬moment.1.DragsAcross moment.2) →
        (terminal.performAll
          operations).session.SelectsRetained) := by
  have hHolds :
      ∀ session : Session,
        session.SelectsWithin → session.SelectsRetained :=
    fun _ hWithin => hWithin.selectsRetained
  exact
    holds_throughout_iff hHolds Sound.selectsWithin_take
      hTerminal.wellFormed hBefore
      fun moment hMem =>
        ⟨hInView moment hMem, hInMemory moment hMem⟩

end

/-
  A word is selected in the history, and the selection dragged
  on from the alternate screen.
-/
def draggingOn : List Operation :=
  [.process [0x61, 0x0D, 0x0A, 0x62, 0x0D, 0x0A, 0x63],
    .viewUp 1, .beginSelection 0 0 .word .character,
    .useAlternate, .extendSelection 3 1]

theorem selectsRetained_draggingOn :
    (∀ moment ∈ (createRaised 5 2).moments draggingOn,
        moment.1.PointsInView moment.2 ∧
          moment.1.InMemory moment.2) ∧
      ((∀ moment ∈ (createRaised 5 2).moments draggingOn,
          (moment.1.take moment.2).session.SelectsRetained) ↔
        ∀ moment ∈ (createRaised 5 2).moments draggingOn,
          ¬moment.1.DragsAcross moment.2) ∧
        ((createRaised 5 2).performAll
            draggingOn).session.selection.isSome ∧
          ((createRaised 5 2).performAll
            draggingOn).session.SelectsRetained := by
  have hAllowed :
      ∀ moment ∈ (createRaised 5 2).moments draggingOn,
        moment.1.PointsInView moment.2 ∧
          moment.1.InMemory moment.2 := by
    decide +kernel
  have hIff :=
    (Reachable.createRaised 5 2).selectsRetained_iff
      (Session.selectsWithin_of_none rfl)
      (fun moment hMem => (hAllowed moment hMem).1)
      fun moment hMem => (hAllowed moment hMem).2
  exact
    ⟨hAllowed, hIff.1, by decide +kernel,
      hIff.2 (by decide +kernel)⟩

/-
  A selection begun on the alternate screen and dragged over
  the history of the primary one.
-/
def draggingAcross : List Operation :=
  [.process [0x61, 0x0D, 0x0A, 0x62, 0x0D, 0x0A, 0x63],
    .useAlternate, .beginSelection 0 0 .none .character,
    .usePrimary, .viewUp 1, .extendSelection 1 0]

/- So not all of what is selected is there to be read. -/
theorem not_forall_selectsRetained :
    ¬∀ operations,
      (∀ moment ∈ (createRaised 5 2).moments operations,
          moment.1.PointsInView moment.2) →
        ((createRaised 5 2).performAll
          operations).session.SelectsRetained := by
  intro hAlways
  exact
    absurd (hAlways draggingAcross (by decide +kernel))
      (by decide +kernel)

end Terminal

end VideoTerminal
