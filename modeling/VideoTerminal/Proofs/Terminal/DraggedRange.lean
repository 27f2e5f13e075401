import VideoTerminal.Proofs.Selection.Renewal
import VideoTerminal.Proofs.Terminal.Evolves
import VideoTerminal.Proofs.Terminal.Resize
import VideoTerminal.Proofs.Terminal.SelectedRows
import VideoTerminal.Text.Linked

/-
  A selection that the user drags on with the pointer where it
  is.  Its range stays the same, whatever has scrolled before,
  except for one kind of step: where rows are cut off a
  rectangle that is held by its right corner above, dragging
  makes it narrower.

  Main declarations:
    * `Session.RangeRenews`
    * `Terminal.CutsCorner`
    * `Terminal.Sound.rangeRenews_take`
    * `Terminal.Reachable.rangeRenews_iff`
-/

namespace VideoTerminal

namespace Session

------------------------------------------------------------
-- Dragging On
------------------------------------------------------------

/-
  Dragging the selection to where the pointer is leaves its
  range the same, unless it grows to words or lines.
-/
def RangeRenews
    (session : Session) : Prop :=
  ∀ selection ∈ session.selection,
    selection.snap = .none →
      selection.Renews (session.grid selection.screen)
        session.config.isDelimiter

instance
    (session : Session) :
    Decidable session.RangeRenews := by
  unfold RangeRenews
  infer_instance

/- All that matters of the screens is how wide they are. -/
theorem rangeRenews_iff_matches
    {session : Session}
    {cols : Nat}
    (hCols :
      ∀ selection ∈ session.selection,
        (session.grid selection.screen).cols = cols) :
    session.RangeRenews ↔
      ∀ selection ∈ session.selection,
        selection.snap = .none → selection.Matches cols := by
  unfold RangeRenews
  constructor
  · intro hRenews selection hSelection hSnap
    have hAgain := hRenews selection hSelection hSnap
    rwa [Selection.renews_iff hSnap,
      hCols selection hSelection] at hAgain
  · intro hMatches selection hSelection hSnap
    rw [Selection.renews_iff hSnap,
      hCols selection hSelection]
    exact hMatches selection hSelection hSnap

end Session

namespace Terminal

------------------------------------------------------------
-- Steps
------------------------------------------------------------

section

variable [TextLibrary]

/-
  A step takes rows from a rectangle that is held by its right
  corner above.
-/
def CutsCorner
    (terminal : Terminal)
    (step : Step) : Prop :=
  ¬step.Selects ∧
    ∃ selection ∈ terminal.session.selection,
      (selection.snap = .none ∧ selection.UpperRight) ∧
        ∃ rest ∈ (terminal.take step).session.selection,
          rest.height < selection.height

instance
    (terminal : Terminal)
    (step : Step) :
    Decidable (terminal.CutsCorner step) := by
  unfold CutsCorner
  infer_instance

section

variable {config : Config} {cols rows : Nat}
  {terminal : Terminal}
  (hTerminal : terminal.WellFormed config cols rows)
  {step : Step}

include hTerminal

/- Nothing stays selected where the width changes. -/
theorem WellFormed.cols_take
    {rest : Selection}
    (hRest : rest ∈ (terminal.take step).session.selection)
    (screen : Screen) :
    ((terminal.take step).session.grid screen).cols = cols := by
  cases step with
  | event event =>
      exact (hTerminal.session.handle event).cols_grid screen
  | operation operation =>
      have hAfter :=
        (hTerminal.perform operation).session.cols_grid screen
      cases operation with
      | resize cols' rows' =>
          have hBefore := hTerminal.session.cols_grid screen
          unfold take Terminal.perform at hRest ⊢
          dsimp only at hRest ⊢
          rcases terminal.session.resize_cases cols' rows' with
            ⟨error, hRefused⟩ | hSame | hResized
          · rw [hRefused]
            exact hBefore
          · rw [hSame]
            exact hBefore
          · rw [hResized] at hRest
            cases hRest
      | _ => exact hAfter

/- The user selects the range between the points. -/
theorem WellFormed.matches_take
    (hBefore :
      ∀ selection ∈ terminal.session.selection,
        selection.snap = .none → selection.Matches cols)
    (hSelects : step.Selects)
    {rest : Selection}
    (hRest : rest ∈ (terminal.take step).session.selection)
    (hSnap : rest.snap = .none) :
    rest.Matches cols := by
  have hCols := hTerminal.session.active.cols_eq
  cases step with
  | event event => exact hSelects.elim
  | operation operation =>
      unfold Step.Selects Operation.Selects at hSelects
      dsimp only at hSelects
      split at hSelects
      · cases hRest
        rw [← hCols]
        exact Selection.matches_begin hSnap _ _ _ _ _
      · cases hRest
        rw [← hCols]
        exact Selection.matches_begin hSnap _ _ _ _ _
      · rcases Option.map_eq_some_iff.mp hRest with
          ⟨selection, _, rfl⟩
        rw [← hCols]
        exact Selection.matches_extend hSnap _ _ _
      · rcases Option.bind_eq_some_iff.mp hRest with
          ⟨selection, hSelection, hFinished⟩
        unfold Selection.finish? at hFinished
        rcases Option.ite_none_left_eq_some.mp hFinished with
          ⟨_, hReady⟩
        cases hReady
        exact hBefore selection hSelection hSnap
      · exact hSelects.elim

end

/-
  A step that cuts the corner leaves a range that dragging on
  changes, and every other step one that it does not.
-/
theorem Sound.rangeRenews_take
    {terminal : Terminal}
    {step : Step}
    (hTerminal : terminal.Sound)
    (hBefore : terminal.session.RangeRenews)
    (hWords : terminal.session.SelectsInWords)
    (hSingle : step.IsSingle)
    (hInMemory : terminal.InMemory step) :
    (terminal.CutsCorner step ∧
        ¬(terminal.take step).session.RangeRenews) ∨
      (¬terminal.CutsCorner step ∧
        (terminal.take step).session.RangeRenews) := by
  have hLeaves :=
    hTerminal.selectsRemains_take hWords hSingle
  rcases hTerminal with ⟨config, cols, rows, hWellFormed⟩
  have hMatches :=
    (Session.rangeRenews_iff_matches fun selection _ =>
      hWellFormed.session.cols_grid selection.screen).mp
      hBefore
  rw [Session.rangeRenews_iff_matches fun rest hRest =>
    hWellFormed.cols_take hRest rest.screen]
  by_cases hSelects : step.Selects
  · refine Or.inr ⟨fun hCuts => hCuts.1 hSelects, ?_⟩
    exact fun rest hRest hSnap =>
      hWellFormed.matches_take hMatches hSelects hRest hSnap
  · by_cases hCuts : terminal.CutsCorner step
    · refine Or.inl ⟨hCuts, fun hAll => ?_⟩
      rcases hCuts with
        ⟨_, selection, hSelection, ⟨hSnap, hUpper⟩, rest, hRest,
          hLess⟩
      rcases hLeaves hSelects hInMemory rest hRest with
        ⟨before, hThere, hRemains, _⟩
      rw [Option.mem_unique hThere hSelection] at hRemains
      have hKept :=
        hAll rest hRest (hRemains.kind_eq.2.1.trans hSnap)
      rcases hRemains.matches_or_strays
          (hMatches selection hSelection hSnap) with
        ⟨hNot, _⟩ | ⟨_, _, hStrays⟩
      · exact hNot ⟨hUpper, hLess⟩
      · exact hStrays.not_matches hKept
    · refine Or.inr ⟨hCuts, fun rest hRest hSnap => ?_⟩
      rcases hLeaves hSelects hInMemory rest hRest with
        ⟨selection, hSelection, hRemains, _⟩
      have hSame := hRemains.kind_eq.2.1.symm.trans hSnap
      rcases hRemains.matches_or_strays
          (hMatches selection hSelection hSame) with
        ⟨_, hKept, _⟩ | ⟨hUpper, hLess, _⟩
      · exact hKept
      · exact
          absurd
            ⟨hSelects, selection, hSelection, ⟨hSame, hUpper⟩,
              rest, hRest, hLess⟩
            hCuts

------------------------------------------------------------
-- Runs
------------------------------------------------------------

/-
  From a terminal on whose selection has the range that it is
  dragged over, it does so after every step of a run exactly
  if none of them cuts the corner of a rectangle.  Without
  one, it does so in the end.  The rows that the user points
  at are numbers that words have room for.
-/
theorem Reachable.rangeRenews_iff
    {terminal : Terminal}
    (hTerminal : Reachable terminal)
    (hBefore : terminal.session.RangeRenews)
    (hWords : terminal.session.SelectsInWords)
    {operations : List Operation}
    (hPoints :
      ∀ moment ∈ terminal.moments operations,
        moment.2.PointsInWord)
    (hInMemory :
      ∀ moment ∈ terminal.moments operations,
        moment.1.InMemory moment.2) :
    ((∀ moment ∈ terminal.moments operations,
        (moment.1.take moment.2).session.RangeRenews) ↔
      ∀ moment ∈ terminal.moments operations,
        ¬moment.1.CutsCorner moment.2) ∧
      ((∀ moment ∈ terminal.moments operations,
          ¬moment.1.CutsCorner moment.2) →
        (terminal.performAll
          operations).session.RangeRenews) :=
  holds_throughout_inWords_iff Sound.rangeRenews_take
    hTerminal.wellFormed hBefore hWords hPoints hInMemory

end

/-
  A rectangle that is held by its right corner above moves
  into the history whole.  Then it is dragged over to the
  other side, and cut.
-/
def draggingOver : List Operation :=
  [.process (Utf8.ofString "abc\r\ndef\r\nghi"),
    .beginSelection 1 0 .none .block, .extendSelection 0 2,
    .process [0x0A], .extendSelection 3 2, .process [0x0A]]

theorem rangeRenews_draggingOver :
    (∀ moment ∈ withOneLine.moments draggingOver,
        moment.2.PointsInWord ∧
          moment.1.InMemory moment.2) ∧
      ((∀ moment ∈ withOneLine.moments draggingOver,
          (moment.1.take moment.2).session.RangeRenews) ↔
        ∀ moment ∈ withOneLine.moments draggingOver,
          ¬moment.1.CutsCorner moment.2) ∧
        (withOneLine.performAll
            draggingOver).session.selection.isSome ∧
          (withOneLine.performAll
            draggingOver).session.RangeRenews := by
  have hAllowed :
      ∀ moment ∈ withOneLine.moments draggingOver,
        moment.2.PointsInWord ∧
          moment.1.InMemory moment.2 := by
    decide +kernel
  have hIff :=
    reachable_withOneLine.rangeRenews_iff nofun
      (Session.selectsInWords_of_none rfl)
      (fun moment hMem => (hAllowed moment hMem).1)
      fun moment hMem => (hAllowed moment hMem).2
  exact
    ⟨hAllowed, hIff.1, by decide +kernel,
      hIff.2 (by decide +kernel)⟩

/- The rectangle is cut while it is held by that corner. -/
def cuttingCorner : List Operation :=
  [.process (Utf8.ofString "abc\r\ndef\r\nghi"),
    .beginSelection 1 0 .none .block, .extendSelection 0 2,
    .process [0x0A, 0x0A]]

/- So dragging on does not always keep the other corner. -/
theorem not_forall_rangeRenews :
    ¬∀ operations,
      (∀ moment ∈ withOneLine.moments operations,
          moment.1.PointsInView moment.2) →
        (∀ cols rows, .resize cols rows ∉ operations) →
          (withOneLine.performAll
            operations).session.RangeRenews := by
  intro hAlways
  have hRenews :=
    hAlways cuttingCorner (by decide +kernel)
      (fun _ _ => by simp [cuttingCorner])
  exact absurd hRenews (by decide +kernel)

end Terminal

end VideoTerminal
