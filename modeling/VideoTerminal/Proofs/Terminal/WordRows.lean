import VideoTerminal.Proofs.Terminal.Moments

/-
  Selections whose rows are numbers that words have room for.
  Those that the user makes are such ones if the rows pointed
  at are, and no step that hands something on changes that.

  Main declarations:
    * `Session.SelectsInWords`
    * `Session.WellFormed.viewportPoint_eq`
    * `Terminal.Step.pointedAt?`
    * `Terminal.Step.PointsInWord`
    * `Terminal.Sound.selectsRemains_take`
    * `Terminal.Sound.selectsInWords_take`
    * `Terminal.holds_throughout_inWords_iff`
-/

namespace VideoTerminal

namespace Session

------------------------------------------------------------
-- Selecting
------------------------------------------------------------

/- Whatever is selected is so in rows that words can hold. -/
def SelectsInWords
    (session : Session) : Prop :=
  ∀ selection ∈ session.selection, selection.InWords

theorem selectsInWords_of_none
    {session : Session}
    (hNone : session.selection = none) :
    session.SelectsInWords := by
  intro selection hSelection
  rw [hNone] at hSelection
  cases hSelection

section

variable {config : Config} {cols rows : Nat}
  {session : Session}
  (hSession : session.WellFormed config cols rows)
  (hAddressable : session.Addressable)
  {y : Nat}
  (hWord : y < 2 ^ 63)
  (x : Nat)

include hSession hAddressable

theorem WellFormed.size_active_le :
    session.active.scrollback.size ≤ 2 ^ 62 :=
  hSession.size_grid_le hAddressable session.screen

include hWord

/- The row of a cell counts from the top of the view. -/
theorem WellFormed.viewportPoint_eq :
    session.viewportPoint x y =
      ⟨x, (y : Int) - session.active.viewOffset⟩ := by
  have hView := hSession.active.view_le
  have hSize := hSession.size_active_le hAddressable
  unfold viewportPoint
  rw [Word.signed_natCast hWord,
    Word.signed_natCast (by omega),
    Word.signed_eq (by omega) (by omega)]

theorem WellFormed.row_viewportPoint_inWord :
    -2 ^ 62 ≤ (session.viewportPoint x y).row ∧
      (session.viewportPoint x y).row ≤ 2 ^ 63 - 1 := by
  have hView := hSession.active.view_le
  have hSize := hSession.size_active_le hAddressable
  rw [hSession.viewportPoint_eq hAddressable hWord x]
  dsimp only
  omega

theorem WellFormed.inWords_begin
    (snap : Snap)
    (mode : SelectionMode)
    (screen : Screen) :
    (Selection.begin session.active
        session.config.isDelimiter
        (session.viewportPoint x y) snap mode
        screen).InWords := by
  have hPoint :=
    hSession.row_viewportPoint_inWord hAddressable hWord x
  have hSize := hSession.size_active_le hAddressable
  have hHeight := hSession.active.rows_eq
  have hTall := hAddressable.rows_le
  rw [hSession.rows_eq] at hTall
  exact
    Selection.spans_begin session.config.isDelimiter
      (by omega) (by omega) snap hPoint.1 hPoint.2 mode screen

theorem WellFormed.inWords_extend
    {selection : Selection}
    (hWords : selection.InWords) :
    (selection.extend session.active
        session.config.isDelimiter
        (session.viewportPoint x y)).InWords := by
  have hPoint :=
    hSession.row_viewportPoint_inWord hAddressable hWord x
  have hSize := hSession.size_active_le hAddressable
  have hHeight := hSession.active.rows_eq
  have hTall := hAddressable.rows_le
  rw [hSession.rows_eq] at hTall
  exact
    Selection.spans_extend session.config.isDelimiter
      (by omega) (by omega)
      ⟨Int.le_trans hWords.low_le hWords.first_le, hPoint.1⟩
      ⟨Int.le_trans hWords.anchor_le hWords.past_le,
        hPoint.2⟩

end

end Session

namespace Terminal

------------------------------------------------------------
-- Steps
------------------------------------------------------------

/- The cell in view that the user points at. -/
def Step.pointedAt? :
    Step → Option (Nat × Nat)
  | .operation (.beginSelection x y _ _)
  | .operation (.clickSelection x y _ _)
  | .operation (.extendSelection x y) => some (x, y)
  | _ => none

/-
  The row that the user points at is a number that a word
  with a sign has room for.
-/
def Step.PointsInWord
    (step : Step) :
    Prop :=
  ∀ cell ∈ step.pointedAt?, cell.2 < 2 ^ 63

instance
    (step : Step) :
    Decidable step.PointsInWord := by
  unfold Step.PointsInWord
  infer_instance

section

variable [TextLibrary]
variable {terminal : Terminal} {step : Step}
  (hTerminal : terminal.Sound)
  (hWords : terminal.session.SelectsInWords)

include hTerminal hWords

/- What the user does not do leaves less of a selection. -/
theorem Sound.selectsRemains_take
    (hSingle : step.IsSingle)
    (hPassive : ¬step.Selects)
    (hInMemory : terminal.InMemory step) :
    Session.SelectsRemains terminal.session.selection
      (terminal.take step).session := by
  apply
    hTerminal.handsOn (Session.handedOn_selectsRemains _)
      hSingle hPassive hInMemory
  exact fun selection hSelection =>
    ⟨selection, hSelection, .same,
      hWords selection hSelection⟩

/- Words have room for the rows of what the user selects. -/
theorem Sound.selectsInWords_selects
    (hAddressable : terminal.session.Addressable)
    (hSelects : step.Selects)
    (hPoints : step.PointsInWord) :
    (terminal.take step).session.SelectsInWords := by
  rcases hTerminal with ⟨config, cols, rows, hWellFormed⟩
  have hSession := hWellFormed.session
  intro rest hRest
  cases step with
  | event event => exact hSelects.elim
  | operation operation =>
      unfold Step.Selects Operation.Selects at hSelects
      dsimp only at hSelects
      split at hSelects
      · cases hRest
        exact
          hSession.inWords_begin hAddressable (hPoints _ rfl) _ _
            _ _
      · cases hRest
        exact
          hSession.inWords_begin hAddressable (hPoints _ rfl) _ _
            _ _
      · rcases Option.map_eq_some_iff.mp hRest with
          ⟨selection, hSelection, rfl⟩
        exact
          hSession.inWords_extend hAddressable (hPoints _ rfl) _
            (hWords selection hSelection)
      · rcases Option.bind_eq_some_iff.mp hRest with
          ⟨selection, hSelection, hFinished⟩
        unfold Selection.finish? at hFinished
        rcases Option.ite_none_left_eq_some.mp hFinished with
          ⟨_, hReady⟩
        cases hReady
        exact { hWords selection hSelection with }
      · exact hSelects.elim

theorem Sound.selectsInWords_take
    (hSingle : step.IsSingle)
    (hPoints : step.PointsInWord)
    (hInMemory : terminal.InMemory step) :
    (terminal.take step).session.SelectsInWords := by
  by_cases hSelects : step.Selects
  · exact
      hTerminal.selectsInWords_selects hWords hInMemory.1
        hSelects hPoints
  · intro rest hRest
    rcases hTerminal.selectsRemains_take hWords hSingle
        hSelects hInMemory rest hRest with
      ⟨_, _, _, hStill⟩
    exact hStill

end

------------------------------------------------------------
-- Runs
------------------------------------------------------------

/-
  What every step keeps of selections in such rows unless it
  breaks it holds throughout a run exactly if no step of the
  run breaks it.  The rows stay such ones on the way.
-/
theorem holds_throughout_inWords_iff
    [TextLibrary]
    {Holds : Session → Prop}
    {Breaks : Terminal → Step → Prop}
    (hStep :
      ∀ {terminal : Terminal} {step : Step},
        terminal.Sound →
          Holds terminal.session →
            terminal.session.SelectsInWords →
              step.IsSingle →
                terminal.InMemory step →
                  (Breaks terminal step ∧
                      ¬Holds (terminal.take step).session) ∨
                    (¬Breaks terminal step ∧
                      Holds (terminal.take step).session))
    {terminal : Terminal}
    {operations : List Operation}
    (hTerminal : terminal.Sound)
    (hStart : Holds terminal.session)
    (hWords : terminal.session.SelectsInWords)
    (hPoints :
      ∀ moment ∈ terminal.moments operations,
        moment.2.PointsInWord)
    (hInMemory :
      ∀ moment ∈ terminal.moments operations,
        moment.1.InMemory moment.2) :
    ((∀ moment ∈ terminal.moments operations,
        Holds (moment.1.take moment.2).session) ↔
      ∀ moment ∈ terminal.moments operations,
        ¬Breaks moment.1 moment.2) ∧
      ((∀ moment ∈ terminal.moments operations,
          ¬Breaks moment.1 moment.2) →
        Holds (terminal.performAll operations).session) := by
  have hBoth :
      ∀ (terminal : Terminal) (step : Step),
        terminal.Sound →
          (Holds terminal.session ∧
              terminal.session.SelectsInWords) →
            step.IsSingle →
              (step.PointsInWord ∧ terminal.InMemory step) →
                (Breaks terminal step ∧
                    ¬Holds (terminal.take step).session) ∨
                  (¬Breaks terminal step ∧
                    Holds (terminal.take step).session ∧
                      (terminal.take
                        step).session.SelectsInWords) := by
    intro terminal step hSound hKept hSingle hAllowed
    have hStill :=
      hSound.selectsInWords_take hKept.2 hSingle hAllowed.1
        hAllowed.2
    rcases hStep hSound hKept.1 hKept.2 hSingle hAllowed.2 with
      hBreaks | ⟨hNot, hHolds⟩
    · exact Or.inl hBreaks
    · exact Or.inr ⟨hNot, hHolds, hStill⟩
  exact
    holds_throughout_iff (fun _ => And.left) hBoth hTerminal
      ⟨hStart, hWords⟩
      fun moment hMem =>
        ⟨hPoints moment hMem, hInMemory moment hMem⟩

end Terminal

end VideoTerminal
