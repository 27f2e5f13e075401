import VideoTerminal.Proofs.Line.Spares
import VideoTerminal.Proofs.Selection.Overlap
import VideoTerminal.Proofs.Session.WellFormed
import VideoTerminal.Proofs.Word

/-
  What the changes of a screen in place do to the selected
  cells.  A selection that is not dropped keeps its
  characters, but for a wide one whose first half it covers
  and whose second half it does not.

  Main declarations:
    * `Session.cellAt?`
    * `Session.SameCells`
    * `Selection.Permits`
    * `Session.Spares`
    * `Session.WellFormed.spares_of_edits`
    * `Session.WellFormed.spares_dropped`
    * `Session.WellFormed.spares_clearRegion`
-/

namespace VideoTerminal

namespace Session

------------------------------------------------------------
-- Cells of Screens
------------------------------------------------------------

/- The cell at a point of a screen or of its history. -/
def cellAt?
    (session : Session)
    (screen : Screen)
    (point : Point) : Option Cell :=
  ((session.grid screen).lineAt? point.row).bind
    (·.get? point.col)

/- The same cells on both screens and in their histories. -/
structure SameCells
    (session after : Session) : Prop where
  cols_eq : after.cols = session.cols
  lines_eq :
    ∀ screen,
      (after.grid screen).lines = (session.grid screen).lines
  scrollback_eq :
    ∀ screen,
      (after.grid screen).scrollback =
        (session.grid screen).scrollback

theorem SameCells.refl
    (session : Session) :
    session.SameCells session :=
  ⟨rfl, fun _ => rfl, fun _ => rfl⟩

theorem SameCells.trans
    {session between after : Session}
    (hFirst : session.SameCells between)
    (hSecond : between.SameCells after) :
    session.SameCells after where
  cols_eq := hSecond.cols_eq.trans hFirst.cols_eq
  lines_eq := fun screen =>
    (hSecond.lines_eq screen).trans (hFirst.lines_eq screen)
  scrollback_eq := fun screen =>
    (hSecond.scrollback_eq screen).trans
      (hFirst.scrollback_eq screen)

theorem SameCells.cellAt?_eq
    {session after : Session}
    (hSame : session.SameCells after)
    (screen : Screen)
    (point : Point) :
    after.cellAt? screen point =
      session.cellAt? screen point := by
  unfold cellAt? Grid.lineAt?
  cases point.row with
  | ofNat row =>
      simp only [Grid.line?, hSame.lines_eq screen]
  | negSucc age =>
      simp only [hSame.scrollback_eq screen]

/- Another view of a screen or other records of changes. -/
theorem sameCells_of_grids
    {session after : Session}
    (hPrimary :
      session.primary.Edits after.primary fun _ line => line)
    (hAlternate :
      session.alternate.Edits after.alternate
        fun _ line => line) :
    session.SameCells after where
  cols_eq := hPrimary.cols_eq
  lines_eq := by
    intro screen
    cases screen with
    | primary =>
        refine hPrimary.lines_eq.trans ?_
        exact (Grid.Edits.refl session.primary).lines_eq.symm
    | alternate =>
        refine hAlternate.lines_eq.trans ?_
        exact
          (Grid.Edits.refl session.alternate).lines_eq.symm
  scrollback_eq := by
    intro screen
    cases screen with
    | primary => exact hPrimary.scrollback_eq
    | alternate => exact hAlternate.scrollback_eq

------------------------------------------------------------
-- The Screen in Use
------------------------------------------------------------

section

variable (session : Session) (change : Grid → Grid)

@[simp] theorem screen_modifyActive :
    (session.modifyActive change).screen =
      session.screen := by
  unfold modifyActive
  split <;> rfl

@[simp] theorem selection_modifyActive :
    (session.modifyActive change).selection =
      session.selection := by
  unfold modifyActive
  split <;> rfl

@[simp] theorem active_modifyActive :
    (session.modifyActive change).active =
      change session.active := by
  rcases session with ⟨_, _, _, screen⟩
  cases screen <;> rfl

theorem grid_modifyActive :
    (session.modifyActive change).grid session.screen =
      change session.active := by
  rw [← active_modifyActive session change, Session.active,
    screen_modifyActive]

theorem grid_modifyActive_of_ne
    {screen : Screen}
    (hOther : screen ≠ session.screen) :
    (session.modifyActive change).grid screen =
      session.grid screen := by
  rcases session with ⟨_, _, _, used⟩
  cases used with
  | primary =>
      cases screen with
      | primary => exact absurd rfl hOther
      | alternate => rfl
  | alternate =>
      cases screen with
      | primary => rfl
      | alternate => exact absurd rfl hOther

end

theorem sameCells_modifyActive
    {session : Session}
    {change : Grid → Grid}
    (hCols :
      (change session.active).cols = session.active.cols)
    (hLines :
      (change session.active).lines = session.active.lines)
    (hHistory :
      (change session.active).scrollback =
        session.active.scrollback) :
    session.SameCells (session.modifyActive change) := by
  have hGrid :
      ∀ screen,
        (session.modifyActive change).grid screen =
          if screen = session.screen then
            change session.active
          else
            session.grid screen := by
    intro screen
    split
    · rename_i hUsed
      rw [hUsed, grid_modifyActive]
    · exact grid_modifyActive_of_ne session change ‹_›
  constructor
  · show ((session.modifyActive change).grid .primary).cols =
      (session.grid .primary).cols
    rw [hGrid]
    split
    · rename_i hUsed
      rw [hCols, Session.active, hUsed]
    · rfl
  · intro screen
    rw [hGrid]
    split
    · rename_i hUsed
      rw [hLines, Session.active, hUsed]
    · rfl
  · intro screen
    rw [hGrid]
    split
    · rename_i hUsed
      rw [hHistory, Session.active, hUsed]
    · rfl

end Session

------------------------------------------------------------
-- What a Selection Permits
------------------------------------------------------------

namespace Selection

/-
  What may become of a cell that a selection covers: it is
  kept, or it is a wide one of the screen in use that is cut
  where the selection ends between its halves.
-/
def Permits
    (selection : Selection)
    (screen : Screen)
    (cols : Nat)
    (point : Point)
    (old new : Cell) : Prop :=
  old.Keeps new ∨
    (old.Cut new ∧ selection.screen = screen ∧
      0 ≤ point.row ∧
      selection.contains ⟨point.col + 1, point.row⟩
        selection.screen cols = false)

theorem Permits.trans
    {selection : Selection}
    {screen : Screen}
    {cols : Nat}
    {point : Point}
    {old between new : Cell}
    (hFirst : selection.Permits screen cols point old between)
    (hSecond :
      selection.Permits screen cols point between new) :
    selection.Permits screen cols point old new := by
  rcases hFirst with hKeeps | ⟨hCut, hWhere⟩
  · rcases hSecond with hLast | ⟨hLast, hWhere⟩
    · exact Or.inl (hKeeps.trans hLast)
    · exact Or.inr ⟨hKeeps.trans_cut hLast, hWhere⟩
  · rcases hSecond with hLast | ⟨hLast, _⟩
    · exact Or.inr ⟨hCut.trans_keeps hLast, hWhere⟩
    · exact Or.inr ⟨hCut.trans hLast, hWhere⟩

end Selection

namespace Session

/-
  A selection that is still there afterwards is the same as
  before, and its cells have changed in no way but those that
  it permits.
-/
structure SparesFor
    (session after : Session)
    (selection : Selection) : Prop where
  selection_eq : session.selection = some selection
  screen_eq : after.screen = session.screen
  cols_eq : after.cols = session.cols
  none_eq :
    ∀ point,
      session.cellAt? selection.screen point = none →
        after.cellAt? selection.screen point = none
  some_eq :
    ∀ point,
      selection.contains point selection.screen
          session.cols →
        ∀ old,
          session.cellAt? selection.screen point =
              some old →
            ∃ new,
              after.cellAt? selection.screen point =
                  some new ∧
                selection.Permits session.screen session.cols
                  point old new

/-
  Whatever is still selected afterwards is spared, and the
  alternate screen is not entered.
-/
structure Spares
    (session after : Session) : Prop where
  screen :
    after.screen = .alternate → session.screen = .alternate
  selected :
    ∀ selection,
      after.selection = some selection →
        session.SparesFor after selection

theorem Spares.trans
    {session between after : Session}
    (hFirst : session.Spares between)
    (hSecond : between.Spares after) :
    session.Spares after := by
  refine ⟨fun hIn => hFirst.screen (hSecond.screen hIn), ?_⟩
  intro selection hSelection
  have hLast := hSecond.selected selection hSelection
  have hBefore :=
    hFirst.selected selection hLast.selection_eq
  refine
    { selection_eq := hBefore.selection_eq
      screen_eq := hLast.screen_eq.trans hBefore.screen_eq
      cols_eq := hLast.cols_eq.trans hBefore.cols_eq
      none_eq := ?_
      some_eq := ?_ }
  · intro point hNone
    exact hLast.none_eq point (hBefore.none_eq point hNone)
  · intro point hCovered old hOld
    rcases hBefore.some_eq point hCovered old hOld with
      ⟨middle, hMiddle, hPermits⟩
    rw [← hBefore.cols_eq] at hCovered
    rcases hLast.some_eq point hCovered middle hMiddle with
      ⟨new, hNew, hNext⟩
    rw [hBefore.cols_eq, hBefore.screen_eq] at hNext
    exact ⟨new, hNew, hPermits.trans hNext⟩

/- Nothing is left to be spared. -/
theorem spares_of_selection_eq_none
    {session after : Session}
    (hScreen :
      after.screen = .alternate → session.screen = .alternate)
    (hNone : after.selection = none) :
    session.Spares after := by
  refine ⟨hScreen, ?_⟩
  intro selection hSelection
  rw [hNone] at hSelection
  cases hSelection

theorem spares_of_sameCells
    {session after : Session}
    (hSelection :
      ∀ selection,
        after.selection = some selection →
          session.selection = some selection)
    (hScreen : after.screen = session.screen)
    (hSame : session.SameCells after) :
    session.Spares after := by
  refine ⟨fun hIn => hScreen.symm.trans hIn, ?_⟩
  intro selection hSome
  refine
    { selection_eq := hSelection selection hSome
      screen_eq := hScreen
      cols_eq := hSame.cols_eq
      none_eq := ?_
      some_eq := ?_ }
  · intro point hNone
    rw [hSame.cellAt?_eq, hNone]
  · intro point _ old hOld
    refine ⟨old, ?_, Or.inl (Cell.Keeps.refl old)⟩
    rw [hSame.cellAt?_eq, hOld]

/- The screens and what is selected of them. -/
def scene
    (session : Session) :
    Screen × Grid × Grid × Option Selection :=
  (session.screen, session.primary, session.alternate,
    session.selection)

theorem spares_of_scene_eq
    {session after : Session}
    (hScene : after.scene = session.scene) :
    session.Spares after := by
  unfold scene at hScene
  simp only [Prod.mk.injEq] at hScene
  rcases hScene with
    ⟨hScreen, hPrimary, hAlternate, hSelection⟩
  apply spares_of_sameCells _ hScreen
  · apply sameCells_of_grids
    · rw [hPrimary]
      exact Grid.Edits.refl _
    · rw [hAlternate]
      exact Grid.Edits.refl _
  · intro selection hSome
    rw [← hSelection, hSome]

theorem Spares.refl
    (session : Session) :
    session.Spares session :=
  spares_of_scene_eq rfl

------------------------------------------------------------
-- Changes in Place
------------------------------------------------------------

section

variable {config : Config} {cols rows : Nat}
  {session : Session}

section

variable {after : Session} {edit : Nat → Line → Line}
  (hHere :
    session.active.Edits (after.grid session.screen) edit)

include hHere

theorem cols_of_edits
    (hOther :
      ∀ screen,
        screen ≠ session.screen →
          after.grid screen = session.grid screen) :
    after.cols = session.cols := by
  have hCols := hHere.cols_eq
  unfold Session.active at hCols
  cases hUsed : session.screen with
  | primary =>
      rw [hUsed] at hCols
      exact hCols
  | alternate =>
      rw [hUsed] at hOther
      exact congrArg Grid.cols (hOther .primary (by simp))

/- The rows above the screen stay as they are. -/
theorem cellAt?_of_edits_negSucc
    (col age : Nat) :
    after.cellAt? session.screen ⟨col, .negSucc age⟩ =
      session.cellAt? session.screen ⟨col, .negSucc age⟩ := by
  have hScrollback := hHere.scrollback_eq
  unfold Session.active at hScrollback
  simp only [cellAt?, Grid.lineAt?, hScrollback]

theorem cellAt?_of_edits_ofNat
    (col y : Nat) :
    after.cellAt? session.screen ⟨col, y⟩ =
      (session.active.line? y).bind fun line =>
        (edit y line).get? col := by
  unfold cellAt?
  show (((after.grid session.screen).line? y).bind _) = _
  rw [hHere.line?_eq y, Option.bind_map]
  rfl

end

/-
  A change of the lines of the screen in use spares a
  selection if it does to the selected cells of each line what
  the selection permits.
-/
theorem WellFormed.spares_of_edits
    (hSession : session.WellFormed config cols rows)
    {after : Session}
    {edit : Nat → Line → Line}
    (hScreen : after.screen = session.screen)
    (hEdits : session.active.Edits after.active edit)
    (hOther :
      ∀ screen,
        screen ≠ session.screen →
          after.grid screen = session.grid screen)
    (hWidth :
      ∀ y line,
        line.WellFormed cols →
          (edit y line).width = line.width)
    (hSelection :
      ∀ selection,
        after.selection = some selection →
          session.selection = some selection)
    (hCells :
      ∀ selection,
        after.selection = some selection →
          selection.screen = session.screen →
            ∀ (y : Nat) line,
              line.WellFormed cols →
                ∀ col old,
                  selection.contains ⟨col, y⟩
                      selection.screen session.cols →
                    line.get? col = some old →
                      ∃ new,
                        (edit y line).get? col = some new ∧
                          selection.Permits session.screen
                            session.cols ⟨col, y⟩ old new) :
    session.Spares after := by
  have hHere :
      session.active.Edits (after.grid session.screen)
        edit := by
    rw [← hScreen]
    exact hEdits
  have hSame :
      ∀ screen,
        screen ≠ session.screen →
          ∀ point,
            after.cellAt? screen point =
              session.cellAt? screen point := by
    intro screen hNe point
    unfold cellAt?
    rw [hOther screen hNe]
  have hBefore :
      ∀ col (y : Nat),
        session.cellAt? session.screen ⟨col, y⟩ =
          (session.active.line? y).bind (·.get? col) :=
    fun _ _ => rfl
  refine ⟨fun hIn => hScreen.symm.trans hIn, ?_⟩
  intro selection hSome
  refine
    { selection_eq := hSelection selection hSome
      screen_eq := hScreen
      cols_eq := cols_of_edits hHere hOther
      none_eq := ?_
      some_eq := ?_ }
  · rintro ⟨col, row⟩ hNone
    by_cases hEq : selection.screen = session.screen
    · rw [hEq] at hNone ⊢
      cases row with
      | negSucc age =>
          rw [cellAt?_of_edits_negSucc hHere, hNone]
      | ofNat y =>
          refine (cellAt?_of_edits_ofNat hHere col y).trans ?_
          have hNoCell := (hBefore col y).symm.trans hNone
          cases hLine : session.active.line? y with
          | none => rfl
          | some line =>
              have hInside :=
                hSession.active.of_line?_eq_some hLine
              rw [hLine] at hNoCell
              have hBeyond : line.width ≤ col :=
                List.getElem?_eq_none_iff.mp hNoCell
              apply Line.get?_eq_none_of_width_le
              rw [hWidth y line hInside]
              exact hBeyond
    · rw [hSame _ hEq, hNone]
  · rintro ⟨col, row⟩ hCovered old hOld
    by_cases hEq : selection.screen = session.screen
    · have hThere := hOld
      rw [hEq] at hThere ⊢
      cases row with
      | negSucc age =>
          refine ⟨old, ?_, Or.inl (Cell.Keeps.refl old)⟩
          rw [cellAt?_of_edits_negSucc hHere, hThere]
      | ofNat y =>
          rcases Option.bind_eq_some_iff.mp
              ((hBefore col y).symm.trans hThere) with
            ⟨line, hLine, hGet⟩
          rcases hCells selection hSome hEq y line
              (hSession.active.of_line?_eq_some hLine) col
              old hCovered hGet with
            ⟨new, hNew, hPermits⟩
          refine ⟨new, ?_, hPermits⟩
          refine (cellAt?_of_edits_ofNat hHere col y).trans ?_
          rw [hLine]
          exact hNew
    · refine ⟨old, ?_, Or.inl (Cell.Keeps.refl old)⟩
      rw [hSame _ hEq, hOld]

/- A selection that is not dropped covers no cell there. -/
theorem not_contains_of_dropSelectionIn
    {x₁ y₁ x₂ y₂ : Nat}
    (hColumns : x₁ ≤ x₂)
    (hWord : y₂ < 2 ^ 63)
    {selection : Selection}
    (hSome :
      (session.dropSelectionIn x₁ y₁ x₂ y₂).selection =
        some selection)
    (hScreen : selection.screen = session.screen)
    {col y : Nat}
    (hCol : x₁ ≤ col ∧ col ≤ x₂)
    (hRow : y₁ ≤ y ∧ y ≤ y₂) :
    selection.contains ⟨col, y⟩ selection.screen
      session.cols = false := by
  have hKept := (Option.filter_eq_some_iff.mp hSome).2
  rw [Bool.not_eq_true', Bool.and_eq_false_iff,
    beq_eq_false_iff_ne] at hKept
  rcases hKept with hOther | hApart
  · exact absurd hScreen hOther
  · cases hHere :
        selection.contains ⟨col, y⟩ selection.screen
          session.cols with
    | false => rfl
    | true =>
        have hOverlaps :
            selection.overlaps x₁ y₁ x₂ y₂ session.cols :=
          (Selection.overlaps_iff hColumns).mpr
            ⟨⟨col, y⟩, hCol,
              ⟨Int.ofNat_le.mpr hRow.1,
                Int.ofNat_le.mpr hRow.2⟩, hHere⟩
        rw [Word.signed_natCast (by omega),
          Word.signed_natCast hWord, hOverlaps] at hApart
        cases hApart

theorem selection_of_dropSelectionIn
    {x₁ y₁ x₂ y₂ : Nat}
    {selection : Selection}
    (hSome :
      (session.dropSelectionIn x₁ y₁ x₂ y₂).selection =
        some selection) :
    session.selection = some selection :=
  (Option.filter_eq_some_iff.mp hSome).1

/-
  Dropping the selection where it meets a rectangle, and then
  changing the lines there, spares the selection.
-/
theorem WellFormed.spares_dropped
    (hSession : session.WellFormed config cols rows)
    {x₁ y₁ x₂ y₂ : Nat}
    (hColumns : x₁ ≤ x₂)
    (hWord : y₂ < 2 ^ 63)
    {change : Grid → Grid}
    {edit : Line → Line}
    (hEdits :
      session.active.Edits (change session.active)
        (Grid.inRows y₁ y₂ edit))
    (hLines :
      ∀ line,
        line.WellFormed cols →
          Line.Spares x₁ x₂ line (edit line)) :
    session.Spares
      ((session.dropSelectionIn x₁ y₁ x₂ y₂).modifyActive
        change) := by
  have hActive :
      session.active.Edits
        ((session.dropSelectionIn x₁ y₁ x₂ y₂).modifyActive
          change).active
        (Grid.inRows y₁ y₂ edit) := by
    rw [active_modifyActive]
    exact hEdits
  refine
    hSession.spares_of_edits (screen_modifyActive _ _)
      hActive ?_ ?_ ?_ ?_
  · intro screen hOther
    exact grid_modifyActive_of_ne _ _ hOther
  · intro y line hLine
    unfold Grid.inRows
    split
    · exact (hLines line hLine).width_eq
    · rfl
  · intro selection hSome
    rw [selection_modifyActive] at hSome
    exact selection_of_dropSelectionIn hSome
  · intro selection hSome hScreen y line hLine col old
      hCovered hOld
    rw [selection_modifyActive] at hSome
    unfold Grid.inRows
    split
    · rename_i hRow
      have hApart :
          ∀ col,
            x₁ ≤ col ∧ col ≤ x₂ →
              selection.contains ⟨col, y⟩ selection.screen
                session.cols = false :=
        fun _ hCol =>
          not_contains_of_dropSelectionIn hColumns hWord hSome
            hScreen hCol hRow
      have hOutside : col < x₁ ∨ x₂ < col := by
        rcases Nat.lt_or_ge col x₁ with hBefore | hFrom
        · exact Or.inl hBefore
        · rcases Nat.lt_or_ge x₂ col with hAfter | hUpTo
          · exact Or.inr hAfter
          · rw [hApart col ⟨hFrom, hUpTo⟩] at hCovered
            cases hCovered
      rcases (hLines line hLine).cells col hOutside old
          hOld with
        ⟨new, hNew, hKept⟩
      refine ⟨new, hNew, ?_⟩
      rcases hKept with hKeeps | ⟨hBefore, hCut⟩
      · exact Or.inl hKeeps
      · refine
          Or.inr
            ⟨hCut, hScreen, Int.natCast_nonneg y, ?_⟩
        exact hApart (col + 1) (by omega)
    · exact ⟨old, hOld, Or.inl (Cell.Keeps.refl old)⟩

theorem grid_clearRegion
    (session : Session)
    (x₁ y₁ x₂ y₂ : Nat) :
    (session.clearRegion x₁ y₁ x₂ y₂).grid session.screen =
      session.active.eraseRect x₁ y₁ x₂ y₂ session.blank :=
  grid_modifyActive (session.dropSelectionIn _ _ _ _) _

/-
  Clearing a rectangle spares what is selected outside it, as
  long as its rows are numbers that a word has room for.
-/
theorem WellFormed.spares_clearRegion
    (hSession : session.WellFormed config cols rows)
    {y₁ y₂ : Nat}
    (hWord : max y₁ y₂ < 2 ^ 63)
    (x₁ x₂ : Nat) :
    session.Spares (session.clearRegion x₁ y₁ x₂ y₂) := by
  unfold Session.clearRegion
  apply hSession.spares_dropped (by omega) hWord
    (Grid.edits_eraseRect session.active x₁ y₁ x₂ y₂
      session.blank)
  intro line hLine
  unfold Grid.eraseColumns
  split
  · have hErased :=
      hLine.spares_eraseSpan
        (show min x₁ x₂ ≤
          min (max x₁ x₂) (session.active.cols - 1) by
            omega)
        (isPlain_sessionBlank session) rfl
    exact hErased.mono_right (Nat.min_le_left _ _)
  · exact Line.Spares.refl _ _ line

end

end Session

end VideoTerminal
