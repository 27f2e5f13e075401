import VideoTerminal.Proofs.Session.Quiet
import VideoTerminal.Proofs.Terminal.Reachable
import VideoTerminal.Text.Linked

/-
  Selections that outlive the text they were made of.  A step
  that scrolls no line may leave a selection whose characters
  have changed in four cases only, and each of them is told
  exactly: a substitute character written into it, the switch
  to an alternate screen that it was left on, a rectangle that
  is cleared down to a row for which a word has no room, and a
  change next to a wide character of which it covers one half.

  Main declarations:
    * `Session.Stale`
    * `Session.CoversCursor`
    * `Session.CoversHidden`
    * `Session.CoversShown`
    * `Session.SplitsWide`
    * `Terminal.Step`
    * `Terminal.Quiet`
    * `Terminal.WellFormed.step_cases`
    * `Terminal.Reachable.goesStale_iff`
-/

namespace VideoTerminal

namespace Session

------------------------------------------------------------
-- Stale Selections
------------------------------------------------------------

/- The character at a point of a screen or of its history. -/
def charAt?
    (session : Session)
    (screen : Screen)
    (point : Point) : Option Char :=
  (session.cellAt? screen point).map Cell.char

/-
  A character that was selected has changed, and something is
  selected still.
-/
def Stale
    (session after : Session) : Prop :=
  after.selection.isSome ∧
    ∃ selection,
      session.selection = some selection ∧
        ∃ point,
          selection.contains point selection.screen
              session.cols ∧
            after.charAt? selection.screen point ≠
              session.charAt? selection.screen point

/- The cell of the cursor. -/
def cursorPoint
    (session : Session) : Point :=
  ⟨session.cursor.col, session.cursor.row⟩

/-
  The selection covers the cell of the cursor, or the first
  half of a wide character whose second half is there, and a
  question mark would change what it shows.
-/
def CoversCursor
    (session : Session) : Prop :=
  ∃ selection,
    session.selection = some selection ∧
      selection.screen = session.screen ∧
      ((selection.contains session.cursorPoint
            selection.screen session.cols ∧
          session.charAt? session.screen
            session.cursorPoint ≠ some '?') ∨
        ∃ col second,
          col + 1 = session.cursor.col ∧
            session.cellAt? session.screen
                session.cursorPoint = some second ∧
              second.placeholder ∧
            selection.contains ⟨col, session.cursor.row⟩
              selection.screen session.cols ∧
            session.charAt? session.screen
              ⟨col, session.cursor.row⟩ ≠ some ' ')

/- The selection covers a character of the alternate screen. -/
def CoversHidden
    (session : Session) : Prop :=
  ∃ selection,
    session.selection = some selection ∧
      selection.screen = .alternate ∧
      ∃ point c,
        selection.contains point selection.screen
            session.cols ∧
          session.charAt? .alternate point = some c ∧
          c ≠ ' '

/- The selection covers a character of the screen in use. -/
def CoversShown
    (session : Session) : Prop :=
  ∃ selection,
    session.selection = some selection ∧
      selection.screen = session.screen ∧
      ∃ (col row : Nat) (c : Char),
        selection.contains ⟨col, row⟩ selection.screen
            session.cols ∧
          session.charAt? session.screen ⟨col, row⟩ =
            some c ∧
          c ≠ ' '

/-
  The selection covers the first half of a wide character of
  the screen in use, and does not cover the second.
-/
def SplitsWide
    (session : Session) : Prop :=
  ∃ selection,
    session.selection = some selection ∧
      selection.screen = session.screen ∧
      ∃ (col row : Nat) (lead : Cell),
        session.cellAt? session.screen ⟨col, row⟩ =
            some lead ∧
          lead.wide ∧ lead.char ≠ ' ' ∧
          selection.contains ⟨col, row⟩ selection.screen
            session.cols ∧
          selection.contains ⟨col + 1, row⟩ selection.screen
            session.cols = false

------------------------------------------------------------
-- Steps That Spare the Selection
------------------------------------------------------------

theorem SameCells.not_stale
    {session after : Session}
    (hSame : session.SameCells after) :
    ¬session.Stale after := by
  rintro ⟨_, selection, _, point, _, hChanged⟩
  apply hChanged
  unfold charAt?
  rw [hSame.cellAt?_eq]

/- What a selection permits can only cut a character of it. -/
theorem Spares.splitsWide
    {session after : Session}
    (hSpares : session.Spares after)
    (hStale : session.Stale after) :
    session.SplitsWide := by
  rcases hStale with
    ⟨hSome, selection, hBefore, ⟨col, row⟩, hCovered,
      hChanged⟩
  rcases Option.isSome_iff_exists.mp hSome with
    ⟨selected, hAfter⟩
  have hFor := hSpares.selected selected hAfter
  obtain rfl : selected = selection :=
    Option.some.inj (hFor.selection_eq.symm.trans hBefore)
  unfold charAt? at hChanged
  cases hOld :
      session.cellAt? selected.screen ⟨col, row⟩ with
  | none =>
      rw [hOld, hFor.none_eq _ hOld] at hChanged
      exact absurd rfl hChanged
  | some old =>
      rcases hFor.some_eq _ hCovered old hOld with
        ⟨new, hNew, hPermits⟩
      rw [hOld, hNew] at hChanged
      rcases hPermits with
        hKeeps | ⟨hCut, hScreen, hRow, hApart⟩
      · exact
          absurd (congrArg some hKeeps.char_eq) hChanged
      · dsimp only at hRow hApart
        obtain ⟨y, rfl⟩ := Int.eq_ofNat_of_zero_le hRow
        rw [hScreen] at hOld
        refine
          ⟨selected, hBefore, hScreen, col, y, old, hOld,
            hCut.wide, ?_, hCovered, hApart⟩
        intro hSpace
        apply hChanged
        rw [Option.map_some, Option.map_some, hCut.char_eq,
          hSpace]

------------------------------------------------------------
-- Entering the Alternate Screen
------------------------------------------------------------

section

variable {config : Config} {cols rows : Nat}
  {session : Session}

/- Every character of the alternate screen becomes a space. -/
theorem WellFormed.charAt?_of_enters
    (hSession : session.WellFormed config cols rows)
    {after : Session}
    (hEnters : session.Enters after)
    (point : Point) :
    after.charAt? .primary point =
        session.charAt? .primary point ∧
      after.charAt? .alternate point =
        (session.charAt? .alternate point).map
          fun _ => ' ' := by
  rcases hEnters.alternate_lines with ⟨blank, hSpace, hLines⟩
  rcases point with ⟨col, row⟩
  unfold charAt? cellAt? Grid.lineAt? Session.grid
  dsimp only
  rw [hEnters.primary_scrollback,
    hEnters.alternate_scrollback]
  cases row with
  | ofNat y =>
      simp only [Grid.line?, hEnters.primary_lines, hLines,
        List.getElem?_map, true_and]
      cases session.alternate.lines[y]? with
      | none => rfl
      | some line =>
          have hGet :=
            Line.get?_ofBlank line.width blank col
          simp only [Option.map_some, Option.bind_some,
            Line.fill, hGet]
          split
          · rename_i hInside
            rcases Line.exists_get?_eq_some hInside with
              ⟨cell, hCell⟩
            rw [hCell, Option.map_some, hSpace]
            rfl
          · rename_i hOutside
            rw [Line.get?_eq_none_of_width_le
              (Nat.le_of_not_lt hOutside)]
            rfl
  | negSucc age =>
      have hEmpty : session.alternate.scrollback.get? age =
          none := by
        have hSize := hSession.alternate.size_eq_zero
        unfold Scrollback.get?
        rw [if_neg (by omega)]
      simp only [hEmpty, true_and]
      rfl

theorem WellFormed.stale_iff_of_enters
    (hSession : session.WellFormed config cols rows)
    {after : Session}
    (hEnters : session.Enters after) :
    session.Stale after ↔ session.CoversHidden := by
  have hChars := hSession.charAt?_of_enters hEnters
  constructor
  · rintro ⟨_, selection, hSome, point, hCovered, hChanged⟩
    refine ⟨selection, hSome, ?_⟩
    cases hScreen : selection.screen with
    | primary =>
        rw [hScreen] at hChanged
        exact absurd (hChars point).1 hChanged
    | alternate =>
        rw [hScreen] at hCovered hChanged
        rw [(hChars point).2] at hChanged
        cases hChar : session.charAt? .alternate point with
        | none =>
            rw [hChar] at hChanged
            exact absurd rfl hChanged
        | some c =>
            refine ⟨rfl, point, c, hCovered, hChar, ?_⟩
            rintro rfl
            rw [hChar] at hChanged
            exact absurd rfl hChanged
  · rintro
      ⟨selection, hSome, hScreen, point, c, hCovered, hChar,
        hShown⟩
    refine ⟨?_, selection, hSome, point, hCovered, ?_⟩
    · rw [hEnters.selection_eq, hSome]
      rfl
    · rw [hScreen, (hChars point).2, hChar]
      intro hSame
      exact hShown (Option.some.inj hSame).symm

------------------------------------------------------------
-- Substitute Characters
------------------------------------------------------------

/- The cells of a row of the screen in use. -/
theorem cellAt?_active
    (session : Session)
    (col y : Nat) :
    session.cellAt? session.screen ⟨col, y⟩ =
      (session.active.line? y).bind (·.get? col) :=
  rfl

/-
  A question mark at the cursor, and a space for the first
  half of a wide character that it takes the other half of.
-/
theorem WellFormed.charAt?_showSubstitute
    (hSession : session.WellFormed config cols rows)
    (screen : Screen)
    (point : Point) :
    session.showSubstitute.charAt? screen point =
      if screen = session.screen ∧
          point = session.cursorPoint then
        some '?'
      else if screen = session.screen ∧
          point.row = session.cursor.row ∧
          point.col + 1 = session.cursor.col ∧
          (session.cellAt? session.screen
            session.cursorPoint).any Cell.placeholder then
        some ' '
      else
        session.charAt? screen point := by
  have hEdits := hSession.edits_showSubstitute
  have hActive := hSession.active
  rcases point with ⟨col, row⟩
  unfold Session.showSubstitute charAt?
  dsimp only
  by_cases hScreen : screen = session.screen
  · subst hScreen
    unfold cellAt?
    rw [grid_modifyActive]
    cases row with
    | negSucc age =>
        rw [if_neg (by simp [cursorPoint]),
          if_neg (by rintro ⟨_, hRow, _⟩; cases hRow)]
        simp only [Grid.lineAt?, hEdits.scrollback_eq]
        rfl
    | ofNat y =>
        simp only [Grid.lineAt?, hEdits.line?_eq, true_and,
          cursorPoint, Point.mk.injEq, Int.ofNat_eq_natCast,
          Int.natCast_inj]
        cases hLine : session.active.line? y with
        | none =>
            have hRow : y ≠ session.cursor.row := by
              rintro rfl
              rcases hActive.exists_line?_eq_some
                  hSession.cursor_row with
                ⟨line, hThere⟩
              rw [hThere] at hLine
              cases hLine
            unfold Session.active at hLine
            simp [hRow, hLine]
        | some line =>
            have hInside := hActive.of_line?_eq_some hLine
            unfold Session.active at hLine
            by_cases hRow : y = session.cursor.row
            · subst hRow
              have hChar :=
                hInside.char_overwrite hSession.cursor_col
                  (session.cursor.pen.cell '?') col
              simp only [Option.map_some, Option.bind_some,
                Grid.onRow_self, hLine, and_true, true_and]
              exact hChar
            · simp [Grid.onRow_of_ne hRow, hRow, hLine]
  · rw [if_neg fun hBoth => hScreen hBoth.1,
      if_neg fun hAll => hScreen hAll.1]
    unfold cellAt?
    rw [grid_modifyActive_of_ne _ _ hScreen]

theorem WellFormed.stale_showSubstitute_iff
    (hSession : session.WellFormed config cols rows) :
    session.Stale session.showSubstitute ↔
      session.CoversCursor := by
  have hChars := hSession.charAt?_showSubstitute
  have hSelection :
      session.showSubstitute.selection = session.selection :=
    selection_modifyActive _ _
  constructor
  · rintro ⟨_, selection, hSome, point, hCovered, hChanged⟩
    rw [hChars] at hChanged
    by_cases hHere :
        selection.screen = session.screen ∧
          point = session.cursorPoint
    · rw [if_pos hHere] at hChanged
      rcases hHere with ⟨hScreen, rfl⟩
      refine ⟨selection, hSome, hScreen, Or.inl ?_⟩
      rw [hScreen] at hChanged
      exact ⟨hCovered, hChanged.symm⟩
    · rw [if_neg hHere] at hChanged
      split at hChanged
      · rename_i hBefore
        rcases point with ⟨col, row⟩
        rcases hBefore with ⟨hScreen, hRow, hCol, hHalf⟩
        dsimp only at hRow hCol
        subst hRow
        rcases Option.any_eq_true _ _ |>.mp hHalf with
          ⟨second, hSecond, hPlaceholder⟩
        refine ⟨selection, hSome, hScreen, Or.inr ?_⟩
        rw [hScreen] at hChanged
        exact
          ⟨col, second, hCol, hSecond, hPlaceholder,
            hCovered, hChanged.symm⟩
      · exact absurd rfl hChanged
  · rintro ⟨selection, hSome, hScreen, hCovers⟩
    have hStill : session.showSubstitute.selection.isSome := by
      rw [hSelection, hSome]
      rfl
    rcases hCovers with
      ⟨hCovered, hShown⟩ |
        ⟨col, second, hCol, hSecond, hPlaceholder, hCovered,
          hShown⟩
    · refine
        ⟨hStill, selection, hSome, session.cursorPoint,
          hCovered, ?_⟩
      rw [hChars, if_pos ⟨hScreen, rfl⟩, hScreen]
      exact hShown.symm
    · refine
        ⟨hStill, selection, hSome,
          ⟨col, session.cursor.row⟩, hCovered, ?_⟩
      have hOther :
          (⟨col, session.cursor.row⟩ : Point) ≠
            session.cursorPoint := by
        intro hSame
        have hSameCol := congrArg Point.col hSame
        unfold cursorPoint at hSameCol
        dsimp only at hSameCol
        omega
      rw [hChars, if_neg fun hBoth => hOther hBoth.2, if_pos,
        hScreen]
      · exact hShown.symm
      · refine ⟨hScreen, rfl, hCol, ?_⟩
        rw [hSecond]
        exact hPlaceholder

------------------------------------------------------------
-- Rectangles
------------------------------------------------------------

/- Clearing a rectangle makes blanks of what is on screen. -/
theorem charAt?_clearRegion_cases
    (session : Session)
    (x₁ y₁ x₂ y₂ : Nat)
    (screen : Screen)
    (point : Point) :
    (session.clearRegion x₁ y₁ x₂ y₂).charAt? screen point =
        session.charAt? screen point ∨
      (screen = session.screen ∧ 0 ≤ point.row ∧
        (session.charAt? screen point).isSome ∧
        (session.clearRegion x₁ y₁ x₂ y₂).charAt? screen
            point = some ' ') := by
  rcases point with ⟨col, row⟩
  unfold charAt?
  by_cases hScreen : screen = session.screen
  · subst hScreen
    have hHere :=
      Grid.edits_eraseRect session.active x₁ y₁ x₂ y₂
        session.blank
    rw [← grid_clearRegion] at hHere
    cases row with
    | negSucc age =>
        rw [cellAt?_of_edits_negSucc hHere]
        exact Or.inl rfl
    | ofNat y =>
        rw [Int.ofNat_eq_natCast,
          cellAt?_of_edits_ofNat hHere col y,
          session.cellAt?_active col y]
        cases session.active.line? y with
        | none => exact Or.inl rfl
        | some line =>
            rw [Option.bind_some, Option.bind_some]
            unfold Grid.inRows Grid.eraseColumns
            split
            · split
              · rcases line.get?_eraseSpan_cases
                    (show
                      min x₁ x₂ ≤
                        min (max x₁ x₂)
                          (session.active.cols - 1) by
                      omega)
                    session.blank col with
                  hSame | ⟨hThere, hErased⟩
                · rw [hSame]
                  exact Or.inl rfl
                · rw [hErased]
                  refine
                    Or.inr
                      ⟨rfl, Int.natCast_nonneg y, ?_, rfl⟩
                  rw [Option.isSome_map]
                  exact hThere
              · exact Or.inl rfl
            · exact Or.inl rfl
  · have hGrid :
        (session.clearRegion x₁ y₁ x₂ y₂).grid screen =
          session.grid screen :=
      grid_modifyActive_of_ne _ _ hScreen
    unfold cellAt?
    rw [hGrid]
    exact Or.inl rfl

/- So a selection that is not dropped can go stale by it. -/
theorem coversShown_of_stale_clearRegion
    {x₁ y₁ x₂ y₂ : Nat}
    (hStale :
      session.Stale (session.clearRegion x₁ y₁ x₂ y₂)) :
    session.CoversShown := by
  rcases hStale with
    ⟨_, selection, hSome, ⟨col, row⟩, hCovered, hChanged⟩
  rcases session.charAt?_clearRegion_cases x₁ y₁ x₂ y₂
      selection.screen ⟨col, row⟩ with
    hSame | ⟨hScreen, hRow, hThere, hBlank⟩
  · exact absurd hSame hChanged
  · rcases Option.isSome_iff_exists.mp hThere with ⟨c, hChar⟩
    obtain ⟨y, rfl⟩ := Int.eq_ofNat_of_zero_le hRow
    rw [hBlank, hChar] at hChanged
    refine
      ⟨selection, hSome, hScreen, col, y, c, hCovered, ?_, ?_⟩
    · rw [← hScreen]
      exact hChar
    · rintro rfl
      exact hChanged rfl

/-
  The last number of a word without a sign is the row before
  the first one, so that no row seems to be cleared.
-/
theorem WellFormed.stale_clearRegion_of_coversShown
    (hSession : session.WellFormed config cols rows)
    (hTall : rows ≤ 2 ^ 63)
    (hCovers : session.CoversShown) :
    session.Stale
      (session.clearRegion 0 0 (cols - 1) (2 ^ 64 - 1)) := by
  rcases hCovers with
    ⟨selection, hSome, hScreen, col, row, c, hCovered, hChar,
      hShown⟩
  have hKept :
      (session.clearRegion 0 0 (cols - 1)
        (2 ^ 64 - 1)).selection = some selection := by
    unfold Session.clearRegion
    rw [selection_modifyActive]
    apply Option.filter_eq_some_iff.mpr
    refine ⟨hSome, ?_⟩
    rw [Bool.not_eq_true', Bool.and_eq_false_iff]
    refine Or.inr (Bool.eq_false_iff.mpr fun hMeets => ?_)
    rcases (Selection.overlaps_iff (by omega)).mp hMeets with
      ⟨point, _, hRows, _⟩
    have hFirst : Word.signed (0 : Nat) = 0 := by decide
    have hLast : Word.signed (2 ^ 64 - 1 : Nat) = -1 := by
      decide
    rw [Nat.zero_min, Nat.zero_max, hFirst, hLast] at hRows
    omega
  have hErased :
      (session.clearRegion 0 0 (cols - 1)
          (2 ^ 64 - 1)).charAt? session.screen ⟨col, row⟩ =
        some ' ' := by
    have hHere :=
      Grid.edits_eraseRect session.active 0 0 (cols - 1)
        (2 ^ 64 - 1) session.blank
    rw [← grid_clearRegion] at hHere
    unfold charAt? at hChar ⊢
    rw [cellAt?_active] at hChar
    rw [cellAt?_of_edits_ofNat hHere col row]
    cases hLine : session.active.line? row with
    | none =>
        rw [hLine] at hChar
        cases hChar
    | some line =>
        rw [hLine, Option.bind_some] at hChar
        have hInside := hSession.active.of_line?_eq_some hLine
        have hRow : row < rows := by
          rw [← hSession.active.rows_eq]
          exact (List.getElem?_eq_some_iff.mp hLine).1
        have hCol : col < line.width := by
          apply Decidable.byContradiction
          intro hBeyond
          rw [Line.get?_eq_none_of_width_le
            (Nat.le_of_not_lt hBeyond)] at hChar
          cases hChar
        have hWidth := hInside.width_eq
        have hCols := hSession.active.cols_eq
        rw [Option.bind_some, Grid.inRows, if_pos (by omega),
          Grid.eraseColumns, if_pos (by omega),
          Line.get?_eraseSpan line (by omega),
          if_pos (Or.inl (by omega))]
        rfl
  refine ⟨?_, selection, hSome, ⟨col, row⟩, hCovered, ?_⟩
  · rw [hKept]
    rfl
  · rw [hScreen, hErased, hChar]
    intro hSame
    exact hShown (Option.some.inj hSame).symm

------------------------------------------------------------
-- Characters of Two Columns
------------------------------------------------------------

/-
  Clearing the second half of a wide character takes the first
  half along, and a selection of that alone stays.
-/
theorem WellFormed.exists_stale_of_splitsWide
    (hSession : session.WellFormed config cols rows)
    (hTall : rows ≤ 2 ^ 63)
    (hSplits : session.SplitsWide) :
    ∃ col row : Nat,
      row < 2 ^ 63 ∧
        session.Stale
          (session.clearRegion col row col row) := by
  rcases hSplits with
    ⟨selection, hSome, hScreen, col, row, lead, hLead, hWide,
      hShown, hCovered, hApart⟩
  have hThere := hLead
  rw [cellAt?_active] at hThere
  rcases Option.bind_eq_some_iff.mp hThere with
    ⟨line, hLine, hGet⟩
  have hInside := hSession.active.of_line?_eq_some hLine
  have hRow : row < 2 ^ 63 := by
    have hThere := (List.getElem?_eq_some_iff.mp hLine).1
    have hHeight := hSession.active.rows_eq
    unfold Grid.rows at hHeight
    omega
  have hPlaceholder : line.isPlaceholderAt (col + 1) := by
    rw [← hInside.paired.wide_eq, Line.isWideAt_eq_markAt,
      Line.markAt_of_get?_eq_some hGet]
    exact hWide
  have hCols : col + 1 < session.active.cols := by
    rw [hSession.active.cols_eq, ← hInside.width_eq]
    exact Line.lt_width_of_markAt hPlaceholder
  have hEdits :=
    Grid.edits_eraseRect session.active (col + 1) row
      (col + 1) row session.blank
  have hErased :
      (session.clearRegion (col + 1) row (col + 1)
          row).cellAt? session.screen ⟨col, row⟩ =
        some session.blank := by
    have hSpan :=
      line.get?_eraseSpan (Nat.le_refl (col + 1))
        session.blank col
    rw [if_pos (Or.inr (Or.inl ⟨rfl, hPlaceholder⟩))] at hSpan
    unfold cellAt?
    rw [grid_clearRegion]
    show
      ((session.active.eraseRect _ _ _ _ _).line? row).bind
        _ = _
    have hMin :
        min (max (col + 1) (col + 1))
            (session.active.cols - 1) =
          col + 1 := by
      omega
    have hRows :
        min row row ≤ row ∧ row ≤ max row row := by
      omega
    rw [hEdits.line?_eq, hLine, Option.map_some,
      Option.bind_some, Grid.inRows, if_pos hRows,
      Grid.eraseColumns, hMin, Nat.min_self, if_pos hCols]
    exact hSpan
  refine
    ⟨col + 1, row, hRow, ?_, selection, hSome, ⟨col, row⟩,
      hCovered, ?_⟩
  · -- The cleared cell is not selected.
    have hKept :
        (session.clearRegion (col + 1) row (col + 1)
          row).selection = some selection := by
      unfold Session.clearRegion
      rw [selection_modifyActive]
      apply Option.filter_eq_some_iff.mpr
      refine ⟨hSome, ?_⟩
      rw [Bool.not_eq_true', Bool.and_eq_false_iff]
      refine Or.inr (Bool.eq_false_iff.mpr fun hMeets => ?_)
      rw [Nat.min_self, Nat.max_self, Nat.min_self,
        Nat.max_self, Word.signed_natCast hRow] at hMeets
      rcases (Selection.overlaps_iff (Nat.le_refl _)).mp
          hMeets with
        ⟨⟨x, y⟩, hX, hY, hHere⟩
      dsimp only at hX hY
      obtain rfl : x = col + 1 := by omega
      obtain rfl : y = row := by omega
      rw [hApart] at hHere
      cases hHere
    rw [hKept]
    rfl
  · unfold charAt?
    rw [hScreen, hErased, hLead]
    intro hSame
    exact hShown (Option.some.inj hSame).symm

end

end Session

namespace Terminal

------------------------------------------------------------
-- Steps
------------------------------------------------------------

/-
  What a terminal does at once: it acts on an event of its
  parser, or carries out an operation of its embedder.
-/
inductive Step where
  | event (event : Event)
  | operation (operation : Operation)

namespace Step

/- The terminal reads a substitute character. -/
def substitute : Step :=
  .event (.execute '\x1A')

/-
  A rectangle is to be cleared that reaches to a row for which
  a word with a sign has no room.
-/
def Overflows :
    Step → Prop
  | .operation (.clearRegion _ y₁ _ y₂) =>
    2 ^ 63 ≤ max y₁ y₂
  | _ => False

end Step

section

variable [TextLibrary]

/- The terminal after a step. -/
def take
    (terminal : Terminal) :
    Step → Terminal
  | .event event => terminal.modify (·.handle event)
  | .operation operation => (terminal.perform operation).1

/-
  A step scrolls no line and changes no size.  Input is not
  taken as a whole, but event by event.
-/
def Quiet
    (terminal : Terminal) :
    Step → Prop
  | .event event => ¬terminal.session.Scrolls event
  | .operation operation =>
    match operation with
    | .process _ | .resize _ _ => False
    | .scrollLines origin count _ _ =>
      terminal.session.scrollCount origin count = 0
    | _ => True

/- A step leaves a stale selection. -/
def GoesStale
    (terminal : Terminal)
    (step : Step) : Prop :=
  terminal.session.Stale (terminal.take step).session

/- A step switches to the alternate screen. -/
def EntersAlternate
    (terminal : Terminal)
    (step : Step) : Prop :=
  terminal.session.screen = .primary ∧
    (terminal.take step).session.screen = .alternate

/-
  Every quiet step but a substitute character and a rectangle
  of too many rows spares what stays selected, switches
  screens, or changes no cell.
-/
theorem WellFormed.step_cases
    {config : Config}
    {cols rows : Nat}
    {terminal : Terminal}
    (hTerminal : terminal.WellFormed config cols rows)
    (hTall : rows ≤ 2 ^ 63)
    {step : Step}
    (hQuiet : terminal.Quiet step)
    (hOther : step ≠ .substitute)
    (hWord : ¬step.Overflows) :
    terminal.session.Spares (terminal.take step).session ∨
      (∃ on,
        terminal.session.Switches on
          (terminal.take step).session) ∨
      (terminal.session.SameCells
          (terminal.take step).session ∧
        (terminal.take step).session.screen =
          terminal.session.screen) := by
  have hSession := hTerminal.session
  have hSame :
      ∀ {after : Session},
        after.primary = terminal.session.primary →
          after.alternate = terminal.session.alternate →
            terminal.session.SameCells after := by
    intro after hPrimary hAlternate
    apply Session.sameCells_of_grids
    · rw [hPrimary]
      exact Grid.Edits.refl _
    · rw [hAlternate]
      exact Grid.Edits.refl _
  have hScene :
      ∀ {after : Session},
        after.scene = terminal.session.scene →
          terminal.session.Spares after :=
    fun hEq => Session.spares_of_scene_eq hEq
  have hScreen :=
    Session.screen_modifyActive terminal.session
  cases step with
  | event event =>
      have hEvent : event ≠ .execute '\x1A' := by
        rintro rfl
        exact hOther rfl
      rcases hSession.handle_cases hTall hQuiet hEvent with
        hSpares | hSwitches
      · exact Or.inl hSpares
      · exact Or.inr (Or.inl hSwitches)
  | operation operation =>
      unfold take Terminal.perform
      dsimp only
      cases operation with
      | process bytes => exact hQuiet.elim
      | resize cols rows => exact hQuiet.elim
      | reset =>
          exact Or.inl (Session.spares_reset _)
      | beginSelection x y snap mode =>
          exact Or.inr (Or.inr ⟨hSame rfl rfl, rfl⟩)
      | clickSelection x y mode time =>
          exact Or.inr (Or.inr ⟨hSame rfl rfl, rfl⟩)
      | extendSelection x y =>
          exact Or.inr (Or.inr ⟨hSame rfl rfl, rfl⟩)
      | finishSelection =>
          exact Or.inr (Or.inr ⟨hSame rfl rfl, rfl⟩)
      | clearSelection =>
          exact Or.inr (Or.inr ⟨hSame rfl rfl, rfl⟩)
      | paste text =>
          have hView :=
            Session.sameCells_setViewOffset terminal.session
              fun _ => 0
          exact
            Or.inr
              (Or.inr
                ⟨⟨hView.cols_eq, hView.lines_eq,
                    hView.scrollback_eq⟩,
                  hScreen _⟩)
      | reportFocus focused =>
          exact
            Or.inl (hScene (Session.scene_reportFocus _ _))
      | reportMouse event =>
          exact
            Or.inl (hScene (Session.scene_reportMouse _ _))
      | viewUp n =>
          exact
            Or.inr
              (Or.inr
                ⟨Session.sameCells_setViewOffset
                    terminal.session
                    fun grid => grid.viewOffset + n,
                  hScreen _⟩)
      | viewDown n =>
          exact
            Or.inr
              (Or.inr
                ⟨Session.sameCells_setViewOffset
                    terminal.session
                    fun grid => grid.viewOffset - n,
                  hScreen _⟩)
      | viewReset =>
          exact
            Or.inr
              (Or.inr
                ⟨Session.sameCells_setViewOffset
                    terminal.session
                    fun _ => 0,
                  hScreen _⟩)
      | markClean =>
          exact
            Or.inr
              (Or.inr
                ⟨Session.sameCells_markClean _, rfl⟩)
      | markAllDirty =>
          exact
            Or.inr
              (Or.inr
                ⟨Session.sameCells_modifyActive rfl rfl rfl,
                  hScreen _⟩)
      | markRowDirty row =>
          have hMarked :
              terminal.session.SameCells
                (terminal.session.modifyActive
                  (·.markDirty row)) :=
            Session.sameCells_modifyActive rfl rfl rfl
          exact Or.inr (Or.inr ⟨hMarked, hScreen _⟩)
      | scrollLines origin count direction retain =>
          exact
            Or.inl
              (Session.spares_scrollLines hQuiet direction
                retain)
      | clearRegion x₁ y₁ x₂ y₂ =>
          exact
            Or.inl
              (hSession.spares_clearRegion
                (Nat.lt_of_not_le hWord) x₁ x₂)
      | clearScrollback =>
          exact Or.inl (Session.spares_clearScrollback _)
      | setScrollRegion top bottom =>
          exact
            Or.inl
              (hScene (Session.scene_setScrollRegion _ _ _))
      | useAlternate =>
          exact
            Or.inr
              (Or.inl
                ⟨true, Session.switches_useAlternate _⟩)
      | usePrimary =>
          exact
            Or.inr
              (Or.inl
                ⟨false, Or.inl (Session.stays_usePrimary _)⟩)
      | saveCursor =>
          exact Or.inl (hScene (Session.scene_saveCursor _))
      | restoreCursor =>
          exact
            Or.inl (hScene (Session.scene_restoreCursor _))
      | installSink => exact Or.inl (hScene rfl)
      | removeSink => exact Or.inl (hScene rfl)
      | takeNotices => exact Or.inl (hScene rfl)
      | takeResponses => exact Or.inl (hScene rfl)
      | takeDeliveries => exact Or.inl (hScene rfl)

------------------------------------------------------------
-- When a Selection Goes Stale
------------------------------------------------------------

theorem entersAlternate_substitute
    (terminal : Terminal) :
    ¬terminal.EntersAlternate .substitute := by
  rintro ⟨hBefore, hAfter⟩
  have hScreen :
      (terminal.take .substitute).session.screen =
        terminal.session.screen :=
    Session.screen_modifyActive _ _
  rw [hScreen, hBefore] at hAfter
  cases hAfter

/- Clearing a rectangle does not switch screens. -/
theorem not_overflows_of_entersAlternate
    {terminal : Terminal}
    {step : Step}
    (hEnters : terminal.EntersAlternate step) :
    ¬step.Overflows := by
  intro hOverflows
  unfold Step.Overflows at hOverflows
  split at hOverflows
  · rename_i x₁ y₁ x₂ y₂
    have hScreen :
        (terminal.session.clearRegion x₁ y₁ x₂ y₂).screen =
          terminal.session.screen :=
      Session.screen_modifyActive _ _
    have hAfter := hScreen.symm.trans hEnters.2
    rw [hEnters.1] at hAfter
    cases hAfter
  · exact hOverflows

/-
  No quiet step leaves a stale selection, but for a substitute
  character on selected text, for entering an alternate screen
  with selected text on it, for clearing a rectangle down to a
  row that overflows a word, and for changes next to a selected
  half of a wide character.
-/
theorem Reachable.goesStale_iff
    {terminal : Terminal}
    (hTerminal : Reachable terminal)
    (hTall : terminal.session.rows ≤ 2 ^ 63) :
    (terminal.GoesStale .substitute ↔
        terminal.session.CoversCursor) ∧
      (∀ step,
        terminal.Quiet step →
          terminal.EntersAlternate step →
            (terminal.GoesStale step ↔
              terminal.session.CoversHidden)) ∧
      ((∃ step,
          step.Overflows ∧ terminal.GoesStale step) ↔
        terminal.session.CoversShown) ∧
      ((∃ step,
          terminal.Quiet step ∧ step ≠ .substitute ∧
            ¬terminal.EntersAlternate step ∧
            ¬step.Overflows ∧ terminal.GoesStale step) ↔
        terminal.session.SplitsWide) := by
  rcases hTerminal.wellFormed with
    ⟨config, cols, rows, hWellFormed⟩
  have hSession := hWellFormed.session
  rw [hSession.rows_eq] at hTall
  refine
    ⟨hSession.stale_showSubstitute_iff, ?_, ⟨?_, ?_⟩, ?_, ?_⟩
  · rintro step hQuiet ⟨hBefore, hAfter⟩
    have hNotInside :
        terminal.session.screen ≠ .alternate := by
      rw [hBefore]
      nofun
    have hOther : step ≠ .substitute := by
      rintro rfl
      exact
        entersAlternate_substitute terminal
          ⟨hBefore, hAfter⟩
    rcases hWellFormed.step_cases hTall hQuiet hOther
        (not_overflows_of_entersAlternate
          ⟨hBefore, hAfter⟩) with
      hSpares | ⟨on, hStays | ⟨_, hEnters⟩⟩ | ⟨_, hScreen⟩
    · exact absurd (hSpares.screen hAfter) hNotInside
    · exact absurd (hStays.screen hAfter) hNotInside
    · exact hSession.stale_iff_of_enters hEnters
    · exact absurd (hScreen.symm.trans hAfter) hNotInside
  · rintro ⟨step, hOverflows, hStale⟩
    unfold Step.Overflows at hOverflows
    split at hOverflows
    · exact Session.coversShown_of_stale_clearRegion hStale
    · exact hOverflows.elim
  · intro hCovers
    have hLast : 2 ^ 63 ≤ max 0 (2 ^ 64 - 1) := by decide
    exact
      ⟨.operation (.clearRegion 0 0 (cols - 1) (2 ^ 64 - 1)),
        hLast,
        hSession.stale_clearRegion_of_coversShown hTall
          hCovers⟩
  · rintro
      ⟨step, hQuiet, hOther, hNotEnters, hWord, hStale⟩
    rcases hWellFormed.step_cases hTall hQuiet hOther hWord with
      hSpares | ⟨on, hStays | ⟨_, hEnters⟩⟩ | ⟨hSame, _⟩
    · exact hSpares.splitsWide hStale
    · exact absurd hStale hStays.same.not_stale
    · exact
        absurd ⟨hEnters.screen_before, hEnters.screen_after⟩
          hNotEnters
    · exact absurd hStale hSame.not_stale
  · intro hSplits
    rcases hSession.exists_stale_of_splitsWide hTall hSplits
      with ⟨col, row, hRow, hStale⟩
    have hWord : max row row < 2 ^ 63 := by
      rw [Nat.max_self]
      exact hRow
    refine
      ⟨.operation (.clearRegion col row col row), trivial,
        nofun, ?_, Nat.not_le_of_lt hWord, hStale⟩
    rintro ⟨hBefore, hAfter⟩
    have hScreen :=
      (hSession.spares_clearRegion hWord col col).screen
        hAfter
    rw [hBefore] at hScreen
    cases hScreen

end

/- A selection of two columns, with the cursor on the second. -/
def selecting : Terminal :=
  (createRaised 4 1).performAll
    [.process [0x61, 0x62, 0x08],
      .beginSelection 0 0 .none .character,
      .extendSelection 2 0]

theorem goesStale_selecting :
    selecting.GoesStale .substitute :=
  (Reachable.goesStale_iff
    ((Reachable.createRaised 4 1).performAll _)
      (by decide)).1.mpr
        ⟨_, rfl, rfl, Or.inl ⟨rfl, by decide⟩⟩

/- So it is not true that no quiet step does that. -/
theorem not_forall_not_goesStale :
    ¬∀ terminal,
      Reachable terminal →
        ∀ step,
          terminal.Quiet step →
            ¬terminal.GoesStale step := by
  intro hNever
  refine
    hNever selecting
      ((Reachable.createRaised 4 1).performAll _) .substitute
      id ⟨rfl, _, rfl, ⟨1, 0⟩, rfl, ?_⟩
  decide

end Terminal

end VideoTerminal
