import VideoTerminal.Proofs.Session.Spares

/-
  The events of the parser that scroll no line, and what they
  do to the selected cells: all of them but a substitute
  character and the switch to the alternate screen spare what
  stays selected.

  Main declarations:
    * `Session.Scrolls`
    * `Session.WellFormed.spares_writeChar`
    * `Session.WellFormed.spares_perform`
    * `Session.Enters`
    * `Session.setModes_cases`
    * `Session.WellFormed.handle_cases`
-/

namespace VideoTerminal

namespace Session

------------------------------------------------------------
-- Events That Scroll
------------------------------------------------------------

/- Moving to the next line scrolls. -/
def NewLineScrolls
    (session : Session) : Prop :=
  session.cursor.row = session.regionBottom

/- Moving to the previous line scrolls. -/
def ReverseIndexScrolls
    (session : Session) : Prop :=
  session.cursor.row = session.regionTop

/- Making room for a character of some width scrolls. -/
def MakeRoomScrolls
    (session : Session)
    (width : Nat) : Prop :=
  (session.cursor.wrapPending ∧ session.modes.autoWrap ∧
      session.NewLineScrolls) ∨
    (session.cols <
        session.wrapIfPending.cursor.col + width ∧
      session.modes.autoWrap ∧
      session.wrapIfPending.NewLineScrolls)

section

variable [TextLibrary]

/- Writing a character scrolls. -/
def WriteScrolls
    (session : Session)
    (c : Char) : Prop :=
  match
    TextLibrary.displayWidth
      (session.charsets.substitute c) with
  | none | some 0 => False
  | some width =>
    width ≤ session.cols ∧ session.MakeRoomScrolls width

/- Writing a character `n` times scrolls at some point. -/
def WriteTimesScrolls
    (session : Session)
    (c : Char) :
    Nat → Prop
  | 0 => False
  | n + 1 =>
    session.WriteScrolls c ∨
      (session.writeChar c).WriteTimesScrolls c n

/- A control character scrolls. -/
def ExecuteScrolls
    (session : Session)
    (c : Char) : Prop :=
  match c with
  | '\n' | '\x0B' | '\x0C' | '\u0084' | '\u0085' =>
    session.NewLineScrolls
  | '\u008D' => session.ReverseIndexScrolls
  | _ => False

/- An escape sequence scrolls. -/
def EscapeScrolls
    (session : Session)
    (intermediate : Option Char)
    (final : Char) : Prop :=
  match intermediate, final with
  | none, 'D' | none, 'E' => session.NewLineScrolls
  | none, 'M' => session.ReverseIndexScrolls
  | _, _ => False

/- A control sequence scrolls. -/
def PerformScrolls
    (session : Session)
    (action : Action)
    (params : Parameters) : Prop :=
  let n := params.count 0
  let row := session.cursor.row
  match action with
  | .insertLines | .deleteLines =>
    (session.regionTop ≤ row ∧ row ≤ session.regionBottom) ∧
      session.scrollCount row n ≠ 0
  | .scrollUp | .scrollDown =>
    session.scrollCount session.regionTop n ≠ 0
  | .repeatChar =>
    match session.lastPrinted with
    | none => False
    | some c => session.WriteTimesScrolls c n
  | _ => False

/- An event of the parser scrolls some line. -/
def Scrolls
    (session : Session) :
    Event → Prop
  | .print c => session.WriteScrolls c
  | .execute c => session.ExecuteScrolls c
  | .escape intermediate final =>
    session.EscapeScrolls intermediate final
  | .sequence action params =>
    session.PerformScrolls action params
  | .string _ _ => False

end

section

variable {config : Config} {cols rows : Nat}
  {session : Session}

------------------------------------------------------------
-- Movements
------------------------------------------------------------

theorem spares_newLine
    (hQuiet : ¬session.NewLineScrolls)
    (toFirstColumn : Bool) :
    session.Spares (session.newLine toFirstColumn) := by
  apply spares_of_scene_eq
  unfold NewLineScrolls at hQuiet
  unfold Session.newLine
  dsimp only
  rw [if_neg hQuiet]
  split <;> rfl

theorem spares_reverseIndex
    (hQuiet : ¬session.ReverseIndexScrolls) :
    session.Spares session.reverseIndex := by
  apply spares_of_scene_eq
  unfold ReverseIndexScrolls at hQuiet
  unfold Session.reverseIndex
  dsimp only
  rw [if_neg hQuiet]
  rfl

theorem scene_moveTo
    (session : Session)
    (col row : Nat) :
    (session.moveTo col row).scene = session.scene := by
  unfold Session.moveTo
  split
  rfl

theorem scene_setScrollRegion
    (session : Session)
    (top bottom : Nat) :
    (session.setScrollRegion top bottom).scene =
      session.scene :=
  scene_moveTo (session.confinedTo top bottom) _ _

theorem scene_saveCursor
    (session : Session) :
    session.saveCursor.scene = session.scene := by
  unfold Session.saveCursor
  split <;> rfl

theorem scene_restoreCursor
    (session : Session) :
    session.restoreCursor.scene = session.scene :=
  scene_moveTo _ _ _

------------------------------------------------------------
-- Characters
------------------------------------------------------------

/- The mark of a soft wrap is no part of what a cell shows. -/
theorem WellFormed.spares_markWrapped
    (hSession : session.WellFormed config cols rows) :
    session.Spares session.markWrapped := by
  have hActive :
      session.active.Edits session.markWrapped.active
        (Grid.onRow session.cursor.row
          (·.setWrapped true)) := by
    unfold Session.markWrapped
    rw [active_modifyActive]
    exact hSession.edits_softWrapped
  refine
    hSession.spares_of_edits (screen_modifyActive _ _)
      hActive ?_ ?_ ?_ ?_
  · intro screen hOther
    exact grid_modifyActive_of_ne _ _ hOther
  · intro y line hLine
    unfold Grid.onRow
    split
    · exact Line.width_setWrapped line true
    · rfl
  · intro selection hSome
    unfold Session.markWrapped at hSome
    rw [selection_modifyActive] at hSome
    exact hSome
  · intro selection hSome hScreen y line hLine col old
      hCovered hOld
    unfold Grid.onRow
    split
    · rw [Line.get?_setWrapped, hOld]
      split
      · exact ⟨_, rfl, Or.inl ⟨rfl, id⟩⟩
      · exact ⟨old, rfl, Or.inl (Cell.Keeps.refl old)⟩
    · exact ⟨old, hOld, Or.inl (Cell.Keeps.refl old)⟩

theorem newLineScrolls_markWrapped_iff
    (session : Session) :
    session.markWrapped.NewLineScrolls ↔
      session.NewLineScrolls := by
  rcases session with ⟨_, _, _, screen⟩
  cases screen with
  | primary => exact Iff.rfl
  | alternate => exact Iff.rfl

theorem WellFormed.spares_softWrap
    (hSession : session.WellFormed config cols rows)
    (hQuiet : ¬session.NewLineScrolls) :
    session.Spares session.softWrap :=
  hSession.spares_markWrapped.trans
    (spares_newLine
      (fun hScrolls => hQuiet
        ((newLineScrolls_markWrapped_iff session).mp
          hScrolls))
      true)

theorem WellFormed.spares_makeRoom
    (hSession : session.WellFormed config cols rows)
    {width : Nat}
    (hQuiet : ¬session.MakeRoomScrolls width) :
    session.Spares (session.makeRoom width) := by
  have hWrapped := hSession.wrapIfPending
  have hFirst : session.Spares session.wrapIfPending := by
    unfold Session.wrapIfPending
    split
    · rename_i hPending
      apply hSession.spares_softWrap
      intro hScrolls
      exact
        hQuiet (Or.inl ⟨hPending.1, hPending.2, hScrolls⟩)
    · exact Spares.refl session
  rw [makeRoom_eq]
  apply hFirst.trans
  unfold Session.fit
  split
  · rename_i hNarrow
    split
    · rename_i hWraps
      apply hWrapped.spares_softWrap
      intro hScrolls
      rw [hWrapped.cols_eq, ← hSession.cols_eq] at hNarrow
      exact hQuiet (Or.inr ⟨hNarrow, hWraps, hScrolls⟩)
    · exact spares_of_scene_eq rfl
  · exact Spares.refl _

/- Writing at the cursor changes what is from there on. -/
theorem WellFormed.spares_writtenLine
    (hSession : session.WellFormed config cols rows)
    {line : Line}
    (hLine : line.WellFormed cols)
    {width : Nat}
    (hSome : 0 < width)
    (hRoom : session.cursor.col + width ≤ cols)
    (c : Char) :
    Line.Spares session.cursor.col
      (if session.modes.insert then
        session.cols - 1
      else
        session.cursor.col + width - 1)
      line (session.writtenLine width c line) := by
  have hCols := hSession.cols_eq
  have hBlank := isPlain_sessionBlank session
  have hPut :
      ∀ {line : Line},
        line.WellFormed cols →
          Line.Spares session.cursor.col
            (session.cursor.col + width - 1) line
            (putCells session.cursor.pen session.cursor.col
              width c line) := by
    intro line hLine
    unfold putCells
    split
    · rename_i hWide
      subst hWide
      exact hLine.spares_overwriteWide _ _ _
    · exact
        (hLine.spares_overwrite _ _).mono_right (by omega)
  unfold Session.writtenLine
  dsimp only
  cases session.modes.insert with
  | false =>
      simp only [Bool.false_eq_true, false_and, if_false]
      exact hPut hLine
  | true =>
      have hMore :
          session.cursor.col + width - 1 ≤
            session.cols - 1 := by
        omega
      simp only [true_and, if_true]
      split
      · have hOpened :=
          hLine.spares_insertBlanks hSession.cursor_col width
            hBlank rfl
        rw [← hCols] at hOpened
        exact
          hOpened.trans
            ((hPut (hLine.insertBlanks hSession.cursor_col
              width hBlank)).mono_right hMore)
      · exact (hPut hLine).mono_right hMore

theorem WellFormed.spares_putAtCursor
    (hSession : session.WellFormed config cols rows)
    (hTall : rows ≤ 2 ^ 63)
    {width : Nat}
    (hSome : 0 < width)
    (hRoom : session.cursor.col + width ≤ cols)
    (c : Char) :
    session.Spares (session.putAtCursor width c) := by
  have hCol := hSession.cursor_col
  have hCols := hSession.cols_eq
  have hRow := hSession.cursor_row
  unfold Session.putAtCursor
  dsimp only
  refine
    hSession.spares_dropped ?_ (by omega)
      (hSession.edits_putAtCursor hSome hRoom c).inRows_self
      ?_
  · split
    · omega
    · omega
  · intro line hLine
    exact hSession.spares_writtenLine hLine hSome hRoom c

theorem WellFormed.spares_writeChar
    [TextLibrary]
    (hSession : session.WellFormed config cols rows)
    (hTall : rows ≤ 2 ^ 63)
    {c : Char}
    (hQuiet : ¬session.WriteScrolls c) :
    session.Spares (session.writeChar c) := by
  unfold WriteScrolls at hQuiet
  unfold Session.writeChar
  dsimp only
  split
  · exact Spares.refl session
  · exact Spares.refl session
  · rename_i width hZero hWidth
    split
    · exact Spares.refl session
    · rename_i hFits
      have hSome : 0 < width := Nat.pos_of_ne_zero hZero
      have hLe : width ≤ cols := by
        rw [hSession.cols_eq] at hFits
        exact Nat.le_of_not_lt hFits
      have hRoom : ¬session.MakeRoomScrolls width := by
        intro hScrolls
        apply hQuiet
        rw [hWidth]
        cases width with
        | zero => exact absurd rfl hZero
        | succ width =>
            exact ⟨Nat.le_of_not_lt hFits, hScrolls⟩
      have hPut :=
        (hSession.makeRoom hSome).spares_putAtCursor hTall
          hSome (hSession.col_makeRoom_add_le hLe)
          (session.charsets.substitute c)
      exact
        ((hSession.spares_makeRoom hRoom).trans hPut).trans
          (spares_of_scene_eq rfl)

theorem WellFormed.spares_writeCharTimes
    [TextLibrary]
    (hSession : session.WellFormed config cols rows)
    (hTall : rows ≤ 2 ^ 63)
    {c : Char}
    {n : Nat}
    (hQuiet : ¬session.WriteTimesScrolls c n) :
    session.Spares (session.writeCharTimes c n) := by
  induction n generalizing session with
  | zero => exact Spares.refl session
  | succ n hRest =>
      rcases not_or.mp hQuiet with ⟨hFirst, hLater⟩
      exact
        (hSession.spares_writeChar hTall hFirst).trans
          (hRest (hSession.writeChar c) hLater)

------------------------------------------------------------
-- Control Characters and Escape Sequences
------------------------------------------------------------

/- A substitute character is the only one that does not. -/
theorem spares_execute
    {c : Char}
    (hQuiet : ¬session.ExecuteScrolls c)
    (hOther : c ≠ '\x1A') :
    session.Spares (session.execute c) := by
  unfold Session.execute
  split
  · exact spares_of_scene_eq rfl
  · exact spares_of_scene_eq rfl
  · exact spares_of_scene_eq rfl
  · exact spares_newLine hQuiet _
  · exact spares_newLine hQuiet _
  · exact spares_newLine hQuiet _
  · exact spares_of_scene_eq rfl
  · exact spares_of_scene_eq rfl
  · exact spares_of_scene_eq rfl
  · exact absurd rfl hOther
  · exact spares_newLine hQuiet false
  · exact spares_newLine hQuiet true
  · exact spares_of_scene_eq rfl
  · exact spares_reverseIndex hQuiet
  · exact spares_of_scene_eq rfl
  · exact Spares.refl session

/- The screen is filled, and nothing is selected any more. -/
theorem spares_alignmentTest
    (session : Session) :
    session.Spares session.alignmentTest := by
  have hScene := scene_moveTo session.aligned 0 0
  unfold scene at hScene
  simp only [Prod.mk.injEq] at hScene
  rw [alignmentTest_eq]
  apply spares_of_selection_eq_none
  · rw [hScene.1]
    unfold aligned
    dsimp only
    rw [screen_modifyActive]
    exact id
  · exact hScene.2.2.2

theorem spares_reset
    (session : Session) :
    session.Spares session.reset :=
  spares_of_selection_eq_none nofun rfl

theorem spares_performEscape
    {intermediate : Option Char}
    {final : Char}
    (hQuiet : ¬session.EscapeScrolls intermediate final) :
    session.Spares
      (session.performEscape intermediate final) := by
  unfold Session.performEscape
  split
  · unfold performPlainEscape
    split
    · exact spares_of_scene_eq (scene_saveCursor session)
    · exact spares_of_scene_eq (scene_restoreCursor session)
    · exact spares_newLine hQuiet false
    · exact spares_newLine hQuiet true
    · exact spares_of_scene_eq rfl
    · exact spares_reverseIndex hQuiet
    · exact spares_of_scene_eq rfl
    · exact spares_reset session
    · exact spares_of_scene_eq rfl
    · exact spares_of_scene_eq rfl
    · exact spares_of_scene_eq rfl
    · exact spares_of_scene_eq rfl
    · exact Spares.refl session
  · split
    · exact spares_alignmentTest session
    · exact Spares.refl session
  · split
    · exact Spares.refl session
    · unfold designate
      split
      · exact Spares.refl session
      · exact spares_of_scene_eq rfl

theorem spares_performString
    [TextLibrary]
    (session : Session)
    (kind : StringKind)
    (payload : String) :
    session.Spares (session.performString kind payload) := by
  rcases performString_eq session kind payload with
    ⟨title, iconName, notices, hPerformed⟩
  rw [hPerformed]
  exact spares_of_scene_eq rfl

------------------------------------------------------------
-- Clearing and Editing
------------------------------------------------------------

/- Only the rows above the primary screen are gone. -/
theorem cellAt?_clearScrollback
    (session : Session)
    {screen : Screen}
    {point : Point}
    (hStays : screen = .primary → 0 ≤ point.row) :
    session.clearScrollback.cellAt? screen point =
      session.cellAt? screen point := by
  cases screen with
  | alternate => rfl
  | primary =>
      rcases point with ⟨col, row⟩
      obtain ⟨y, rfl⟩ :=
        Int.eq_ofNat_of_zero_le (hStays rfl)
      show
        (session.primary.clearScrollback.lines[y]?.bind _) =
          (session.primary.lines[y]?.bind _)
      rw [Grid.lines_clearScrollback]

theorem cellAt?_clearScrollback_of_neg
    (session : Session)
    {point : Point}
    (hAbove : point.row < 0) :
    session.clearScrollback.cellAt? .primary point =
      none := by
  rcases point with ⟨col, row⟩
  obtain ⟨age, rfl⟩ := Int.eq_negSucc_of_lt_zero hAbove
  show
    ((session.primary.clearScrollback.scrollback.get?
      age).bind _) = none
  rw [Grid.scrollback_clearScrollback]
  rfl

/- A selection that is kept covers no row of the history. -/
theorem spares_clearScrollback
    (session : Session) :
    session.Spares session.clearScrollback := by
  refine ⟨id, ?_⟩
  intro selection hSome
  rcases Option.filter_eq_some_iff.mp hSome with
    ⟨hBefore, hKept⟩
  refine
    { selection_eq := hBefore
      screen_eq := rfl
      cols_eq := session.primary.cols_clearScrollback
      none_eq := ?_
      some_eq := ?_ }
  · intro point hNone
    by_cases hGone :
        selection.screen = .primary ∧ point.row < 0
    · rw [hGone.1]
      exact cellAt?_clearScrollback_of_neg session hGone.2
    · rw [cellAt?_clearScrollback, hNone]
      intro hPrimary
      exact Int.not_lt.mp fun hAbove =>
        hGone ⟨hPrimary, hAbove⟩
  · intro point hCovered old hOld
    refine ⟨old, ?_, Or.inl (Cell.Keeps.refl old)⟩
    rw [cellAt?_clearScrollback, hOld]
    intro hPrimary
    rcases Selection.contains_iff.mp hCovered with
      ⟨span, hSpan, _⟩
    have hFirst :=
      (Selection.rowSpan?_eq_some_iff.mp hSpan).1.1
    unfold coversHistory at hKept
    rw [hPrimary] at hKept
    simp only [beq_self_eq_true, Bool.true_and,
      Bool.not_eq_true', decide_eq_false_iff_not] at hKept
    omega

theorem WellFormed.spares_eraseDisplay
    (hSession : session.WellFormed config cols rows)
    (hTall : rows ≤ 2 ^ 63)
    (param : Nat) :
    session.Spares (session.eraseDisplay param) := by
  have hRow := hSession.cursor_row
  have hRows := hSession.rows_eq
  unfold Session.eraseDisplay
  dsimp only
  split
  · have hHere :
        session.Spares
          (session.clearRegion session.cursor.col
            session.cursor.row (session.cols - 1)
            session.cursor.row) :=
      hSession.spares_clearRegion (by omega) _ _
    split
    · exact
        hHere.trans
          ((hSession.clearRegion _ _ _ _).spares_clearRegion
            (by omega) _ _)
    · exact hHere
  · split
    · exact
        (hSession.spares_clearRegion (by omega) _ _).trans
          ((hSession.clearRegion _ _ _ _).spares_clearRegion
            (by omega) _ _)
    · exact hSession.spares_clearRegion (by omega) _ _
  · exact hSession.spares_clearRegion (by omega) _ _
  · exact spares_clearScrollback session
  · exact Spares.refl session

theorem WellFormed.spares_eraseLine
    (hSession : session.WellFormed config cols rows)
    (hTall : rows ≤ 2 ^ 63)
    (param : Nat) :
    session.Spares (session.eraseLine param) := by
  have hRow := hSession.cursor_row
  unfold Session.eraseLine
  dsimp only
  split
  · exact hSession.spares_clearRegion (by omega) _ _
  · exact hSession.spares_clearRegion (by omega) _ _
  · exact hSession.spares_clearRegion (by omega) _ _
  · exact Spares.refl session

/- Editing changes the line from the cursor to its end. -/
theorem WellFormed.spares_editLine
    (hSession : session.WellFormed config cols rows)
    (hTall : rows ≤ 2 ^ 63)
    {change : Grid → Nat → Nat → Cell → Grid}
    {edit : Line → Line}
    (hEdits :
      session.active.Edits
        (change session.active session.cursor.col
          session.cursor.row session.blank)
        (Grid.onRow session.cursor.row edit))
    (hLines :
      ∀ line,
        line.WellFormed cols →
          Line.Spares session.cursor.col (cols - 1) line
            (edit line)) :
    session.Spares (session.editLine change) := by
  have hCol := hSession.cursor_col
  have hRow := hSession.cursor_row
  rw [← hSession.cols_eq] at hCol hLines
  unfold Session.editLine
  refine
    hSession.spares_dropped (by omega) (by omega)
      hEdits.inRows_self ?_
  intro line hLine
  rw [← hSession.cols_eq] at hLine
  exact hLines line hLine

theorem WellFormed.spares_insertChars
    (hSession : session.WellFormed config cols rows)
    (hTall : rows ≤ 2 ^ 63)
    (n : Nat) :
    session.Spares (session.insertChars n) :=
  hSession.spares_editLine hTall
    (hSession.edits_insertChars n)
    fun _ hLine =>
      hLine.spares_insertBlanks hSession.cursor_col n
        (isPlain_sessionBlank session) rfl

theorem WellFormed.spares_deleteChars
    (hSession : session.WellFormed config cols rows)
    (hTall : rows ≤ 2 ^ 63)
    (n : Nat) :
    session.Spares (session.deleteChars n) :=
  hSession.spares_editLine hTall
    (hSession.edits_deleteChars n)
    fun _ hLine =>
      hLine.spares_deleteCells hSession.cursor_col n
        (isPlain_sessionBlank session) rfl

theorem WellFormed.spares_repeatLast
    [TextLibrary]
    (hSession : session.WellFormed config cols rows)
    (hTall : rows ≤ 2 ^ 63)
    {params : Parameters}
    (hQuiet : ¬session.PerformScrolls .repeatChar params) :
    session.Spares
      (session.repeatLast (params.count 0)) := by
  unfold PerformScrolls at hQuiet
  dsimp only at hQuiet
  unfold Session.repeatLast
  split
  · exact Spares.refl session
  · rename_i c hLast
    rw [hLast] at hQuiet
    exact hSession.spares_writeCharTimes hTall hQuiet

/- Scrolling by no line does nothing. -/
theorem spares_scrollLines
    {origin count : Nat}
    (hNone : session.scrollCount origin count = 0)
    (direction : ScrollDirection)
    (retain : Bool) :
    session.Spares
      (session.scrollLines origin count direction retain) := by
  rw [scrollLines_of_eq_zero hNone]
  exact Spares.refl session

theorem spares_scrollFromCursor
    {n : Nat}
    (hQuiet :
      ¬((session.regionTop ≤ session.cursor.row ∧
          session.cursor.row ≤ session.regionBottom) ∧
        session.scrollCount session.cursor.row n ≠ 0))
    (direction : ScrollDirection) :
    session.Spares
      (session.scrollFromCursor n direction) := by
  unfold Session.scrollFromCursor
  dsimp only
  split
  · rename_i hInside
    apply spares_scrollLines
    exact
      Decidable.not_not.mp fun hSome =>
        hQuiet ⟨hInside, hSome⟩
  · exact Spares.refl session

end

------------------------------------------------------------
-- Modes
------------------------------------------------------------

/-
  The alternate screen is entered and cleared, and whatever is
  selected stays selected.
-/
structure Enters
    (session after : Session) : Prop where
  screen_before : session.screen = .primary
  screen_after : after.screen = .alternate
  selection_eq : after.selection = session.selection
  cols_eq : after.cols = session.cols
  primary_lines :
    after.primary.lines = session.primary.lines
  primary_scrollback :
    after.primary.scrollback = session.primary.scrollback
  alternate_lines :
    ∃ blank : Cell,
      blank.char = ' ' ∧
        after.alternate.lines =
          session.alternate.lines.map (·.fill blank)
  alternate_scrollback :
    after.alternate.scrollback = session.alternate.scrollback

/-
  The cells and the selection stay as they are.  The alternate
  screen is not entered, and setting a mode does not leave it.
-/
structure Stays
    (on : Bool)
    (session after : Session) : Prop where
  same : session.SameCells after
  selection_eq : after.selection = session.selection
  screen_eq : on → after.screen = session.screen
  screen :
    after.screen = .alternate → session.screen = .alternate

/- What setting or resetting modes can do to the screens. -/
def Switches
    (on : Bool)
    (session after : Session) : Prop :=
  session.Stays on after ∨ (on ∧ session.Enters after)

section

variable {on : Bool} {session between after : Session}

theorem stays_of_scene_eq
    (on : Bool)
    (hScene : after.scene = session.scene) :
    session.Stays on after := by
  have hSpares := spares_of_scene_eq hScene
  unfold scene at hScene
  simp only [Prod.mk.injEq] at hScene
  rcases hScene with
    ⟨hScreen, hPrimary, hAlternate, hSelection⟩
  refine
    { same := ?_
      selection_eq := hSelection
      screen_eq := fun _ => hScreen
      screen := hSpares.screen }
  apply sameCells_of_grids
  · rw [hPrimary]
    exact Grid.Edits.refl _
  · rw [hAlternate]
    exact Grid.Edits.refl _

theorem Stays.trans
    (hFirst : session.Stays on between)
    (hSecond : between.Stays on after) :
    session.Stays on after where
  same := hFirst.same.trans hSecond.same
  selection_eq :=
    hSecond.selection_eq.trans hFirst.selection_eq
  screen_eq := fun hOn =>
    (hSecond.screen_eq hOn).trans (hFirst.screen_eq hOn)
  screen := fun hIn => hFirst.screen (hSecond.screen hIn)

theorem Stays.trans_enters
    (hFirst : session.Stays true between)
    (hSecond : between.Enters after) :
    session.Enters after := by
  have hPrimary := hFirst.same.lines_eq .primary
  have hAlternate := hFirst.same.lines_eq .alternate
  have hScrollback := hFirst.same.scrollback_eq
  exact
    { screen_before :=
        (hFirst.screen_eq rfl).symm.trans
          hSecond.screen_before
      screen_after := hSecond.screen_after
      selection_eq :=
        hSecond.selection_eq.trans hFirst.selection_eq
      cols_eq := hSecond.cols_eq.trans hFirst.same.cols_eq
      primary_lines := hSecond.primary_lines.trans hPrimary
      primary_scrollback :=
        hSecond.primary_scrollback.trans
          (hScrollback .primary)
      alternate_lines := by
        rcases hSecond.alternate_lines with
          ⟨blank, hSpace, hLines⟩
        exact
          ⟨blank, hSpace,
            hLines.trans
              (congrArg (List.map (·.fill blank))
                hAlternate)⟩
      alternate_scrollback :=
        hSecond.alternate_scrollback.trans
          (hScrollback .alternate) }

theorem Enters.trans_stays
    (hFirst : session.Enters between)
    (hSecond : between.Stays true after) :
    session.Enters after where
  screen_before := hFirst.screen_before
  screen_after :=
    (hSecond.screen_eq rfl).trans hFirst.screen_after
  selection_eq :=
    hSecond.selection_eq.trans hFirst.selection_eq
  cols_eq := hSecond.same.cols_eq.trans hFirst.cols_eq
  primary_lines :=
    (hSecond.same.lines_eq .primary).trans
      hFirst.primary_lines
  primary_scrollback :=
    (hSecond.same.scrollback_eq .primary).trans
      hFirst.primary_scrollback
  alternate_lines := by
    rcases hFirst.alternate_lines with
      ⟨blank, hSpace, hLines⟩
    exact
      ⟨blank, hSpace,
        (hSecond.same.lines_eq .alternate).trans hLines⟩
  alternate_scrollback :=
    (hSecond.same.scrollback_eq .alternate).trans
      hFirst.alternate_scrollback

/- A screen that has been entered is not entered again. -/
theorem Switches.trans
    (hFirst : session.Switches on between)
    (hSecond : between.Switches on after) :
    session.Switches on after := by
  rcases hFirst with hStays | ⟨hOn, hEnters⟩
  · rcases hSecond with hLast | ⟨hOn, hLast⟩
    · exact Or.inl (hStays.trans hLast)
    · subst hOn
      exact Or.inr ⟨rfl, hStays.trans_enters hLast⟩
  · subst hOn
    rcases hSecond with hLast | ⟨_, hLast⟩
    · exact Or.inr ⟨rfl, hEnters.trans_stays hLast⟩
    · have hScreen := hLast.screen_before
      rw [hEnters.screen_after] at hScreen
      cases hScreen

theorem switches_of_scene_eq
    (on : Bool)
    (hScene : after.scene = session.scene) :
    session.Switches on after :=
  Or.inl (stays_of_scene_eq on hScene)

end

theorem setViewOffset_eq
    (grid : Grid)
    (offset : Nat) :
    (grid.setViewOffset offset).cols = grid.cols ∧
      (grid.setViewOffset offset).lines = grid.lines ∧
      (grid.setViewOffset offset).scrollback =
        grid.scrollback := by
  unfold Grid.setViewOffset
  dsimp only
  split
  · exact ⟨rfl, rfl, rfl⟩
  · exact ⟨rfl, rfl, rfl⟩

/- Moving the view leaves every cell in its place. -/
theorem sameCells_setViewOffset
    (session : Session)
    (offset : Grid → Nat) :
    session.SameCells
      (session.modifyActive fun grid =>
        grid.setViewOffset (offset grid)) := by
  have hView :=
    setViewOffset_eq session.active (offset session.active)
  exact
    sameCells_modifyActive hView.1 hView.2.1 hView.2.2

theorem sameCells_markClean
    (session : Session) :
    session.SameCells session.markClean :=
  sameCells_of_grids (Grid.edits_markClean _)
    (Grid.edits_markClean _)

theorem useAlternate_cases
    (session : Session) :
    session.useAlternate = session ∨
      session.Enters session.useAlternate := by
  have hView := setViewOffset_eq session.primary 0
  unfold Session.useAlternate
  split
  · exact Or.inl rfl
  · rename_i hScreen
    refine Or.inr ?_
    exact
      { screen_before := hScreen
        screen_after := rfl
        selection_eq := rfl
        cols_eq := hView.1
        primary_lines := hView.2.1
        primary_scrollback := hView.2.2
        alternate_lines := ⟨session.blank, rfl, rfl⟩
        alternate_scrollback := rfl }

theorem switches_useAlternate
    (session : Session) :
    session.Switches true session.useAlternate := by
  rcases useAlternate_cases session with hSame | hEnters
  · rw [hSame]
    exact switches_of_scene_eq true rfl
  · exact Or.inr ⟨rfl, hEnters⟩

theorem stays_usePrimary
    (session : Session) :
    session.Stays false session.usePrimary := by
  unfold Session.usePrimary
  split
  · exact stays_of_scene_eq false rfl
  · exact
      { same :=
          sameCells_of_grids
            (Grid.edits_markAllDirty session.primary)
            (Grid.Edits.refl session.alternate)
        selection_eq := rfl
        screen_eq := nofun
        screen := nofun }

theorem switches_setAlternate
    (session : Session)
    (on : Bool) :
    session.Switches on (session.setAlternate on) := by
  unfold Session.setAlternate
  cases on with
  | true => exact switches_useAlternate session
  | false => exact Or.inl (stays_usePrimary session)

theorem switches_setAlternateWithCursor
    (session : Session)
    (on : Bool) :
    session.Switches on
      (session.setAlternateWithCursor on) := by
  have hSaved := scene_saveCursor session
  unfold Session.setAlternateWithCursor
  split
  · exact
      (switches_of_scene_eq true hSaved).trans
        (switches_useAlternate _)
  · exact
      Or.inl
        ((stays_usePrimary session).trans
          (stays_of_scene_eq false
            (scene_restoreCursor _)))
  · exact switches_of_scene_eq _ rfl

/- All rows are to be drawn again, with the same cells. -/
theorem switches_setReverseVideo
    (session : Session)
    (on : Bool) :
    session.Switches on (session.setReverseVideo on) := by
  unfold Session.setReverseVideo
  split
  · exact switches_of_scene_eq on rfl
  · have hMarked :
        (session.modifyModes
            ({ · with reverseVideo := on })).SameCells
          ((session.modifyModes
            ({ · with reverseVideo := on })).modifyActive
              Grid.markAllDirty) :=
      sameCells_modifyActive rfl rfl rfl
    have hScreen :=
      screen_modifyActive
        (session.modifyModes
          ({ · with reverseVideo := on }))
        Grid.markAllDirty
    refine Or.inl ?_
    exact
      { same :=
          ⟨hMarked.cols_eq, hMarked.lines_eq,
            hMarked.scrollback_eq⟩
        selection_eq := selection_modifyActive _ _
        screen_eq := fun _ => hScreen
        screen := fun hIn => hScreen.symm.trans hIn }

theorem switches_setPrivateMode?
    {session changed : Session}
    {mode : Nat}
    {on : Bool}
    (hChanged :
      session.setPrivateMode? mode on = some changed) :
    session.Switches on changed := by
  unfold Session.setPrivateMode? at hChanged
  split at hChanged
  all_goals cases hChanged
  · exact switches_of_scene_eq on rfl
  · exact switches_setReverseVideo session on
  · exact switches_of_scene_eq on (scene_moveTo _ _ _)
  · exact switches_of_scene_eq on rfl
  · exact switches_of_scene_eq on rfl
  · exact switches_of_scene_eq on rfl
  · exact switches_setAlternate session on
  · exact switches_setAlternate session on
  · exact switches_of_scene_eq on rfl
  · exact switches_of_scene_eq on rfl
  · exact switches_of_scene_eq on rfl
  · exact switches_of_scene_eq on rfl
  · exact switches_of_scene_eq on rfl
  · split
    · exact
        switches_of_scene_eq _ (scene_saveCursor session)
    · exact
        switches_of_scene_eq _ (scene_restoreCursor session)
  · exact switches_setAlternateWithCursor session on
  · exact switches_of_scene_eq on rfl

theorem switches_setMode
    (session : Session)
    (isPrivate on : Bool)
    (mode : Nat) :
    session.Switches on (session.setMode isPrivate on mode) := by
  unfold Session.setMode
  dsimp only
  split
  · exact switches_of_scene_eq on rfl
  · rename_i changed hChanged
    have hSwitches : session.Switches on changed := by
      split at hChanged
      · exact switches_setPrivateMode? hChanged
      · unfold Session.setAnsiMode? at hChanged
        split at hChanged
        · cases hChanged
          exact switches_of_scene_eq on rfl
        · cases hChanged
          exact switches_of_scene_eq on rfl
        · cases hChanged
    exact hSwitches.trans (switches_of_scene_eq on rfl)

/- A whole list of modes enters the screen at most once. -/
theorem switches_setModes
    (session : Session)
    (isPrivate on : Bool)
    (params : Parameters) :
    session.Switches on
      (session.setModes isPrivate on params) := by
  unfold Session.setModes
  induction params.items.filterMap Parameter.value
    generalizing session with
  | nil => exact switches_of_scene_eq on rfl
  | cons mode modes hRest =>
      exact
        (switches_setMode session isPrivate on mode).trans
          (hRest _)

------------------------------------------------------------
-- Events
------------------------------------------------------------

section

variable {config : Config} {cols rows : Nat}
  {session : Session}

theorem scene_reportIfZero
    (param : Nat)
    {report : Session → Session}
    (hReport : (report session).scene = session.scene) :
    (session.reportIfZero param report).scene =
      session.scene := by
  unfold Session.reportIfZero
  split
  · exact hReport
  · rfl

theorem scene_reportStatus
    (session : Session)
    (param : Nat) :
    (session.reportStatus param).scene = session.scene := by
  unfold Session.reportStatus
  split <;> rfl

theorem scene_clearTabStops
    (session : Session)
    (param : Nat) :
    (session.clearTabStops param).scene = session.scene := by
  unfold Session.clearTabStops
  split <;> rfl

theorem scene_setCursorStyle
    (session : Session)
    (param : Nat) :
    (session.setCursorStyle param).scene =
      session.scene := by
  unfold Session.setCursorStyle
  split <;> rfl

theorem scene_reportFocus
    (session : Session)
    (focused : Bool) :
    (session.reportFocus focused).scene = session.scene := by
  unfold Session.reportFocus
  split <;> rfl

theorem scene_reportMouse
    (session : Session)
    (event : MouseEvent) :
    (session.reportMouse event).1.scene = session.scene := by
  unfold Session.reportMouse
  dsimp only
  split <;> rfl

theorem WellFormed.perform_cases
    [TextLibrary]
    (hSession : session.WellFormed config cols rows)
    (hTall : rows ≤ 2 ^ 63)
    {action : Action}
    {params : Parameters}
    (hQuiet : ¬session.PerformScrolls action params) :
    session.Spares (session.perform action params) ∨
      ∃ on,
        session.Switches on
          (session.perform action params) := by
  have hRow := hSession.cursor_row
  unfold Session.perform
  dsimp only
  cases action with
  | insertChars =>
      exact Or.inl (hSession.spares_insertChars hTall _)
  | cursorUp => exact Or.inl (spares_of_scene_eq rfl)
  | cursorDown => exact Or.inl (spares_of_scene_eq rfl)
  | cursorForward => exact Or.inl (spares_of_scene_eq rfl)
  | cursorBack => exact Or.inl (spares_of_scene_eq rfl)
  | cursorNextLine => exact Or.inl (spares_of_scene_eq rfl)
  | cursorPrevLine => exact Or.inl (spares_of_scene_eq rfl)
  | cursorColumn => exact Or.inl (spares_of_scene_eq rfl)
  | cursorPosition =>
      exact Or.inl (spares_of_scene_eq (scene_moveTo _ _ _))
  | tabForward => exact Or.inl (spares_of_scene_eq rfl)
  | eraseDisplay =>
      exact Or.inl (hSession.spares_eraseDisplay hTall _)
  | eraseLine =>
      exact Or.inl (hSession.spares_eraseLine hTall _)
  | insertLines =>
      exact Or.inl (spares_scrollFromCursor hQuiet .down)
  | deleteLines =>
      exact Or.inl (spares_scrollFromCursor hQuiet .up)
  | deleteChars =>
      exact Or.inl (hSession.spares_deleteChars hTall _)
  | scrollUp =>
      exact
        Or.inl
          (spares_scrollLines (Decidable.not_not.mp hQuiet)
            .up false)
  | scrollDown =>
      exact
        Or.inl
          (spares_scrollLines (Decidable.not_not.mp hQuiet)
            .down false)
  | eraseChars =>
      exact
        Or.inl (hSession.spares_clearRegion (by omega) _ _)
  | tabBackward => exact Or.inl (spares_of_scene_eq rfl)
  | repeatChar =>
      exact Or.inl (hSession.spares_repeatLast hTall hQuiet)
  | deviceAttributes =>
      exact
        Or.inl (spares_of_scene_eq (scene_reportIfZero _ rfl))
  | secondaryDeviceAttributes =>
      exact
        Or.inl (spares_of_scene_eq (scene_reportIfZero _ rfl))
  | linePosition =>
      exact Or.inl (spares_of_scene_eq (scene_moveTo _ _ _))
  | tabClear =>
      exact
        Or.inl (spares_of_scene_eq (scene_clearTabStops _ _))
  | setMode =>
      exact Or.inr ⟨true, switches_setModes _ _ _ _⟩
  | resetMode =>
      exact Or.inr ⟨false, switches_setModes _ _ _ _⟩
  | setPrivateMode =>
      exact Or.inr ⟨true, switches_setModes _ _ _ _⟩
  | resetPrivateMode =>
      exact Or.inr ⟨false, switches_setModes _ _ _ _⟩
  | selectRendition => exact Or.inl (spares_of_scene_eq rfl)
  | deviceStatus =>
      exact
        Or.inl (spares_of_scene_eq (scene_reportStatus _ _))
  | setScrollRegion =>
      exact
        Or.inl
          (spares_of_scene_eq (scene_setScrollRegion _ _ _))
  | saveCursor =>
      exact
        Or.inl (spares_of_scene_eq (scene_saveCursor _))
  | restoreCursor =>
      exact
        Or.inl (spares_of_scene_eq (scene_restoreCursor _))
  | setCursorStyle =>
      exact
        Or.inl (spares_of_scene_eq (scene_setCursorStyle _ _))

/-
  An event that scrolls no line, and is no substitute
  character, spares what stays selected or switches screens.
-/
theorem WellFormed.handle_cases
    [TextLibrary]
    (hSession : session.WellFormed config cols rows)
    (hTall : rows ≤ 2 ^ 63)
    {event : Event}
    (hQuiet : ¬session.Scrolls event)
    (hOther : event ≠ .execute '\x1A') :
    session.Spares (session.handle event) ∨
      ∃ on, session.Switches on (session.handle event) := by
  cases event with
  | print c =>
      exact Or.inl (hSession.spares_writeChar hTall hQuiet)
  | execute c =>
      refine Or.inl (spares_execute hQuiet ?_)
      rintro rfl
      exact hOther rfl
  | escape intermediate final =>
      exact Or.inl (spares_performEscape hQuiet)
  | sequence action params =>
      exact hSession.perform_cases hTall hQuiet
  | string kind payload =>
      exact Or.inl (spares_performString session kind payload)

end

end Session

end VideoTerminal
