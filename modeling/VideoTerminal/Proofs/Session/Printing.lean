import VideoTerminal.Proofs.Grid.Displays
import VideoTerminal.Proofs.Line.Layout
import VideoTerminal.Proofs.Session.Writing

/-
  Text that is printed at the end of what the primary screen
  displays.  A line is broken in two ways, at once before a
  wide character that does not fit, and later after its last
  column; both agree with the rows of a layout.

  Main declarations:
    * `Session.AtEnd`
    * `Session.AtEnd.newLine`
    * `Session.AtEnd.softWrap`
    * `Session.Prints`
    * `Session.Prints.writeChar`
    * `Session.Prints.writeAll`
-/

namespace VideoTerminal

open Layout

namespace Session

------------------------------------------------------------
-- The Manner of Writing
------------------------------------------------------------

/- What decides how text is written, but for the place. -/
structure Manner where
  screen : Screen
  modes : Modes
  charsets : Charsets
  pen : Pen
  regionTop : Nat
  regionBottom : Nat

/- How a session writes. -/
def manner
    (session : Session) : Manner where
  screen := session.screen
  modes := session.modes
  charsets := session.charsets
  pen := session.cursor.pen
  regionTop := session.regionTop
  regionBottom := session.regionBottom

/- How a session with given settings writes at first. -/
def Manner.initial
    (config : Config)
    (rows : Nat) : Manner where
  screen := .primary
  modes := .default
  charsets := .default
  pen := config.pen
  regionTop := 0
  regionBottom := rows - 1

theorem unwritten_manner :
    Unwritten manner where
  screen := by
    intro session change
    unfold Session.modifyActive
    split <;> rfl
  selected := fun _ _ => rfl
  placed := fun _ _ _ _ => rfl
  printed := fun _ _ => rfl

theorem cursor_modifyActive
    (session : Session)
    (change : Grid → Grid) :
    (session.modifyActive change).cursor =
      session.cursor := by
  unfold Session.modifyActive
  split <;> rfl

/- ASCII substitutes nothing. -/
theorem substitute_default
    (c : Char) :
    Charsets.default.substitute c = c :=
  rfl

------------------------------------------------------------
-- Writing at the End
------------------------------------------------------------

/-
  A session that writes as at first, whose primary screen
  displays some lines, with the cursor in the last of them.
-/
structure AtEnd
    (config : Config)
    (cols rows : Nat)
    (lines : List Line)
    (session : Session) : Prop where
  wellFormed : session.WellFormed config cols rows
  manner_eq : session.manner = .initial config rows
  displays :
    session.primary.Displays rows config.scrollbackLines
      (.ofBlank cols config.blank) lines
  row_eq : session.cursor.row + 1 = min lines.length rows

section

variable {config : Config} {cols rows : Nat}
  {lines : List Line} {session : Session}

theorem AtEnd.screen_eq
    (hAtEnd : AtEnd config cols rows lines session) :
    session.screen = .primary :=
  congrArg Manner.screen hAtEnd.manner_eq

theorem AtEnd.modes_eq
    (hAtEnd : AtEnd config cols rows lines session) :
    session.modes = .default :=
  congrArg Manner.modes hAtEnd.manner_eq

theorem AtEnd.charsets_eq
    (hAtEnd : AtEnd config cols rows lines session) :
    session.charsets = .default :=
  congrArg Manner.charsets hAtEnd.manner_eq

theorem AtEnd.pen_eq
    (hAtEnd : AtEnd config cols rows lines session) :
    session.cursor.pen = config.pen :=
  congrArg Manner.pen hAtEnd.manner_eq

theorem AtEnd.regionTop_eq
    (hAtEnd : AtEnd config cols rows lines session) :
    session.regionTop = 0 :=
  congrArg Manner.regionTop hAtEnd.manner_eq

theorem AtEnd.regionBottom_eq
    (hAtEnd : AtEnd config cols rows lines session) :
    session.regionBottom = rows - 1 :=
  congrArg Manner.regionBottom hAtEnd.manner_eq

theorem AtEnd.active_eq
    (hAtEnd : AtEnd config cols rows lines session) :
    session.active = session.primary := by
  unfold Session.active
  rw [hAtEnd.screen_eq]
  rfl

theorem atEnd_start
    (hCols : 0 < cols)
    (hRows : 0 < rows)
    (config : Config) :
    AtEnd config cols rows [.ofBlank cols config.blank]
      (start cols rows config) where
  wellFormed := wellFormed_start hCols hRows config
  manner_eq := rfl
  displays := Grid.displays_ofBlank hRows _ _
  row_eq := (Nat.min_eq_left hRows).symm

/- A new line continues what is displayed by a blank one. -/
theorem AtEnd.newLine
    (hAtEnd : AtEnd config cols rows lines session) :
    AtEnd config cols rows
      (lines ++ [.ofBlank cols config.blank])
      (session.newLine true) := by
  have hSession := hAtEnd.wellFormed
  have hRow := hAtEnd.row_eq
  have hBottom := hAtEnd.regionBottom_eq
  have hRows := hSession.rows_pos
  have hHeight := hSession.rows_eq
  have hBlank : session.blank = config.blank := by
    unfold Session.blank
    rw [hAtEnd.pen_eq]
    rfl
  have hLength :
      (lines ++ [Line.ofBlank cols config.blank]).length =
        lines.length + 1 := by
    rw [List.length_append, List.length_singleton]
  have hNext := hSession.newLine true
  have hManner :=
    (unwritten_manner.newLine session true).trans hAtEnd.manner_eq
  by_cases hRoom : lines.length < rows
  · have hMoved :
        session.newLine true =
          session.goto 0 (session.cursor.row + 1) := by
      unfold Session.newLine
      dsimp only
      rw [if_neg (by omega), if_pos (by omega)]
      rfl
    rw [hMoved] at hNext hManner ⊢
    refine ⟨hNext, hManner, ?_, ?_⟩
    · exact hAtEnd.displays.append_blank hRoom
    · show session.cursor.row + 1 + 1 = _
      omega
  · have hCount : session.scrollCount 0 1 = 1 := by
      unfold scrollCount
      omega
    have hScrolled :
        session.newLine true =
          (session.scrollLines 0 1 .up true).goto 0
            session.cursor.row := by
      unfold Session.newLine
      dsimp only
      rw [if_pos (by omega), hAtEnd.regionTop_eq]
      rfl
    have hGrid :
        (session.scrollLines 0 1 .up true).primary =
          (session.primary.scrollUp 0 (rows - 1) 1 true
            config.blank).1 := by
      rw [primary_scrollLines (by omega), hAtEnd.screen_eq,
        hCount, hBottom, hBlank]
      rfl
    rw [hScrolled] at hNext hManner ⊢
    refine ⟨hNext, hManner, ?_, ?_⟩
    · show (session.scrollLines 0 1 .up
        true).primary.Displays _ _ _ _
      rw [hGrid]
      exact
        hAtEnd.displays.scrollUp (Nat.le_of_not_lt hRoom)
          hSession.primary hRows
    · show session.cursor.row + 1 = _
      omega

/- A change of the last line of what is displayed. -/
theorem AtEnd.edit_last
    {last : Line}
    (hAtEnd :
      AtEnd config cols rows (lines ++ [last]) session)
    (change : Grid → Grid)
    (changeLine : Line → Line)
    (hEdits :
      session.active.Edits (change session.active)
        (Grid.onRow session.cursor.row changeLine))
    (hWellFormed :
      (session.modifyActive change).WellFormed config cols
        rows) :
    AtEnd config cols rows (lines ++ [changeLine last])
      (session.modifyActive change) := by
  have hRow := hAtEnd.row_eq
  have hLength :
      ∀ line : Line,
        (lines ++ [line]).length = lines.length + 1 := by
    intro line
    rw [List.length_append, List.length_singleton]
  have hManner :=
    (unwritten_manner.screen session change).trans
      hAtEnd.manner_eq
  have hModified :
      session.modifyActive change =
        { session with primary := change session.primary } := by
    unfold Session.modifyActive
    rw [hAtEnd.screen_eq]
  rw [hLength] at hRow
  rw [hAtEnd.active_eq] at hEdits
  rw [hModified] at hWellFormed hManner ⊢
  refine ⟨hWellFormed, hManner, ?_, ?_⟩
  · exact hAtEnd.displays.edit_last hRow hEdits
  · rw [hLength]
    exact hRow

/- A soft wrap marks the last line and starts a blank one. -/
theorem AtEnd.softWrap
    {last : Line}
    (hAtEnd :
      AtEnd config cols rows (lines ++ [last]) session) :
    AtEnd config cols rows
      (lines ++ [last.setWrapped true] ++
        [.ofBlank cols config.blank])
      session.softWrap := by
  have hSession := hAtEnd.wellFormed
  have hMarked :
      AtEnd config cols rows
        (lines ++ [last.setWrapped true])
        session.markWrapped := by
    exact
      hAtEnd.edit_last
        (·.modifyCell (session.cols - 1) session.cursor.row
          (·.setWrapped true))
        (·.setWrapped true) hSession.edits_softWrapped
        hSession.markWrapped
  exact hMarked.newLine

/- Moving along the last line changes nothing else. -/
theorem AtEnd.modifyCursor
    (hAtEnd : AtEnd config cols rows lines session)
    {change : Cursor → Cursor}
    (hCol : (change session.cursor).col < cols)
    (hRow :
      (change session.cursor).row = session.cursor.row)
    (hPen :
      (change session.cursor).pen = session.cursor.pen) :
    AtEnd config cols rows lines
      (session.modifyCursor change) where
  wellFormed :=
    hAtEnd.wellFormed.modifyCursor hCol
      (hRow ▸ hAtEnd.wellFormed.cursor_row)
  manner_eq := by
    have hManner := hAtEnd.manner_eq
    unfold Session.manner at hManner ⊢
    rw [← hManner]
    show Manner.mk _ _ _ _ _ _ = Manner.mk _ _ _ _ _ _
    rw [← hPen]
    rfl
  displays := hAtEnd.displays
  row_eq := by
    show (change session.cursor).row + 1 = _
    rw [hRow]
    exact hAtEnd.row_eq

theorem AtEnd.putAtCursor
    {last : Line}
    (hAtEnd :
      AtEnd config cols rows (lines ++ [last]) session)
    {width : Nat}
    (hSome : 0 < width)
    (hRoom : session.cursor.col + width ≤ cols)
    (c : Char) :
    AtEnd config cols rows
      (lines ++
        [putCells config.pen session.cursor.col width c last])
      (session.putAtCursor width c) := by
  have hSession := hAtEnd.wellFormed
  have hWritten :
      session.writtenLine width c =
        putCells config.pen session.cursor.col width c := by
    funext line
    unfold Session.writtenLine
    rw [hAtEnd.modes_eq, hAtEnd.pen_eq]
    rfl
  have hDropped :
      ∀ x₁ y₁ x₂ y₂,
        AtEnd config cols rows (lines ++ [last])
          (session.dropSelectionIn x₁ y₁ x₂ y₂) :=
    fun x₁ y₁ x₂ y₂ =>
      { hAtEnd with
        wellFormed := hSession.dropSelectionIn x₁ y₁ x₂ y₂ }
  have hEdits := hSession.edits_putAtCursor hSome hRoom c
  have hPut := hSession.putAtCursor hSome hRoom c
  rw [hWritten] at hEdits
  unfold Session.putAtCursor at hPut ⊢
  exact (hDropped _ _ _ _).edit_last _ _ hEdits hPut

------------------------------------------------------------
-- Rows of a Layout
------------------------------------------------------------

section

variable [TextLibrary]

/- A character that is put after a row belongs to it. -/
theorem putCells_rowLine
    {row : List Char}
    (hRow : ∀ c ∈ row, Printable cols c)
    {c : Char}
    (hChar : Printable cols c)
    (hFits : span row + columns c ≤ cols)
    (pen : Pen) :
    putCells pen (span row) (columns c) c
        (rowLine cols pen row) =
      rowLine cols pen (row ++ [c]) := by
  have hBlank := Pen.isPlain_blank pen
  unfold rowLine
  rw [← length_rowCells hRow pen] at hFits ⊢
  rw [List.flatMap_append, List.flatMap_singleton]
  unfold putCells
  rcases hChar.columns_eq with hNarrow | hWide
  · have hCells : charCells pen c = [pen.cell c] :=
      if_neg (by omega)
    rw [hCells, if_neg (by omega)]
    exact Line.overwrite_padded hBlank (by omega) _
  · have hCells :
        charCells pen c =
          [{ pen.cell c with wide := true },
            { pen.cell ' ' with placeholder := true }] :=
      if_pos hWide
    rw [hCells, if_pos hWide]
    exact Line.overwriteWide_padded hBlank (by omega) _ _

/-
  A session that has printed some rows, and is in the middle
  of a further one.  After its last column the cursor waits.
-/
structure Prints
    (config : Config)
    (cols rows : Nat)
    (done : List (List Char))
    (row : List Char)
    (session : Session) : Prop where
  atEnd :
    AtEnd config cols rows
      (linesOf cols config.pen (done ++ [row])) session
  printable : ∀ c ∈ row, Printable cols c
  span_le : span row ≤ cols
  col_eq : span row < cols → session.cursor.col = span row
  wrapPending_eq :
    session.cursor.wrapPending = decide (span row = cols)

theorem prints_start
    (hCols : 0 < cols)
    (hRows : 0 < rows)
    (config : Config) :
    Prints config cols rows [] [] (start cols rows config)
    where
  atEnd := atEnd_start hCols hRows config
  printable := by
    intro c hMem
    cases hMem
  span_le := Nat.zero_le _
  col_eq := fun _ => rfl
  wrapPending_eq :=
    (decide_eq_false (Nat.ne_of_lt hCols)).symm

variable {done : List (List Char)} {row : List Char}

/- A soft wrap completes a row and starts an empty one. -/
theorem Prints.softWrap
    (hPrints : Prints config cols rows done row session) :
    Prints config cols rows (done ++ [row]) []
      session.softWrap where
  atEnd := by
    have hAtEnd := hPrints.atEnd
    rw [linesOf_concat] at hAtEnd ⊢
    rw [List.map_append]
    exact hAtEnd.softWrap
  printable := by
    intro c hMem
    cases hMem
  span_le := Nat.zero_le _
  col_eq := fun _ => col_newLine_true _
  wrapPending_eq := by
    have hCols := hPrints.atEnd.wellFormed.cols_pos
    exact
      (wrapPending_newLine _ _).trans
        (decide_eq_false (Nat.ne_of_lt hCols)).symm

/-
  Both ways of breaking a line start a row for a character
  that does not fit on the one before.
-/
theorem Prints.makeRoom
    (hPrints : Prints config cols rows done row session)
    {c : Char}
    (hChar : Printable cols c) :
    if span row + columns c ≤ cols then
      session.makeRoom (columns c) = session
    else
      Prints config cols rows (done ++ [row]) []
        (session.makeRoom (columns c)) := by
  have hAtEnd := hPrints.atEnd
  have hSpan := hPrints.span_le
  have hCol := hPrints.col_eq
  have hWidth := hAtEnd.wellFormed.cols_eq
  have hLe := hChar.2
  have hSome : 0 < columns c := hChar.columns_pos
  have hWraps : session.modes.autoWrap = true := by
    rw [hAtEnd.modes_eq]
    rfl
  have hPending := hPrints.wrapPending_eq
  rw [makeRoom_eq, hWraps]
  by_cases hFull : span row = cols
  · -- The last column has been written, and the row is full.
    have hWrapped := hPrints.softWrap
    have hStart : session.softWrap.cursor.col = 0 :=
      col_newLine_true _
    have hWidth' := hWrapped.atEnd.wellFormed.cols_eq
    have hLate : session.wrapIfPending = session.softWrap :=
      if_pos
        ⟨hPending.trans (decide_eq_true hFull), hWraps⟩
    rw [if_neg (by omega), hLate]
    unfold Session.fit
    rw [if_neg (by omega)]
    exact hWrapped
  · have hHere := hCol (by omega)
    have hNotYet : session.wrapIfPending = session := by
      apply if_neg
      rw [hPending, decide_eq_false hFull]
      exact fun hBoth => Bool.false_ne_true hBoth.1
    rw [hNotYet]
    unfold Session.fit
    by_cases hFits : span row + columns c ≤ cols
    · rw [if_pos hFits, if_neg (by omega)]
    · rw [if_neg hFits, if_pos (by omega), if_pos rfl]
      exact hPrints.softWrap

/- Behind a character the cursor goes on, or waits. -/
theorem AtEnd.prints_advance
    (hAtEnd :
      AtEnd config cols rows
        (linesOf cols config.pen (done ++ [row])) session)
    (hRow : ∀ c ∈ row, Printable cols c)
    (hSpan : span row ≤ cols)
    {width : Nat}
    (hCol : session.cursor.col + width = span row)
    (hPending : session.cursor.wrapPending = false) :
    Prints config cols rows done row
      (session.advance width) := by
  have hWidth := hAtEnd.wellFormed.cols_eq
  unfold Session.advance
  by_cases hInside : session.cursor.col + width < session.cols
  · simp only [if_pos hInside]
    exact
      { atEnd :=
          hAtEnd.modifyCursor (hWidth ▸ hInside) rfl rfl
        printable := hRow
        span_le := hSpan
        col_eq := fun _ => hCol
        wrapPending_eq :=
          hPending.trans (decide_eq_false (by omega)).symm }
  · simp only [if_neg hInside]
    exact
      { atEnd :=
          hAtEnd.modifyCursor hAtEnd.wellFormed.cursor_col rfl
            rfl
        printable := hRow
        span_le := hSpan
        col_eq := fun hMore => absurd hMore (by omega)
        wrapPending_eq := (decide_eq_true (by omega)).symm }

/- A character that fits is added to the row. -/
theorem Prints.put
    (hPrints : Prints config cols rows done row session)
    {c : Char}
    (hChar : Printable cols c)
    (hFits : span row + columns c ≤ cols) :
    Prints config cols rows done (row ++ [c])
      ({ session.putAtCursor (columns c) c with
        lastPrinted := some c }.advance (columns c)) := by
  have hAtEnd := hPrints.atEnd
  have hSome : 0 < columns c := hChar.columns_pos
  have hHere : session.cursor.col = span row :=
    hPrints.col_eq (by omega)
  have hRoom : session.cursor.col + columns c ≤ cols :=
    hHere ▸ hFits
  rw [linesOf_concat] at hAtEnd
  have hPut := hAtEnd.putAtCursor hSome hRoom c
  rw [hHere,
    putCells_rowLine hPrints.printable hChar hFits,
    ← linesOf_concat] at hPut
  have hCursor :
      (session.putAtCursor (columns c) c).cursor =
        session.cursor :=
    cursor_modifyActive _ _
  have hNoted :
      AtEnd config cols rows
        (linesOf cols config.pen (done ++ [row ++ [c]]))
        { session.putAtCursor (columns c) c with
          lastPrinted := some c } :=
    { hPut with wellFormed := { hPut.wellFormed with } }
  have hPrintable : ∀ d ∈ row ++ [c], Printable cols d := by
    intro d hMem
    rcases List.mem_append.mp hMem with hOld | hNew
    · exact hPrints.printable d hOld
    · exact List.mem_singleton.mp hNew ▸ hChar
  have hSpan := span_concat row c
  apply hNoted.prints_advance hPrintable (hSpan ▸ hFits)
  · show (session.putAtCursor _ _).cursor.col + _ = _
    rw [hCursor, hHere, hSpan]
  · show (session.putAtCursor _ _).cursor.wrapPending = _
    rw [hCursor, hPrints.wrapPending_eq]
    exact decide_eq_false (by omega)

/- Writing a character goes on with the layout. -/
theorem Prints.writeChar
    (hPrints : Prints config cols rows done row session)
    {c : Char}
    (hChar : Printable cols c) :
    if span row + columns c ≤ cols then
      Prints config cols rows done (row ++ [c])
        (session.writeChar c)
    else
      Prints config cols rows (done ++ [row]) [c]
        (session.writeChar c) := by
  have hAtEnd := hPrints.atEnd
  have hWritten :
      session.writeChar c =
        { (session.makeRoom (columns c)).putAtCursor
            (columns c) c with
          lastPrinted := some c }.advance (columns c) := by
    have hSame : session.charsets.substitute c = c := by
      rw [hAtEnd.charsets_eq, substitute_default]
    have hWidth :
        TextLibrary.displayWidth (session.charsets.substitute c) =
          some (columns c) :=
      hSame.symm ▸ hChar.displayWidth_eq
    have hFits : columns c ≤ session.cols :=
      hAtEnd.wellFormed.cols_eq.symm ▸ hChar.2
    rw [writeChar_eq hWidth hChar.columns_pos hFits, hSame]
  have hRoom := hPrints.makeRoom hChar
  rw [hWritten]
  split
  · rename_i hFits
    rw [if_pos hFits] at hRoom
    rw [hRoom]
    exact hPrints.put hChar hFits
  · rename_i hBreaks
    rw [if_neg hBreaks] at hRoom
    exact hRoom.put hChar ((Nat.zero_add _).symm ▸ hChar.2)

/- Writing a text lays it out. -/
theorem Prints.writeAll
    (hPrints : Prints config cols rows done row session)
    {text : List Char}
    (hText : ∀ c ∈ text, Printable cols c) :
    ∃ others last,
      breakRows cols row text = others ++ [last] ∧
        Prints config cols rows (done ++ others) last
          (text.foldl Session.writeChar session) := by
  induction text generalizing done row session with
  | nil =>
      refine ⟨[], row, rfl, ?_⟩
      rw [List.append_nil]
      exact hPrints
  | cons c text hRest =>
      rcases List.forall_mem_cons.mp hText with
        ⟨hFirst, hOthers⟩
      have hWritten := hPrints.writeChar hFirst
      unfold breakRows
      split
      · rename_i hFits
        rw [if_pos hFits] at hWritten
        exact hRest hWritten hOthers
      · rename_i hBreaks
        rw [if_neg hBreaks] at hWritten
        rcases hRest hWritten hOthers with
          ⟨others, last, hRows, hPrinted⟩
        refine ⟨row :: others, last, ?_, ?_⟩
        · rw [hRows]
          rfl
        · rw [List.append_assoc] at hPrinted
          exact hPrinted

end

end

end Session

end VideoTerminal
