import VideoTerminal.Proofs.Session.Writing
import VideoTerminal.Proofs.Terminal.Moments
import VideoTerminal.Proofs.Terminal.Place
import VideoTerminal.Text.Linked

/-
  The flag that tells that the next character wraps.  It is
  meant for a cursor in the last column.  A character of more
  than one column that ends there sets it as well, and leaves
  the cursor on the first of its columns.

  Main declarations:
    * `Session.PendsAtEdge`
    * `Session.EndsWide`
    * `Session.WellFormed.pendsAtEdge_writeChar_iff`
    * `Terminal.EndsWide`
    * `Terminal.Reachable.pendsAtEdge_iff`
-/

namespace VideoTerminal

namespace Session

------------------------------------------------------------
-- Pending Wraps
------------------------------------------------------------

/- If a wrap is pending, the cursor is in the last column. -/
def PendsAtEdge
    (session : Session) : Prop :=
  session.cursor.wrapPending →
    session.cursor.col + 1 = session.cols

instance
    (session : Session) :
    Decidable session.PendsAtEdge := by
  unfold PendsAtEdge
  infer_instance

/- The column that a character of some width is put in. -/
def landing
    (session : Session)
    (width : Nat) : Nat :=
  let wraps := session.modes.autoWrap
  let col :=
    if session.cursor.wrapPending ∧ wraps then
      0
    else
      session.cursor.col
  if session.cols < col + width then
    if wraps then 0 else session.cols - width
  else
    col

/-
  Writing a character fills more than one column, the last of
  the screen among them.
-/
def EndsWide
    [TextLibrary]
    (session : Session)
    (c : Char) : Prop :=
  ∃ width,
    TextLibrary.displayWidth (session.charsets.substitute c) =
        some width ∧
      1 < width ∧
      session.landing width + width = session.cols

instance
    [TextLibrary]
    (session : Session)
    (c : Char) :
    Decidable (session.EndsWide c) :=
  decidable_of_iff
    ((TextLibrary.displayWidth
        (session.charsets.substitute c)).any
      fun width =>
        1 < width ∧
          session.landing width + width = session.cols)
    (by simp [EndsWide, Option.any_eq_true])

section

variable {session after : Session}

/- Movements clear the flag. -/
theorem Moves.pendsAtEdge
    (hMoves : session.Moves after)
    (hCols : after.cols = session.cols)
    (hBefore : session.PendsAtEdge) :
    after.PendsAtEdge := by
  intro hPending
  rcases hMoves with hPlace | ⟨hMoved, _⟩
  · rw [wrapPending_eq_of_place_eq hPlace] at hPending
    have hCol : after.cursor.col = session.cursor.col :=
      congrArg Prod.fst hPlace
    rw [hCol, hCols]
    exact hBefore hPending
  · rw [hMoved] at hPending
    cases hPending

theorem wrapPending_softWrap
    (session : Session) :
    session.softWrap.cursor.wrapPending = false :=
  wrapPending_newLine session.markWrapped true

theorem col_softWrap
    (session : Session) :
    session.softWrap.cursor.col = 0 :=
  col_newLine_true session.markWrapped

theorem col_wrapIfPending
    (session : Session) :
    session.wrapIfPending.cursor.col =
      if session.cursor.wrapPending ∧
          session.modes.autoWrap then
        0
      else
        session.cursor.col := by
  unfold wrapIfPending
  split
  · exact col_softWrap session
  · rfl

/- Without automatic wrapping the flag stays. -/
theorem of_wrapPending_makeRoom
    {width : Nat}
    (hPending : (session.makeRoom width).cursor.wrapPending) :
    session.cursor.wrapPending ∧
      session.modes.autoWrap = false := by
  have hWrapped :
      session.wrapIfPending.cursor.wrapPending →
        session.cursor.wrapPending ∧
          session.modes.autoWrap = false := by
    unfold wrapIfPending
    split
    · rw [wrapPending_softWrap]
      nofun
    · rename_i hNot
      intro hThere
      exact
        ⟨hThere,
          Bool.eq_false_iff.mpr fun hWraps =>
            hNot ⟨hThere, hWraps⟩⟩
  rw [makeRoom_eq] at hPending
  unfold fit at hPending
  split at hPending
  · split at hPending
    · rw [wrapPending_softWrap] at hPending
      cases hPending
    · exact hWrapped hPending
  · exact hWrapped hPending

end

section

variable {config : Config} {cols rows : Nat}
  {session : Session}
  (hSession : session.WellFormed config cols rows)

include hSession

theorem WellFormed.col_makeRoom
    (width : Nat) :
    (session.makeRoom width).cursor.col =
      session.landing width := by
  have hCols := hSession.wrapIfPending.cols_eq
  rw [← hSession.cols_eq] at hCols
  rw [makeRoom_eq]
  unfold landing
  dsimp only
  rw [← col_wrapIfPending, ← hCols]
  unfold Session.fit
  split
  · split
    · exact col_softWrap _
    · rfl
  · rfl

section

variable [TextLibrary]

/- A character that fits is put where there is room for it. -/
theorem WellFormed.exists_advance
    {c : Char}
    {width : Nat}
    (hWidth :
      TextLibrary.displayWidth (session.charsets.substitute c) =
        some width)
    (hSome : 0 < width)
    (hFits : width ≤ cols) :
    ∃ put : Session,
      session.writeChar c = put.advance width ∧
        put.cols = cols ∧
          put.place = (session.makeRoom width).place := by
  have hRoom := hSession.col_makeRoom_add_le hFits
  have hPut :=
    (hSession.makeRoom hSome).putAtCursor hSome hRoom
      (session.charsets.substitute c)
  exact
    ⟨{ (session.makeRoom width).putAtCursor width
          (session.charsets.substitute c) with
        lastPrinted := some (session.charsets.substitute c) },
      writeChar_eq hWidth hSome
        (hSession.cols_eq.symm ▸ hFits),
      hPut.cols_eq, place_putAtCursor _ width _⟩

/- One without a column, or too wide, is dropped. -/
theorem WellFormed.writeChar_eq_self
    {c : Char}
    (hDropped :
      ¬∃ width,
        TextLibrary.displayWidth (session.charsets.substitute c) =
            some width ∧
          0 < width ∧ width ≤ cols) :
    session.writeChar c = session := by
  have hCols := hSession.cols_eq
  unfold Session.writeChar
  dsimp only
  split
  · rfl
  · rfl
  · rename_i width hZero hWidth
    apply if_pos
    by_contra hFits
    exact
      hDropped
        ⟨width, hWidth, Nat.pos_of_ne_zero hZero, by omega⟩

/- Where a character leaves the cursor, and the flag. -/
theorem WellFormed.cursor_writeChar
    {c : Char}
    {width : Nat}
    (hWidth :
      TextLibrary.displayWidth (session.charsets.substitute c) =
        some width)
    (hSome : 0 < width)
    (hFits : width ≤ cols) :
    let written := (session.writeChar c).cursor
    (session.landing width + width < cols ∧
        written.wrapPending =
          (session.makeRoom width).cursor.wrapPending) ∨
      (session.landing width + width = cols ∧
        written.col = session.landing width ∧
        written.wrapPending = true) := by
  have hLanding := hSession.col_makeRoom width
  have hRoom := hSession.col_makeRoom_add_le hFits
  rcases hSession.exists_advance hWidth hSome hFits with
    ⟨put, hWritten, hCols, hPlace⟩
  have hCol :
      put.cursor.col = (session.makeRoom width).cursor.col :=
    congrArg Prod.fst hPlace
  have hPending := wrapPending_eq_of_place_eq hPlace
  dsimp only
  rw [hWritten, ← hLanding, ← hCol, ← hPending]
  rw [← hCol] at hRoom
  unfold Session.advance Session.modifyCursor
  dsimp only
  rw [hCols]
  split
  · rename_i hInside
    exact Or.inl ⟨hInside, rfl⟩
  · rename_i hEdge
    refine Or.inr ⟨by omega, rfl, rfl⟩

end

/- Before the last column no wrap is pending. -/
theorem WellFormed.wrapPending_makeRoom_of_lt
    (hBefore : session.PendsAtEdge)
    {width : Nat}
    (hSome : 0 < width)
    (hInside : session.landing width + width < cols) :
    (session.makeRoom width).cursor.wrapPending = false := by
  apply Bool.eq_false_iff.mpr
  intro hPending
  rcases of_wrapPending_makeRoom hPending with
    ⟨hThere, hWraps⟩
  have hCol := hBefore hThere
  have hCols := hSession.cols_eq
  unfold landing at hInside
  simp only [hWraps, Bool.false_eq_true, and_false, if_false]
    at hInside
  split at hInside <;> omega

/-
  Of all characters only one of more than one column that ends
  in the last one leaves the cursor elsewhere.
-/
theorem WellFormed.pendsAtEdge_writeChar_iff
    [TextLibrary]
    (hBefore : session.PendsAtEdge)
    (c : Char) :
    (session.writeChar c).PendsAtEdge ↔
      ¬session.EndsWide c := by
  by_cases hFits :
      ∃ width,
        TextLibrary.displayWidth (session.charsets.substitute c) =
            some width ∧
          0 < width ∧ width ≤ cols
  · rcases hFits with ⟨width, hWidth, hSome, hLe⟩
    have hCols := hSession.cols_eq
    have hAfter := (hSession.writeChar c).cols_eq
    have hEnds :
        session.EndsWide c ↔
          1 < width ∧ session.landing width + width = cols := by
      unfold EndsWide
      rw [hWidth, hCols]
      simp
    rw [hEnds]
    unfold PendsAtEdge
    rw [hAfter]
    rcases hSession.cursor_writeChar hWidth hSome hLe with
      ⟨hInside, hFlag⟩ | ⟨hEdge, hCol, hFlag⟩
    · have hClear :=
        hSession.wrapPending_makeRoom_of_lt hBefore hSome
          hInside
      rw [hFlag, hClear]
      exact iff_of_true nofun (by omega)
    · rw [hFlag, hCol]
      constructor
      · intro hAtEdge
        have hLast := hAtEdge rfl
        omega
      · intro hNarrow _
        omega
  · rw [hSession.writeChar_eq_self hFits]
    refine iff_of_true hBefore ?_
    rintro ⟨width, hWidth, hWide, hEdge⟩
    rw [hSession.cols_eq] at hEdge
    exact hFits ⟨width, hWidth, by omega, by omega⟩

end

end Session

namespace Terminal

------------------------------------------------------------
-- Runs
------------------------------------------------------------

section

variable [TextLibrary]

/-
  A step writes a character of more than one column that ends
  in the last one.
-/
def EndsWide
    (terminal : Terminal) :
    Step → Prop
  | .event (.print c) => terminal.session.EndsWide c
  | _ => False

instance
    (terminal : Terminal)
    (step : Step) :
    Decidable (terminal.EndsWide step) := by
  unfold EndsWide
  split <;> infer_instance

theorem Sound.pendsAtEdge_event
    {terminal : Terminal}
    (hTerminal : terminal.Sound)
    (hBefore : terminal.session.PendsAtEdge)
    {event : Event}
    (hOther : ¬event.Writes) :
    (terminal.session.handle event).PendsAtEdge := by
  rcases hTerminal with ⟨config, cols, rows, hWellFormed⟩
  have hSession := hWellFormed.session
  have hCols :
      (terminal.session.handle event).cols =
        terminal.session.cols :=
    (hSession.handle event).cols_eq.trans
      hSession.cols_eq.symm
  exact
    (hSession.moves_handle hOther).pendsAtEdge hCols hBefore

theorem Sound.pendsAtEdge_operation
    {terminal : Terminal}
    (hTerminal : terminal.Sound)
    (hBefore : terminal.session.PendsAtEdge)
    {operation : Operation}
    (hOther : ∀ bytes, operation ≠ .process bytes) :
    (terminal.perform operation).1.session.PendsAtEdge := by
  rcases hTerminal with ⟨config, cols, rows, hWellFormed⟩
  have hMoves := hWellFormed.moves_perform hOther
  have hCols := hWellFormed.session.cols_eq
  have hAfter :=
    (hWellFormed.perform operation).session.cols_eq
  cases operation with
  | resize cols' rows' =>
      unfold Terminal.perform
      dsimp only
      rcases terminal.session.resize_cases cols' rows' with
        ⟨error, hRefused⟩ | hSame | hResized
      · rw [hRefused]
        exact hBefore
      · rw [hSame]
        exact hBefore
      · rw [hResized]
        exact fun hPending => nomatch hPending
  | _ =>
      exact
        hMoves.pendsAtEdge (hAfter.trans hCols.symm) hBefore

/- Only such a character separates the flag from the edge. -/
theorem Sound.pendsAtEdge_take
    (terminal : Terminal)
    (step : Step)
    (hTerminal : terminal.Sound)
    (hBefore : terminal.session.PendsAtEdge)
    (hSingle : step.IsSingle) :
    (terminal.EndsWide step ∧
        ¬(terminal.take step).session.PendsAtEdge) ∨
      (¬terminal.EndsWide step ∧
        (terminal.take step).session.PendsAtEdge) := by
  by_cases hPrints : ∃ c, step = .event (.print c)
  · rcases hPrints with ⟨c, rfl⟩
    rcases hTerminal with ⟨config, cols, rows, hWellFormed⟩
    have hIff :
        (terminal.session.writeChar c).PendsAtEdge ↔
          ¬terminal.session.EndsWide c :=
      hWellFormed.session.pendsAtEdge_writeChar_iff hBefore c
    by_cases hEnds : terminal.session.EndsWide c
    · exact Or.inl ⟨hEnds, fun hAt => hIff.mp hAt hEnds⟩
    · exact Or.inr ⟨hEnds, hIff.mpr hEnds⟩
  · refine Or.inr ⟨?_, ?_⟩
    · unfold EndsWide
      split
      · rename_i c
        exact absurd ⟨c, rfl⟩ hPrints
      · exact id
    · cases step with
      | event event =>
          apply hTerminal.pendsAtEdge_event hBefore
          unfold Event.Writes
          split
          · rename_i c
            exact absurd ⟨c, rfl⟩ hPrints
          · exact hSingle.elim
          · exact id
      | operation operation =>
          apply hTerminal.pendsAtEdge_operation hBefore
          rintro bytes rfl
          exact hSingle

/-
  From a terminal on in which the flag is set in the last
  column only, it is so after every step of a run exactly if
  none of them writes a character of more than one column that
  ends in the last one.  Without one, it is so in the end.
-/
theorem Reachable.pendsAtEdge_iff
    {terminal : Terminal}
    (hTerminal : Reachable terminal)
    (hBefore : terminal.session.PendsAtEdge)
    (operations : List Operation) :
    ((∀ moment ∈ terminal.moments operations,
        (moment.1.take moment.2).session.PendsAtEdge) ↔
      ∀ moment ∈ terminal.moments operations,
        ¬moment.1.EndsWide moment.2) ∧
      ((∀ moment ∈ terminal.moments operations,
          ¬moment.1.EndsWide moment.2) →
        (terminal.performAll
          operations).session.PendsAtEdge) := by
  have hStep :
      ∀ (terminal : Terminal) (step : Step),
        terminal.Sound →
          terminal.session.PendsAtEdge →
            step.IsSingle →
              True →
                (terminal.EndsWide step ∧
                    ¬(terminal.take
                      step).session.PendsAtEdge) ∨
                  (¬terminal.EndsWide step ∧
                    (terminal.take
                      step).session.PendsAtEdge) :=
    fun terminal step hSound hKept hSingle _ =>
      hSound.pendsAtEdge_take terminal step hKept hSingle
  have hIff :=
    forall_moments_iff (fun _ => id) hStep
      hTerminal.wellFormed hBefore
      (fun moment
        (_ : moment ∈ terminal.moments operations) => trivial)
  refine ⟨hIff, fun hNever => ?_⟩
  rcases session_performAll_cases terminal operations with
    hSame | ⟨moment, hMem, hLast⟩
  · rw [hSame]
    exact hBefore
  · rw [hLast]
    exact hIff.mpr hNever moment hMem

end

/- A wide character before the last column, then a full row. -/
def filling : List Operation :=
  [.process [0xE4, 0xB8, 0x96, 0x61, 0x62]]

theorem pendsAtEdge_filling :
    ((∀ moment ∈ (createRaised 4 1).moments filling,
        (moment.1.take moment.2).session.PendsAtEdge) ↔
      ∀ moment ∈ (createRaised 4 1).moments filling,
        ¬moment.1.EndsWide moment.2) ∧
      ((createRaised 4 1).performAll
          filling).session.cursor.wrapPending ∧
        ((createRaised 4 1).performAll
          filling).session.PendsAtEdge :=
  have hIff :=
    (Reachable.createRaised 4 1).pendsAtEdge_iff nofun filling
  ⟨hIff.1, by decide +kernel, hIff.2 (by decide +kernel)⟩

/- So the flag does not always mean the last column. -/
theorem not_forall_pendsAtEdge :
    ¬∀ terminal,
      Reachable terminal → terminal.session.PendsAtEdge := by
  intro hAlways
  exact
    absurd
      (hAlways _
        ((Reachable.createRaised 4 1).perform
          (.process [0x61, 0x62, 0xE4, 0xB8, 0x96])))
      (by decide +kernel)

end Terminal

end VideoTerminal
