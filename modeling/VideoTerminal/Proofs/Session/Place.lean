import VideoTerminal.Proofs.Session.WellFormed

/-
  Where events and calls leave the cursor.  Apart from writing
  characters, whatever a session does leaves the cursor in its
  place, or moves it, so that the next character does not wrap
  any more.  In origin mode the cursor stays between the
  margins of the scroll region.

  Main declarations:
    * `Session.BetweenMargins`
    * `Session.Moves`
    * `Session.WellFormed.moves_perform`
    * `Event.Writes`
    * `Session.WellFormed.moves_handle`
    * `Session.WellFormed.betweenMargins_handle`
-/

namespace VideoTerminal

namespace Session

------------------------------------------------------------
-- Places
------------------------------------------------------------

/- The cursor's place, and what confines it. -/
def place
    (session : Session) :
    Nat × Nat × Bool × Bool × Nat × Nat :=
  (session.cursor.col, session.cursor.row,
    session.cursor.wrapPending, session.modes.origin,
    session.regionTop, session.regionBottom)

/- In origin mode the cursor is inside the scroll region. -/
def BetweenMargins
    (session : Session) : Prop :=
  session.modes.origin →
    session.regionTop ≤ session.cursor.row ∧
      session.cursor.row ≤ session.regionBottom

/-
  The cursor is left in its place, or is moved as all
  movements do.
-/
def Moves
    (session after : Session) : Prop :=
  after.place = session.place ∨
    (after.cursor.wrapPending = false ∧
      (session.BetweenMargins → after.BetweenMargins))

section

variable {session between after : Session}

theorem betweenMargins_iff_of_place_eq
    (hPlace : after.place = session.place) :
    after.BetweenMargins ↔ session.BetweenMargins := by
  unfold place at hPlace
  simp only [Prod.mk.injEq] at hPlace
  rcases hPlace with ⟨_, hRow, _, hOrigin, hTop, hBottom⟩
  unfold BetweenMargins
  rw [hRow, hOrigin, hTop, hBottom]

theorem wrapPending_eq_of_place_eq
    (hPlace : after.place = session.place) :
    after.cursor.wrapPending = session.cursor.wrapPending :=
  congrArg (·.2.2.1) hPlace

theorem Moves.of_place_eq
    (hPlace : after.place = session.place) :
    session.Moves after :=
  Or.inl hPlace

theorem Moves.refl
    (session : Session) :
    session.Moves session :=
  .of_place_eq rfl

theorem Moves.betweenMargins
    (hMoves : session.Moves after)
    (hBefore : session.BetweenMargins) :
    after.BetweenMargins := by
  rcases hMoves with hPlace | ⟨_, hKeeps⟩
  · exact (betweenMargins_iff_of_place_eq hPlace).mpr hBefore
  · exact hKeeps hBefore

theorem Moves.trans
    (hFirst : session.Moves between)
    (hSecond : between.Moves after) :
    session.Moves after := by
  have hKeeps :
      session.BetweenMargins → after.BetweenMargins :=
    fun hBefore =>
      hSecond.betweenMargins (hFirst.betweenMargins hBefore)
  rcases hSecond with hPlace | ⟨hMoved, _⟩
  · rcases hFirst with hSame | ⟨hMoved, _⟩
    · exact .of_place_eq (hPlace.trans hSame)
    · refine Or.inr ⟨?_, hKeeps⟩
      rw [wrapPending_eq_of_place_eq hPlace, hMoved]
  · exact Or.inr ⟨hMoved, hKeeps⟩

theorem Moves.then_place_eq
    (hMoves : session.Moves between)
    (hPlace : after.place = between.place) :
    session.Moves after :=
  hMoves.trans (.of_place_eq hPlace)

end

/- A movement within the row of the cursor. -/
theorem moves_goto_row
    (session : Session)
    (col : Nat) :
    session.Moves (session.goto col session.cursor.row) :=
  Or.inr ⟨rfl, id⟩

------------------------------------------------------------
-- Changes That Leave the Cursor
------------------------------------------------------------

theorem place_modifyActive
    (session : Session)
    (change : Grid → Grid) :
    (session.modifyActive change).place = session.place := by
  rcases session with ⟨_, _, _, screen⟩
  cases screen with
  | primary => rfl
  | alternate => rfl

theorem place_scrollLines
    (session : Session)
    (origin count : Nat)
    (direction : ScrollDirection)
    (retain : Bool) :
    (session.scrollLines origin count direction
      retain).place = session.place := by
  by_cases hNone : session.scrollCount origin count = 0
  · rw [scrollLines_of_eq_zero hNone]
  · rw [scrollLines_of_ne_zero hNone]
    exact place_modifyActive session _

theorem place_clearRegion
    (session : Session)
    (x₁ y₁ x₂ y₂ : Nat) :
    (session.clearRegion x₁ y₁ x₂ y₂).place =
      session.place :=
  place_modifyActive (session.dropSelectionIn _ _ _ _) _

theorem place_putAtCursor
    (session : Session)
    (width : Nat)
    (c : Char) :
    (session.putAtCursor width c).place = session.place :=
  place_modifyActive (session.dropSelectionIn _ _ _ _) _

theorem place_saveCursor
    (session : Session) :
    session.saveCursor.place = session.place := by
  unfold Session.saveCursor
  split <;> rfl

theorem place_useAlternate
    (session : Session) :
    session.useAlternate.place = session.place := by
  unfold Session.useAlternate
  split <;> rfl

theorem place_usePrimary
    (session : Session) :
    session.usePrimary.place = session.place := by
  unfold Session.usePrimary
  split <;> rfl

section

variable {config : Config} {cols rows : Nat}
  {session : Session}

------------------------------------------------------------
-- Movements
------------------------------------------------------------

theorem wrapPending_moveTo
    (session : Session)
    (col row : Nat) :
    (session.moveTo col row).cursor.wrapPending = false := by
  unfold Session.moveTo
  split
  rfl

theorem WellFormed.betweenMargins_moveTo
    (hSession : session.WellFormed config cols rows)
    (col row : Nat) :
    (session.moveTo col row).BetweenMargins := by
  have hTop := hSession.region_le
  unfold Session.moveTo
  split
  rename_i hLimits
  intro hOrigin
  replace hOrigin : session.modes.origin := hOrigin
  rw [if_pos hOrigin] at hLimits
  cases hLimits
  simp only [Session.goto, Session.modifyCursor, Cursor.goto]
  omega

/- Whatever has been changed before the movement. -/
theorem WellFormed.moves_moveTo
    (hSession : session.WellFormed config cols rows)
    (before : Session)
    (col row : Nat) :
    before.Moves (session.moveTo col row) :=
  Or.inr
    ⟨wrapPending_moveTo session col row,
      fun _ => hSession.betweenMargins_moveTo col row⟩

theorem WellFormed.moves_setScrollRegion
    (hSession : session.WellFormed config cols rows)
    (top bottom : Nat) :
    session.Moves (session.setScrollRegion top bottom) :=
  (hSession.confinedTo top bottom).moves_moveTo session _ _

theorem WellFormed.moves_restoreCursor
    (hSession : session.WellFormed config cols rows) :
    session.Moves session.restoreCursor := by
  unfold Session.restoreCursor
  dsimp only
  apply WellFormed.moves_moveTo
  exact { hSession with }

theorem WellFormed.moves_newLine
    (hSession : session.WellFormed config cols rows)
    (toFirstColumn : Bool) :
    session.Moves (session.newLine toFirstColumn) := by
  have hRow := hSession.cursor_row
  have hHeight := hSession.rows_eq
  unfold Session.newLine
  dsimp only
  split
  · have hScrolled :=
      place_scrollLines session session.regionTop 1 .up true
    have hSame := congrArg (·.2.1) hScrolled
    refine Or.inr ⟨rfl, fun hBefore => ?_⟩
    rw [← show _ = session.cursor.row from hSame]
    exact
      (betweenMargins_iff_of_place_eq hScrolled).mpr hBefore
  · rename_i hInside
    split
    · refine Or.inr ⟨rfl, fun hBefore hOrigin => ?_⟩
      rcases hBefore hOrigin with ⟨hTop, hBottom⟩
      simp only [Session.goto, Session.modifyCursor,
        Cursor.goto]
      omega
    · exact moves_goto_row session _

theorem moves_reverseIndex
    (session : Session) :
    session.Moves session.reverseIndex := by
  unfold Session.reverseIndex
  dsimp only
  split
  · have hScrolled :=
      place_scrollLines session session.regionTop 1 .down
        false
    refine Or.inr ⟨rfl, fun hBefore => ?_⟩
    exact
      (betweenMargins_iff_of_place_eq hScrolled).mpr hBefore
  · rename_i hInside
    refine Or.inr ⟨rfl, fun hBefore hOrigin => ?_⟩
    rcases hBefore hOrigin with ⟨hTop, hBottom⟩
    simp only [Session.goto, Session.modifyCursor,
      Cursor.goto]
    omega

theorem moves_cursorUp
    (session : Session)
    (n : Nat) :
    session.Moves (session.cursorUp n) := by
  refine Or.inr ⟨rfl, fun hBefore hOrigin => ?_⟩
  rcases hBefore hOrigin with ⟨hTop, hBottom⟩
  simp only [Session.cursorUp, Session.modifyCursor,
    Cursor.up, Cursor.goto, upperLimit, if_pos hTop]
  omega

theorem moves_cursorDown
    (session : Session)
    (n : Nat) :
    session.Moves (session.cursorDown n) := by
  refine Or.inr ⟨rfl, fun hBefore hOrigin => ?_⟩
  rcases hBefore hOrigin with ⟨hTop, hBottom⟩
  simp only [Session.cursorDown, Session.modifyCursor,
    Cursor.down, Cursor.goto, lowerLimit, if_pos hBottom]
  omega

------------------------------------------------------------
-- Control Characters
------------------------------------------------------------

theorem WellFormed.moves_execute
    (hSession : session.WellFormed config cols rows)
    (c : Char) :
    session.Moves (session.execute c) := by
  unfold Session.execute
  split
  · exact .of_place_eq rfl
  · exact moves_goto_row session _
  · exact moves_goto_row session _
  · exact hSession.moves_newLine _
  · exact hSession.moves_newLine _
  · exact hSession.moves_newLine _
  · exact moves_goto_row session _
  · exact .of_place_eq rfl
  · exact .of_place_eq rfl
  · exact .of_place_eq (place_modifyActive _ _)
  · exact hSession.moves_newLine false
  · exact hSession.moves_newLine true
  · exact .of_place_eq rfl
  · exact moves_reverseIndex session
  · exact .of_place_eq rfl
  · exact .refl session

------------------------------------------------------------
-- Modes
------------------------------------------------------------

theorem place_setAlternate
    (session : Session)
    (on : Bool) :
    (session.setAlternate on).place = session.place := by
  unfold Session.setAlternate
  split
  · exact place_useAlternate session
  · exact place_usePrimary session

theorem WellFormed.moves_setAlternateWithCursor
    (hSession : session.WellFormed config cols rows)
    (on : Bool) :
    session.Moves (session.setAlternateWithCursor on) := by
  unfold Session.setAlternateWithCursor
  split
  · exact
      .of_place_eq
        ((place_useAlternate _).trans
          (place_saveCursor session))
  · exact
      (Moves.of_place_eq (place_usePrimary session)).trans
        hSession.usePrimary.moves_restoreCursor
  · exact .refl session

theorem place_setReverseVideo
    (session : Session)
    (on : Bool) :
    (session.setReverseVideo on).place = session.place := by
  unfold Session.setReverseVideo
  split
  · rfl
  · exact place_modifyActive (session.modifyModes _) _

theorem WellFormed.moves_setPrivateMode?
    (hSession : session.WellFormed config cols rows)
    {mode : Nat}
    {on : Bool}
    {changed : Session}
    (hChanged :
      session.setPrivateMode? mode on = some changed) :
    session.Moves changed := by
  unfold Session.setPrivateMode? at hChanged
  split at hChanged
  all_goals cases hChanged
  · exact .of_place_eq rfl
  · exact .of_place_eq (place_setReverseVideo session on)
  · exact (hSession.modifyModes _).moves_moveTo session _ _
  · exact .of_place_eq rfl
  · exact .of_place_eq rfl
  · exact .of_place_eq rfl
  · exact .of_place_eq (place_setAlternate session on)
  · exact .of_place_eq (place_setAlternate session on)
  · exact .of_place_eq rfl
  · exact .of_place_eq rfl
  · exact .of_place_eq rfl
  · exact .of_place_eq rfl
  · exact .of_place_eq rfl
  · split
    · exact .of_place_eq (place_saveCursor session)
    · exact hSession.moves_restoreCursor
  · exact hSession.moves_setAlternateWithCursor on
  · exact .of_place_eq rfl

theorem WellFormed.moves_setMode
    (hSession : session.WellFormed config cols rows)
    (isPrivate on : Bool)
    (mode : Nat) :
    session.Moves (session.setMode isPrivate on mode) := by
  unfold Session.setMode
  dsimp only
  split
  · exact .refl session
  · rename_i changed hChanged
    have hMoves : session.Moves changed := by
      split at hChanged
      · exact hSession.moves_setPrivateMode? hChanged
      · unfold Session.setAnsiMode? at hChanged
        split at hChanged
        · cases hChanged
          exact .of_place_eq rfl
        · cases hChanged
          exact .of_place_eq rfl
        · cases hChanged
    exact hMoves.then_place_eq rfl

theorem WellFormed.moves_setModes
    (hSession : session.WellFormed config cols rows)
    (isPrivate on : Bool)
    (params : Parameters) :
    session.Moves (session.setModes isPrivate on params) := by
  unfold Session.setModes
  induction params.items.filterMap Parameter.value
    generalizing session with
  | nil => exact .refl session
  | cons mode modes hRest =>
      exact
        (hSession.moves_setMode isPrivate on mode).trans
          (hRest (hSession.setMode isPrivate on mode))

------------------------------------------------------------
-- Erasing and Reporting
------------------------------------------------------------

theorem place_eraseDisplay
    (session : Session)
    (param : Nat) :
    (session.eraseDisplay param).place = session.place := by
  unfold Session.eraseDisplay
  dsimp only
  split
  · split
    · exact
        (place_clearRegion _ _ _ _ _).trans
          (place_clearRegion _ _ _ _ _)
    · exact place_clearRegion _ _ _ _ _
  · rw [place_clearRegion]
    split
    · exact place_clearRegion _ _ _ _ _
    · rfl
  · exact place_clearRegion _ _ _ _ _
  · rfl
  · rfl

theorem place_eraseLine
    (session : Session)
    (param : Nat) :
    (session.eraseLine param).place = session.place := by
  unfold Session.eraseLine
  dsimp only
  split
  · exact place_clearRegion _ _ _ _ _
  · exact place_clearRegion _ _ _ _ _
  · exact place_clearRegion _ _ _ _ _
  · rfl

theorem place_scrollFromCursor
    (session : Session)
    (n : Nat)
    (direction : ScrollDirection) :
    (session.scrollFromCursor n direction).place =
      session.place := by
  unfold Session.scrollFromCursor
  dsimp only
  split
  · exact place_scrollLines _ _ _ _ _
  · rfl

theorem place_editLine
    (session : Session)
    (change : Grid → Nat → Nat → Cell → Grid) :
    (session.editLine change).place = session.place :=
  place_modifyActive (session.dropSelectionIn _ _ _ _) _

theorem place_reportStatus
    (session : Session)
    (param : Nat) :
    (session.reportStatus param).place = session.place := by
  unfold Session.reportStatus
  split <;> rfl

theorem place_reportIfZero
    (param : Nat)
    {report : Session → Session}
    (hReport : (report session).place = session.place) :
    (session.reportIfZero param report).place =
      session.place := by
  unfold Session.reportIfZero
  split
  · exact hReport
  · rfl

theorem place_clearTabStops
    (session : Session)
    (param : Nat) :
    (session.clearTabStops param).place = session.place := by
  unfold Session.clearTabStops
  split <;> rfl

theorem place_setCursorStyle
    (session : Session)
    (param : Nat) :
    (session.setCursorStyle param).place =
      session.place := by
  unfold Session.setCursorStyle
  split <;> rfl

------------------------------------------------------------
-- Sequences
------------------------------------------------------------

/- All control sequences but the one that writes. -/
theorem WellFormed.moves_perform
    [TextLibrary]
    (hSession : session.WellFormed config cols rows)
    {action : Action}
    (hOther : action ≠ .repeatChar)
    (params : Parameters) :
    session.Moves (session.perform action params) := by
  have hUp := moves_cursorUp session (params.count 0)
  have hDown := moves_cursorDown session (params.count 0)
  unfold Session.perform
  dsimp only
  cases action with
  | insertChars => exact .of_place_eq (place_editLine _ _)
  | cursorUp => exact hUp
  | cursorDown => exact hDown
  | cursorForward => exact moves_goto_row session _
  | cursorBack => exact moves_goto_row session _
  | cursorNextLine =>
      exact Or.inr ⟨rfl, hDown.betweenMargins⟩
  | cursorPrevLine =>
      exact Or.inr ⟨rfl, hUp.betweenMargins⟩
  | cursorColumn => exact moves_goto_row session _
  | cursorPosition => exact hSession.moves_moveTo session _ _
  | tabForward => exact moves_goto_row session _
  | eraseDisplay =>
      exact .of_place_eq (place_eraseDisplay _ _)
  | eraseLine => exact .of_place_eq (place_eraseLine _ _)
  | insertLines =>
      exact .of_place_eq (place_scrollFromCursor _ _ _)
  | deleteLines =>
      exact .of_place_eq (place_scrollFromCursor _ _ _)
  | deleteChars => exact .of_place_eq (place_editLine _ _)
  | scrollUp =>
      exact .of_place_eq (place_scrollLines _ _ _ _ _)
  | scrollDown =>
      exact .of_place_eq (place_scrollLines _ _ _ _ _)
  | eraseChars =>
      exact .of_place_eq (place_clearRegion _ _ _ _ _)
  | tabBackward => exact moves_goto_row session _
  | repeatChar => exact absurd rfl hOther
  | deviceAttributes =>
      exact .of_place_eq (place_reportIfZero _ rfl)
  | secondaryDeviceAttributes =>
      exact .of_place_eq (place_reportIfZero _ rfl)
  | linePosition => exact hSession.moves_moveTo session _ _
  | tabClear => exact .of_place_eq (place_clearTabStops _ _)
  | setMode => exact hSession.moves_setModes _ _ _
  | resetMode => exact hSession.moves_setModes _ _ _
  | setPrivateMode => exact hSession.moves_setModes _ _ _
  | resetPrivateMode => exact hSession.moves_setModes _ _ _
  | selectRendition => exact .of_place_eq rfl
  | deviceStatus => exact .of_place_eq (place_reportStatus _ _)
  | setScrollRegion => exact hSession.moves_setScrollRegion _ _
  | saveCursor => exact .of_place_eq (place_saveCursor _)
  | restoreCursor => exact hSession.moves_restoreCursor
  | setCursorStyle =>
      exact .of_place_eq (place_setCursorStyle _ _)

/- The session at the start has no margins to keep to. -/
theorem moves_reset
    (session : Session) :
    session.Moves session.reset :=
  Or.inr ⟨rfl, fun _ hOrigin => nomatch hOrigin⟩

theorem WellFormed.moves_performEscape
    (hSession : session.WellFormed config cols rows)
    (intermediate : Option Char)
    (final : Char) :
    session.Moves
      (session.performEscape intermediate final) := by
  unfold Session.performEscape
  split
  · unfold performPlainEscape
    split
    · exact .of_place_eq (place_saveCursor session)
    · exact hSession.moves_restoreCursor
    · exact hSession.moves_newLine false
    · exact hSession.moves_newLine true
    · exact .of_place_eq rfl
    · exact moves_reverseIndex session
    · exact .of_place_eq rfl
    · exact moves_reset session
    · exact .of_place_eq rfl
    · exact .of_place_eq rfl
    · exact .of_place_eq rfl
    · exact .of_place_eq rfl
    · exact .refl session
  · split
    · exact hSession.aligned.moves_moveTo session 0 0
    · exact .refl session
  · split
    · exact .refl session
    · unfold designate
      split
      · exact .refl session
      · exact .of_place_eq rfl

theorem moves_performString
    [TextLibrary]
    (session : Session)
    (kind : StringKind)
    (payload : String) :
    session.Moves (session.performString kind payload) := by
  rcases performString_eq session kind payload with
    ⟨title, iconName, notices, hPerformed⟩
  rw [hPerformed]
  exact .of_place_eq rfl

end

end Session

------------------------------------------------------------
-- Events
------------------------------------------------------------

/- An event writes characters at the cursor. -/
def Event.Writes :
    Event → Prop
  | .print _ | .sequence .repeatChar _ => True
  | _ => False

namespace Session

/- Past a character the cursor stays in its row. -/
theorem betweenMargins_advance
    {session : Session}
    (width : Nat)
    (hBefore : session.BetweenMargins) :
    (session.advance width).BetweenMargins := by
  unfold Session.advance Session.modifyCursor
  dsimp only
  split
  · exact hBefore
  · exact hBefore

section

variable {config : Config} {cols rows : Nat}
  {session : Session}
  (hSession : session.WellFormed config cols rows)

include hSession

theorem WellFormed.moves_handle
    [TextLibrary]
    {event : Event}
    (hOther : ¬event.Writes) :
    session.Moves (session.handle event) := by
  cases event with
  | print c => exact absurd trivial hOther
  | execute c => exact hSession.moves_execute c
  | escape intermediate final =>
      exact hSession.moves_performEscape intermediate final
  | sequence action params =>
      apply hSession.moves_perform
      rintro rfl
      exact hOther trivial
  | string kind payload =>
      exact moves_performString session kind payload

/- Soft wraps are movements, and the mark is left behind. -/
theorem WellFormed.moves_softWrap :
    session.Moves session.softWrap :=
  (Moves.of_place_eq (place_modifyActive session _)).trans
    (hSession.markWrapped.moves_newLine true)

theorem WellFormed.betweenMargins_makeRoom
    (width : Nat)
    (hBefore : session.BetweenMargins) :
    (session.makeRoom width).BetweenMargins := by
  have hWrapped :
      session.wrapIfPending.BetweenMargins := by
    unfold Session.wrapIfPending
    split
    · exact hSession.moves_softWrap.betweenMargins hBefore
    · exact hBefore
  rw [makeRoom_eq]
  unfold Session.fit
  split
  · split
    · exact
        hSession.wrapIfPending.moves_softWrap.betweenMargins
          hWrapped
    · exact hWrapped
  · exact hWrapped

section

variable [TextLibrary]

theorem WellFormed.betweenMargins_writeChar
    (c : Char)
    (hBefore : session.BetweenMargins) :
    (session.writeChar c).BetweenMargins := by
  unfold Session.writeChar
  dsimp only
  split
  · exact hBefore
  · exact hBefore
  · rename_i width _ _
    split
    · exact hBefore
    · have hPut :
          ((session.makeRoom width).putAtCursor width
            (session.charsets.substitute c)).BetweenMargins :=
        (betweenMargins_iff_of_place_eq
          (place_putAtCursor _ width _)).mpr
            (hSession.betweenMargins_makeRoom width hBefore)
      apply betweenMargins_advance
      exact hPut

theorem WellFormed.betweenMargins_writeCharTimes
    (c : Char)
    (n : Nat)
    (hBefore : session.BetweenMargins) :
    (session.writeCharTimes c n).BetweenMargins := by
  induction n generalizing session with
  | zero => exact hBefore
  | succ n hRest =>
      exact
        hRest (hSession.writeChar c)
          (hSession.betweenMargins_writeChar c hBefore)

/- No event takes the cursor out of the margins. -/
theorem WellFormed.betweenMargins_handle
    (event : Event)
    (hBefore : session.BetweenMargins) :
    (session.handle event).BetweenMargins := by
  by_cases hWrites : event.Writes
  · cases event with
    | print c =>
        exact hSession.betweenMargins_writeChar c hBefore
    | sequence action params =>
        cases action with
        | repeatChar =>
            show (session.repeatLast _).BetweenMargins
            unfold Session.repeatLast
            split
            · exact hBefore
            · exact
                hSession.betweenMargins_writeCharTimes _ _
                  hBefore
        | _ => exact hWrites.elim
    | _ => exact hWrites.elim
  · exact (hSession.moves_handle hWrites).betweenMargins hBefore

theorem WellFormed.betweenMargins_handleAll
    (events : List Event)
    (hBefore : session.BetweenMargins) :
    (events.foldl Session.handle session).BetweenMargins := by
  induction events generalizing session with
  | nil => exact hBefore
  | cons event events hRest =>
      exact
        hRest (hSession.handle event)
          (hSession.betweenMargins_handle event hBefore)

end

end

end Session

end VideoTerminal
