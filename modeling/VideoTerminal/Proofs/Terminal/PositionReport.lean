import VideoTerminal.Proofs.Session.Writing
import VideoTerminal.Proofs.Terminal.Place
import VideoTerminal.Proofs.Terminal.Sequences
import VideoTerminal.Text.Linked

/-
  The report of the cursor's position, and the sequence that
  moves the cursor to a position.  An application that asks
  for the one and sends it back as the other finds the cursor
  where it was, in origin mode too, because the cursor is
  inside the scroll region there.

  Main declarations:
    * `Session.reportedRow`
    * `Session.WellFormed.cursor_moveTo_reported`
    * `Terminal.positionQuery`
    * `Terminal.moveRequest`
    * `Terminal.Reachable.returnsTo_reported`
-/

namespace VideoTerminal

namespace Session

------------------------------------------------------------
-- Reported Positions
------------------------------------------------------------

/-
  The row that is reported.  In origin mode it counts from the
  top of the scroll region.
-/
def reportedRow
    (session : Session) : Nat :=
  (if session.modes.origin then
      session.cursor.row - session.regionTop
    else
      session.cursor.row) + 1

/- The column that is reported. -/
def reportedCol
    (session : Session) : Nat :=
  session.cursor.col + 1

theorem reportStatus_six
    (session : Session) :
    session.reportStatus 6 =
      session.respond
        (positionReport session.reportedRow
          session.reportedCol) :=
  rfl

section

variable {config : Config} {cols rows : Nat}
  {session : Session}
  (hSession : session.WellFormed config cols rows)

include hSession

theorem WellFormed.reportedRow_le :
    session.reportedRow ≤ rows := by
  have hRow := hSession.cursor_row
  unfold reportedRow
  split <;> omega

theorem WellFormed.reportedCol_le :
    session.reportedCol ≤ cols :=
  hSession.cursor_col

/-
  Between the margins neither counting from the top of the
  region nor keeping to the region moves the cursor away.
-/
theorem WellFormed.cursor_moveTo_reported
    (hMargins : session.BetweenMargins) :
    let moved :=
      session.moveToOrigin (session.reportedCol - 1)
        (session.reportedRow - 1)
    moved.cursor.col = session.cursor.col ∧
      moved.cursor.row = session.cursor.row := by
  have hCol := hSession.cursor_col
  have hRow := hSession.cursor_row
  have hCols := hSession.cols_eq
  have hRows := hSession.rows_eq
  unfold Session.moveToOrigin Session.moveTo reportedRow
    reportedCol
  cases hOrigin : session.modes.origin with
  | false =>
      simp only [Bool.false_eq_true, if_false, Session.goto,
        Session.modifyCursor, Cursor.goto]
      omega
  | true =>
      rcases hMargins hOrigin with ⟨hTop, hBottom⟩
      simp only [if_true, Session.goto, Session.modifyCursor,
        Cursor.goto]
      omega

end

------------------------------------------------------------
-- Characters Send Nothing
------------------------------------------------------------

theorem unwritten_outbox :
    Unwritten outbox where
  screen := by
    intro session change
    unfold Session.modifyActive
    split <;> rfl
  selected := fun _ _ => rfl
  placed := fun _ _ _ _ => rfl
  printed := fun _ _ => rfl

end Session

namespace Terminal

------------------------------------------------------------
-- Asking and Answering
------------------------------------------------------------

/- The sequence that asks for the position of the cursor. -/
def positionQuery : List UInt8 :=
  Utf8.encodeAll ['\x1B', '[', '6', 'n']

/- The sequence that moves the cursor to a position. -/
def moveRequest
    (row col : Nat) : List UInt8 :=
  Utf8.encodeAll
    (['\x1B', '['] ++ Nat.toDigits 10 row ++ [';'] ++
      Nat.toDigits 10 col ++ ['H'])

/- The query as a control sequence. -/
def query : ControlSequence where
  introducer := .escape
  marker := none
  parameters := ⟨⟨['6'], by simp⟩, []⟩
  intermediate := none
  final := 'n'
  isMarker := isMarker_none
  isIntermediate := isIntermediate_none
  isFinal := by decide

/- The request as a control sequence. -/
def request
    (row col : Nat) : ControlSequence where
  introducer := .escape
  marker := none
  parameters := ⟨numeral row, [(false, numeral col)]⟩
  intermediate := none
  final := 'H'
  isMarker := isMarker_none
  isIntermediate := isIntermediate_none
  isFinal := by decide

theorem bytes_query :
    query.bytes = positionQuery :=
  rfl

theorem bytes_request
    (row col : Nat) :
    (request row col).bytes = moveRequest row col := by
  unfold ControlSequence.bytes moveRequest
  apply congrArg Utf8.encodeAll
  simp [request, ControlSequence.body, ParameterText.chars,
    ParameterText.charsOf, ParameterText.separator, numeral,
    Introducer.lead, Introducer.rest]

theorem handleSequence_query
    [TextLibrary]
    (session : Session) :
    session.handleSequence query = session.reportStatus 6 :=
  rfl

theorem written_request
    {row col : Nat}
    (hRow : row ≤ Parameters.maxValue)
    (hCol : col ≤ Parameters.maxValue) :
    (request row col).parameters.written =
      [⟨some row, false⟩, ⟨some col, false⟩] := by
  unfold request
  rw [written_numeral hRow, List.map_singleton]
  unfold ParameterText.parameter
  rw [value?_numeral hCol]

section

variable [TextLibrary]

theorem handleSequence_request
    (session : Session)
    {row col : Nat}
    (hRow : 0 < row ∧ row ≤ Parameters.maxValue)
    (hCol : 0 < col ∧ col ≤ Parameters.maxValue) :
    session.handleSequence (request row col) =
      session.moveToOrigin (col - 1) (row - 1) := by
  have hItems :
      (request row col).kept.items =
        [⟨some row, false⟩, ⟨some col, false⟩] := by
    rw [ControlSequence.items_kept,
      written_request hRow.2 hCol.2]
    rfl
  have hCount :
      (request row col).kept.count 0 = row ∧
        (request row col).kept.count 1 = col := by
    constructor
    · rw [Parameters.count_eq, Parameters.getD,
        Parameters.get?_eq, hItems]
      exact Nat.max_eq_right hRow.1
    · rw [Parameters.count_eq, Parameters.getD,
        Parameters.get?_eq, hItems]
      exact Nat.max_eq_right hCol.1
  unfold Session.handleSequence
  rw [(request row col).finishSequence_kept]
  show
    session.moveToOrigin
        ((request row col).kept.count 1 - 1)
        ((request row col).kept.count 0 - 1) = _
  rw [hCount.1, hCount.2]

------------------------------------------------------------
-- There and Back
------------------------------------------------------------

/- A character that was cut short is shown, and not sent. -/
theorem outbox_replacement
    (parser : Parser)
    (session : Session) :
    ((parser.run [Utf8.replacement]).2.foldl Session.handle
      session).outbox = session.outbox := by
  rcases session.handleAll_replacement parser with
    hNothing | hWritten
  · rw [hNothing]
  · rw [hWritten]
    exact Session.unwritten_outbox.writeChar session _

/-
  A terminal answers the query with a position, and the
  request for that position leaves its cursor in the same
  cell.  The query itself shows nothing, unless it cuts a
  character short.
-/
structure ReturnsTo
    (terminal : Terminal)
    (row col : Nat) : Prop where
  outbox_eq :
    (terminal.process positionQuery).session.outbox =
      terminal.session.outbox.write
        (Session.positionReport row col)
  cursor_eq :
    terminal.decoder.isPending = false →
      (terminal.process positionQuery).session.cursor =
        terminal.session.cursor
  col_eq :
    ((terminal.process positionQuery).process
        (moveRequest row col)).session.cursor.col =
      (terminal.process positionQuery).session.cursor.col
  row_eq :
    ((terminal.process positionQuery).process
        (moveRequest row col)).session.cursor.row =
      (terminal.process positionQuery).session.cursor.row

/- With nothing read in part, a sequence is all that acts. -/
theorem process_sequence_of_start
    {terminal : Terminal}
    (hDecoder : terminal.decoder = .start)
    {sequence : ControlSequence}
    (hEscape : sequence.introducer = .escape) :
    (terminal.process sequence.bytes).session =
      terminal.session.handleSequence sequence := by
  have hContinues :
      ∀ sequence ∈ terminal.decoder.pending,
        0x80 ≤ sequence.lower := by
    rw [hDecoder]
    nofun
  rcases process_sequence hContinues hEscape with
    ⟨broken, rfl | ⟨_, hPending⟩, _, hSession⟩
  · exact hSession
  · rw [hDecoder] at hPending
    cases hPending

theorem WellFormed.cursor_process_moveRequest
    {config : Config}
    {cols rows : Nat}
    {terminal : Terminal}
    (hTerminal : terminal.WellFormed config cols rows)
    (hDecoder : terminal.decoder = .start)
    (hMargins : terminal.session.BetweenMargins)
    (hCols : cols ≤ Parameters.maxValue)
    (hRows : rows ≤ Parameters.maxValue) :
    let session := terminal.session
    let moved :=
      (terminal.process
        (moveRequest session.reportedRow
          session.reportedCol)).session
    moved.cursor.col = session.cursor.col ∧
      moved.cursor.row = session.cursor.row := by
  have hSession := hTerminal.session
  have hRow :
      0 < terminal.session.reportedRow ∧
        terminal.session.reportedRow ≤
          Parameters.maxValue :=
    ⟨Nat.succ_pos _, hSession.reportedRow_le.trans hRows⟩
  have hCol :
      0 < terminal.session.reportedCol ∧
        terminal.session.reportedCol ≤
          Parameters.maxValue :=
    ⟨Nat.succ_pos _, hSession.reportedCol_le.trans hCols⟩
  dsimp only
  rw [← bytes_request,
    process_sequence_of_start hDecoder rfl,
    handleSequence_request _ hRow hCol]
  exact hSession.cursor_moveTo_reported hMargins

/-
  In every terminal that is not too large for the numbers of a
  sequence, the cursor is between the margins in origin mode,
  and returns to the position that is reported.
-/
theorem Reachable.returnsTo_reported
    {terminal : Terminal}
    (hTerminal : Reachable terminal)
    (hCols : terminal.session.cols ≤ Parameters.maxValue)
    (hRows : terminal.session.rows ≤ Parameters.maxValue) :
    terminal.session.BetweenMargins ∧
      ∃ row col, terminal.ReturnsTo row col := by
  rcases hTerminal.wellFormed with
    ⟨config, cols, rows, hBefore⟩
  have hAfter := hBefore.process positionQuery
  have hMargins : terminal.session.BetweenMargins :=
    hTerminal.betweenMargins
  have hReached :
      (terminal.process
        positionQuery).session.BetweenMargins :=
    (hTerminal.perform (.process positionQuery)).betweenMargins
  rw [hBefore.session.cols_eq] at hCols
  rw [hBefore.session.rows_eq] at hRows
  have hQuery : query.introducer = .escape := rfl
  rcases process_sequence hBefore.continues hQuery with
    ⟨broken, hBroken, hDecoder, hAsked⟩
  rw [bytes_query] at hDecoder hAsked
  rw [handleSequence_query, Session.reportStatus_six]
    at hAsked
  have hShown :
      ((terminal.parser.run broken).2.foldl Session.handle
        terminal.session).outbox = terminal.session.outbox := by
    rcases hBroken with rfl | ⟨rfl, _⟩
    · rfl
    · exact outbox_replacement _ _
  have hMoved :=
    hAfter.cursor_process_moveRequest hDecoder hReached hCols
      hRows
  refine
    ⟨hMargins,
      (terminal.process positionQuery).session.reportedRow,
      (terminal.process positionQuery).session.reportedCol,
      { outbox_eq := ?_
        cursor_eq := ?_
        col_eq := hMoved.1
        row_eq := hMoved.2 }⟩
  · rw [hAsked, ← hShown]
    rfl
  · intro hNotPending
    rcases hBroken with rfl | ⟨_, hPending⟩
    · rw [hAsked]
      rfl
    · rw [hNotPending] at hPending
      cases hPending

end

/-
  In origin mode below the top of the scroll region, with a
  wrap pending and a character cut short.
-/
def inRegion : Terminal :=
  (createRaised 3 4).performAll
    [.setScrollRegion 1 2,
      .process
        [0x1B, 0x5B, 0x3F, 0x36, 0x68, 0x0A, 0x61, 0x62,
          0x63, 0xE4]]

theorem returnsTo_reported_inRegion :
    inRegion.session.BetweenMargins ∧
      ∃ row col, inRegion.ReturnsTo row col :=
  Reachable.returnsTo_reported
    ((Reachable.createRaised 3 4).performAll _)
    (by decide) (by decide)

end Terminal

end VideoTerminal
