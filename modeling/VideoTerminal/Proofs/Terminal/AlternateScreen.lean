import VideoTerminal.Proofs.Session.Offstage
import VideoTerminal.Proofs.Terminal.Events
import VideoTerminal.Proofs.Terminal.Reset
import VideoTerminal.Text.Linked

/-
  Between entering the alternate screen and leaving it, what
  an application sends does not touch the primary screen.

  Main declarations:
    * `Utf8.Decoder.push_cases`
    * `Terminal.WellFormed.aside_process`
    * `Terminal.Restores`
    * `Terminal.Reachable.restores_of_alternate`
-/

namespace VideoTerminal

------------------------------------------------------------
-- Characters of One Byte
------------------------------------------------------------

namespace Utf8

theorem length_lead_le
    (byte : UInt8) :
    (lead byte).2.length ≤ 1 := by
  unfold lead
  dsimp only
  repeat' split
  all_goals simp

/-
  A byte completes one character at most, and may show before
  it that it broke another one off.
-/
theorem Decoder.push_cases
    (decoder : Decoder)
    (byte : UInt8) :
    ∃ broken chars,
      (decoder.push byte).2 = broken ++ chars ∧
        (broken = [] ∨ broken = [replacement]) ∧
        chars.length ≤ 1 := by
  have hLead := length_lead_le byte
  unfold push
  split
  · exact ⟨[], _, rfl, Or.inl rfl, hLead⟩
  · dsimp only
    split
    · exact ⟨[replacement], _, rfl, Or.inr rfl, hLead⟩
    · split
      · exact
          ⟨[], _, rfl, Or.inl rfl, Nat.le_refl 1⟩
      · exact ⟨[], _, rfl, Or.inl rfl, Nat.zero_le 1⟩

end Utf8

theorem Parser.length_run_le
    (parser : Parser)
    (chars : List Char) :
    (parser.run chars).2.length ≤ chars.length := by
  induction chars generalizing parser with
  | nil => exact Nat.le_refl 0
  | cons c chars hRest =>
      have hEvent : (parser.step c).2.toList.length ≤ 1 := by
        cases (parser.step c).2 <;> simp
      have hLater := hRest (parser.step c).1
      rw [Parser.run_cons, List.length_append,
        List.length_cons]
      omega

namespace Terminal

------------------------------------------------------------
-- The Primary Screen Aside
------------------------------------------------------------

section

variable [TextLibrary]

/- A character that was cut short leaves it as it is. -/
theorem aside_replacement
    (parser : Parser)
    (session : Session) :
    ((parser.run [Utf8.replacement]).2.foldl Session.handle
      session).aside = session.aside := by
  rcases session.handleAll_replacement parser with
    hNothing | hWritten
  · rw [hNothing]
  · rw [hWritten]
    exact Session.unwritten_aside.writeChar session _

section

variable {config : Config} {cols rows : Nat}
  {terminal : Terminal}

theorem WellFormed.aside_readByte
    (hTerminal : terminal.WellFormed config cols rows)
    (hAside : terminal.session.aside ≠ none)
    {byte : UInt8}
    (hKeeps :
      ∀ event ∈ terminal.events [byte],
        ¬event.ClearsHistory) :
    (terminal.readByte byte).session.aside =
        terminal.session.aside ∨
      (terminal.readByte byte).session.aside = none := by
  rcases terminal.decoder.push_cases byte with
    ⟨broken, chars, hPush, hBroken, hLength⟩
  have hRead := process_eq terminal [byte]
  have hEvents :
      terminal.events [byte] =
        (terminal.parser.run broken).2 ++
          ((terminal.parser.run broken).1.run chars).2 := by
    unfold events
    rw [Utf8.Decoder.pushAll_singleton, hPush,
      Parser.run_append]
  have hShown :
      ((terminal.parser.run broken).2.foldl Session.handle
        terminal.session).aside = terminal.session.aside := by
    rcases hBroken with rfl | rfl
    · rfl
    · exact aside_replacement _ _
  have hSession :=
    hTerminal.session.handleAll
      (terminal.parser.run broken).2
  have hOne :
      ((terminal.parser.run broken).1.run chars).2.length ≤
        1 :=
    Nat.le_trans (Parser.length_run_le _ chars) hLength
  show (terminal.process [byte]).session.aside = _ ∨
    (terminal.process [byte]).session.aside = none
  rw [hRead]
  dsimp only
  rw [hEvents] at hKeeps ⊢
  rw [List.foldl_append, ← hShown]
  rw [← hShown] at hAside
  generalize
    ((terminal.parser.run broken).1.run chars).2 = events
    at hKeeps hOne ⊢
  generalize
    (terminal.parser.run broken).2.foldl Session.handle
      terminal.session = shown
    at hSession hAside ⊢
  cases events with
  | nil => exact Or.inl rfl
  | cons event events =>
      rw [List.length_cons] at hOne
      have hNone : events = [] :=
        List.eq_nil_of_length_eq_zero (by omega)
      subst hNone
      exact hSession.aside_handle hAside (hKeeps event (by simp))

/-
  As long as the alternate screen is not left and the history
  is not cleared, the primary screen stays as it was put
  aside.
-/
theorem WellFormed.aside_process
    (hTerminal : terminal.WellFormed config cols rows)
    {bytes : List UInt8}
    (hStays :
      ∀ before,
        before <+: bytes →
          (terminal.process before).session.screen =
            .alternate)
    (hKeeps :
      ∀ event ∈ terminal.events bytes,
        ¬event.ClearsHistory) :
    (terminal.process bytes).session.aside =
      terminal.session.aside := by
  induction bytes generalizing terminal with
  | nil => rfl
  | cons byte bytes hRest =>
      have hSome :
          ∀ session : Session,
            session.screen = .alternate →
              session.aside ≠ none := by
        intro session hScreen
        unfold Session.aside
        rw [hScreen]
        nofun
      rw [events_cons] at hKeeps
      have hByte :
          (terminal.readByte byte).session.aside =
            terminal.session.aside := by
        have hAfter := hStays [byte] (by simp)
        refine
          (hTerminal.aside_readByte
            (hSome _ (hStays [] List.nil_prefix))
            ?_).resolve_right (hSome _ hAfter)
        exact fun event hEvent =>
          hKeeps event (List.mem_append_left _ hEvent)
      rw [← hByte]
      refine hRest (hTerminal.readByte byte) ?_ ?_
      · intro before hBefore
        exact
          hStays (byte :: before)
            (List.cons_prefix_cons.mpr ⟨rfl, hBefore⟩)
      · exact fun event hEvent =>
          hKeeps event (List.mem_append_right _ hEvent)

end

end

------------------------------------------------------------
-- Entering and Leaving
------------------------------------------------------------

/-
  The sequence that enters the alternate screen, with a cursor
  of its own, or leaves it.
-/
def alternateSequence
    (on : Bool) : List UInt8 :=
  [0x1B, 0x5B, 0x3F, 0x31, 0x30, 0x34, 0x39,
    if on then 0x68 else 0x6C]

/- What the sequence is read as. -/
def alternateEvent
    (on : Bool) : Event :=
  .sequence
    (if on then .setPrivateMode else .resetPrivateMode)
    { Parameters.empty with
      values :=
        (Vector.replicate Parameters.maxCount 0).set 0 1049
          (by decide)
      started := 1
      present := .ofNat _ 1
      marker := some '?' }

/-
  The sequence is recognised whatever has been read in part,
  of which no more shows than a replacement.
-/
theorem events_alternateSequence
    {terminal : Terminal}
    (hDecoder :
      ∀ sequence ∈ terminal.decoder.pending,
        0x80 ≤ sequence.lower)
    (on : Bool) :
    ∃ broken,
      terminal.events (alternateSequence on) =
          (terminal.parser.run broken).2 ++
            [alternateEvent on] ∧
        (broken = [] ∨
          broken = [Utf8.replacement] ∧
            terminal.decoder.isPending) := by
  rcases push_escape hDecoder with ⟨broken, hPush, hBroken⟩
  refine ⟨broken, ?_, hBroken⟩
  have hRest :
      (Utf8.Decoder.start.pushAll
          (alternateSequence on).tail).2 =
        ['[', '?', '1', '0', '4', '9',
          if on then 'h' else 'l'] := by
    cases on <;> decide
  have hChars :
      (terminal.decoder.pushAll (alternateSequence on)).2 =
        broken ++ ['\x1B'] ++
          ['[', '?', '1', '0', '4', '9',
            if on then 'h' else 'l'] := by
    show (terminal.decoder.push 0x1B).2 ++
      ((terminal.decoder.push 0x1B).1.pushAll
        (alternateSequence on).tail).2 = _
    rw [hPush, hRest]
  unfold events
  rw [hChars, List.append_assoc, Parser.run_append,
    ((terminal.parser.run broken).1).events_run]
  rcases (terminal.parser.run broken).1.reader.step_escape with
    ⟨interrupted, hEscape⟩
  rw [List.singleton_append, Reader.run_cons, hEscape]
  cases interrupted <;> cases on <;> rfl

/- The primary screen is put aside with the cursor on it. -/
theorem aside_entering
    [TextLibrary]
    {session : Session}
    (hScreen : session.screen = .primary) :
    (session.handle (alternateEvent true)).aside =
      some
        (session.primary.resetView,
          some session.snapshot) := by
  rcases session with ⟨_, _, _, screen⟩
  cases hScreen
  rfl

/- A screen has been put aside only if the other is used. -/
theorem aside_eq_some_iff
    {session : Session}
    {grid : Grid}
    {saved : Option SavedCursor} :
    session.aside = some (grid, saved) ↔
      session.screen = .alternate ∧
        session.primary = grid ∧
        session.savedPrimary = saved := by
  unfold Session.aside
  cases session.screen with
  | primary => simp
  | alternate => simp

/-
  The primary screen is back in use, with the same lines and
  history, and with the cursor, the pen, the character sets
  and origin mode as they were.
-/
structure Restores
    (session after : Session) : Prop where
  screen_eq : after.screen = .primary
  lines_eq : after.primary.lines = session.primary.lines
  history_eq :
    after.primary.scrollback = session.primary.scrollback
  col_eq : after.cursor.col = session.cursor.col
  row_eq : after.cursor.row = session.cursor.row
  pen_eq : after.cursor.pen = session.cursor.pen
  charsets_eq : after.charsets = session.charsets
  origin_eq : after.modes.origin = session.modes.origin

theorem restores_leaving
    [TextLibrary]
    {config : Config}
    {cols rows : Nat}
    {session after : Session}
    (hSession : session.WellFormed config cols rows)
    (hOrigin : session.modes.origin = false)
    (hAside :
      after.aside =
        some
          (session.primary.resetView,
            some session.snapshot)) :
    Restores session
      (after.handle (alternateEvent false)) := by
  have hView := Session.setViewOffset_eq session.primary 0
  have hCol := hSession.cursor_col
  have hRow := hSession.cursor_row
  have hCols := hSession.cols_eq
  have hRows := hSession.rows_eq
  rcases aside_eq_some_iff.mp hAside with
    ⟨hScreen, hPrimary, hSaved⟩
  have hWidth : after.cols = session.cols := by
    unfold Session.cols
    rw [hPrimary]
    exact hView.1
  have hHeight : after.rows = session.rows := by
    unfold Session.rows Grid.rows
    rw [hPrimary]
    exact congrArg List.length hView.2.1
  have hLeft :
      after.handle (alternateEvent false) =
        ({ after with
            screen := .primary
            primary := after.primary.markAllDirty
            cursor :=
              { after.cursor with pen := session.cursor.pen }
            charsets := session.charsets
            modes := { after.modes with origin := false }
          }.goto
            (min session.cursor.col (after.cols - 1))
            (max 0
              (min session.cursor.row
                (after.rows - 1)))).notify
          (.modeChanged 1049 true false) := by
    show (after.setAlternateWithCursor false).notify _ = _
    unfold Session.setAlternateWithCursor
    rw [hScreen]
    dsimp only
    unfold Session.usePrimary
    rw [hScreen]
    unfold Session.restoreCursor Session.saved
    dsimp only
    rw [hSaved, Option.getD_some]
    unfold Session.moveTo Session.snapshot
    dsimp only
    rw [hOrigin]
    rfl
  rw [hLeft]
  exact
    { screen_eq := rfl
      lines_eq := by
        show after.primary.lines = _
        rw [hPrimary]
        exact hView.2.1
      history_eq := by
        show after.primary.scrollback = _
        rw [hPrimary]
        exact hView.2.2
      col_eq := by
        show min session.cursor.col (after.cols - 1) = _
        omega
      row_eq := by
        show max 0
          (min session.cursor.row (after.rows - 1)) = _
        omega
      pen_eq := rfl
      charsets_eq := rfl
      origin_eq := hOrigin.symm }

------------------------------------------------------------
-- The Primary Screen Comes Back
------------------------------------------------------------

/-
  What an application sends on the alternate screen, whatever
  it is and wherever it ends, changes nothing that leaving it
  brings back, unless it clears the history.  A sequence that
  was being read before does not matter.
-/
theorem Reachable.restores_of_alternate
    [TextLibrary]
    {terminal : Terminal}
    (hTerminal : Reachable terminal)
    (hScreen : terminal.session.screen = .primary)
    (hOrigin : terminal.session.modes.origin = false)
    (hDecoder : terminal.decoder.isPending = false)
    {bytes : List UInt8}
    (hStays :
      ∀ before,
        before <+: bytes →
          ((terminal.process
            (alternateSequence true)).process
              before).session.screen = .alternate)
    (hKeeps :
      ∀ event ∈
        (terminal.process (alternateSequence true)).events
          bytes,
        ¬event.ClearsHistory) :
    Restores terminal.session
      (terminal.process
        (alternateSequence true ++ bytes ++
          alternateSequence false)).session := by
  rcases hTerminal.wellFormed with
    ⟨config, cols, rows, hBefore⟩
  have hEntered :
      (terminal.process
          (alternateSequence true)).session.aside =
        some
          (terminal.session.primary.resetView,
            some terminal.session.snapshot) := by
    rcases events_alternateSequence hBefore.continues true with
      ⟨broken, hEvents, hBroken⟩
    have hNone : broken = [] := by
      rcases hBroken with hNone | ⟨_, hPending⟩
      · exact hNone
      · rw [hDecoder] at hPending
        cases hPending
    rw [process_eq, hEvents, hNone]
    exact aside_entering hScreen
  have hInside :=
    (hBefore.process (alternateSequence true)).aside_process
      hStays hKeeps
  have hEnd :=
    (hBefore.process (alternateSequence true)).process bytes
  rw [hEntered] at hInside
  rw [process_append, process_append]
  generalize
    (terminal.process (alternateSequence true)).process bytes =
      inside
    at hInside hEnd ⊢
  rcases events_alternateSequence hEnd.continues false with
    ⟨broken, hEvents, hBroken⟩
  -- What is cut short shows on the alternate screen only.
  have hShown :
      ((inside.parser.run broken).2.foldl Session.handle
        inside.session).aside = inside.session.aside := by
    rcases hBroken with rfl | ⟨rfl, _⟩
    · rfl
    · exact aside_replacement _ _
  rw [process_eq, hEvents, List.foldl_append]
  exact
    restores_leaving hBefore.session hOrigin
      (hShown.trans hInside)

/-
  Text on both screens, the one on the alternate screen
  scrolling and cut short in the middle of a character.
-/
theorem restores_after_cut_character :
    Restores
      ((createRaised 4 2).process [0x61, 0x62]).session
      (((createRaised 4 2).process [0x61, 0x62]).process
        (alternateSequence true ++
            [0x0A, 0x63, 0x0A, 0xE4] ++
          alternateSequence false)).session :=
  Reachable.restores_of_alternate
    ((Reachable.createRaised 4 2).perform
      (.process [0x61, 0x62]))
    (by decide +kernel) (by decide +kernel)
    (by decide +kernel)
    (by
      intro before hBefore
      have hLength : before.length < 5 :=
        Nat.lt_succ_of_le hBefore.length_le
      rw [List.prefix_iff_eq_take.mp hBefore]
      generalize before.length = length at hLength
      revert length
      decide +kernel)
    (by decide +kernel)

end Terminal

end VideoTerminal
