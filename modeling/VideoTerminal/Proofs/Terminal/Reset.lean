import VideoTerminal.Proofs.Session.Alike
import VideoTerminal.Proofs.Terminal.Events
import VideoTerminal.Proofs.Terminal.Reachable
import VideoTerminal.Text.Linked

/-
  A terminal that reads the reset sequence goes on like a new
  one, whatever it was in the middle of: an application cannot
  tell the two apart by anything that it sends later.

  Main declarations:
    * `Terminal.Alike`
    * `Terminal.Alike.process`
    * `Terminal.Alike.performAll`
    * `Terminal.WellFormed.process_reset`
    * `Terminal.GoesOnAs`
    * `Terminal.Reachable.goesOnAs_created_of_reset`
-/

namespace VideoTerminal

------------------------------------------------------------
-- Terminals That Read the Same
------------------------------------------------------------

namespace Operation

/- What an application and its window do to a terminal. -/
def IsInput :
    Operation → Prop
  | .process _ => True
  | .resize _ _ => True
  | _ => False

end Operation

namespace Terminal

/-
  Two terminals that an application cannot tell apart and that
  have read the same in part.  Their parsers may have left
  different things behind.
-/
structure Alike
    (config config' : Config)
    (cols rows : Nat)
    (before before' : Session.Output)
    (terminal terminal' : Terminal) : Prop where
  decoder_eq : terminal.decoder = terminal'.decoder
  reader_eq :
    terminal.parser.reader = terminal'.parser.reader
  session :
    Session.Alike config config' cols rows before before'
      terminal.session terminal'.session

section

variable [TextLibrary]
variable {config config' : Config} {cols rows : Nat}
  {before before' : Session.Output}
  {terminal terminal' : Terminal}
  (hAlike :
    Alike config config' cols rows before before' terminal
      terminal')

include hAlike

theorem Alike.readChar
    (c : Char) :
    Alike config config' cols rows before before'
      (terminal.readChar c) (terminal'.readChar c) := by
  rcases Parser.step_of_reader_eq hAlike.reader_eq c with
    ⟨hReader, hEvent⟩
  unfold Terminal.readChar
  refine ⟨hAlike.decoder_eq, hReader, ?_⟩
  dsimp only
  rw [← hEvent]
  cases (terminal.parser.step c).2 with
  | none => exact hAlike.session
  | some event => exact hAlike.session.handle event

theorem Alike.readChars
    (chars : List Char) :
    Alike config config' cols rows before before'
      (chars.foldl Terminal.readChar terminal)
      (chars.foldl Terminal.readChar terminal') := by
  induction chars generalizing terminal terminal' with
  | nil => exact hAlike
  | cons c chars hRest => exact hRest (hAlike.readChar c)

theorem Alike.readByte
    (byte : UInt8) :
    Alike config config' cols rows before before'
      (terminal.readByte byte)
      (terminal'.readByte byte) := by
  unfold Terminal.readByte
  rw [← hAlike.decoder_eq]
  apply Alike.readChars
  exact ⟨rfl, hAlike.reader_eq, hAlike.session⟩

theorem Alike.process
    (bytes : List UInt8) :
    Alike config config' cols rows before before'
      (terminal.process bytes)
      (terminal'.process bytes) := by
  unfold Terminal.process
  induction bytes generalizing terminal terminal' with
  | nil => exact hAlike
  | cons byte bytes hRest => exact hRest (hAlike.readByte byte)

/- A change of size is accepted by both or by none. -/
theorem Alike.perform
    {operation : Operation}
    (hInput : operation.IsInput) :
    Alike config config' (colsAfter cols operation)
      (rowsAfter rows operation) before before'
      (terminal.perform operation).1
      (terminal'.perform operation).1 := by
  unfold Terminal.perform
  cases operation with
  | process bytes => exact hAlike.process bytes
  | resize cols' rows' =>
      have hLeft := hAlike.session.left
      unfold colsAfter rowsAfter Session.resize
      dsimp only
      rw [← hAlike.session.cols_eq, ← hAlike.session.rows_eq]
      by_cases hNone : cols' = 0 ∨ rows' = 0
      · simp only [if_pos hNone]
        exact hAlike
      · simp only [if_neg hNone]
        by_cases hSame :
            cols' = terminal.session.cols ∧
              rows' = terminal.session.rows
        · simp only [if_pos hSame]
          rw [hSame.1, hSame.2, hLeft.cols_eq, hLeft.rows_eq]
          exact
            ⟨hAlike.decoder_eq, hAlike.reader_eq,
              hAlike.session⟩
        · simp only [if_neg hSame]
          exact
            ⟨hAlike.decoder_eq, hAlike.reader_eq,
              hAlike.session.resizeTo (by omega) (by omega)⟩
  | _ => cases hInput

theorem Alike.performAll
    {operations : List Operation}
    (hInput :
      ∀ operation ∈ operations, operation.IsInput) :
    ∃ cols' rows',
      Alike config config' cols' rows' before before'
        (terminal.performAll operations)
        (terminal'.performAll operations) := by
  unfold Terminal.performAll
  induction operations generalizing cols rows terminal
    terminal' with
  | nil => exact ⟨cols, rows, hAlike⟩
  | cons operation operations hRest =>
      exact
        hRest
          (hAlike.perform (hInput _ List.mem_cons_self))
          fun other hMem =>
            hInput other (List.mem_cons_of_mem _ hMem)

end

------------------------------------------------------------
-- The Reset Sequence
------------------------------------------------------------

/- An escape character ends whatever has been begun to read. -/
theorem push_escape
    {decoder : Utf8.Decoder}
    (hDecoder :
      ∀ sequence ∈ decoder.pending, 0x80 ≤ sequence.lower) :
    ∃ chars,
      decoder.push 0x1B = (.start, chars ++ ['\x1B']) ∧
        (chars = [] ∨
          chars = [Utf8.replacement] ∧
            decoder.isPending) := by
  have hLead : Utf8.lead 0x1B = (.start, ['\x1B']) := by
    decide
  unfold Utf8.Decoder.push
  split
  · exact ⟨[], hLead, Or.inl rfl⟩
  · rename_i sequence hPending
    have hLower := hDecoder sequence hPending
    have hOutside :
        (0x1B : UInt8).toNat < sequence.lower :=
      Nat.lt_of_lt_of_le (by decide) hLower
    dsimp only
    rw [if_pos (Or.inl hOutside), hLead]
    refine ⟨[Utf8.replacement], rfl, Or.inr ⟨rfl, ?_⟩⟩
    unfold Utf8.Decoder.isPending
    rw [hPending]
    rfl

/- What has been interrupted does not matter any more. -/
theorem run_reset
    (reader : Reader) :
    reader.run ['\x1B', 'c'] =
      ({ reader with state := .ground },
        [.escape none 'c']) := by
  rcases reader.step_escape with ⟨interrupted, hEscape⟩
  rw [Reader.run_cons, hEscape]
  cases interrupted with
  | none => rfl
  | some interrupted => rfl

/-
  Reading the reset sequence leaves a session that has been
  reset, and nothing that has been read in part.  The parser
  itself is not reset by that: it may hold whatever it has
  read before.
-/
theorem WellFormed.process_reset
    [TextLibrary]
    {config : Config}
    {cols rows : Nat}
    {terminal : Terminal}
    (hTerminal : terminal.WellFormed config cols rows) :
    ∃ session : Session,
      session.WellFormed config cols rows ∧
        (terminal.process [0x1B, 0x63]).decoder = .start ∧
        (terminal.process [0x1B, 0x63]).parser.reader =
          (Parser.start config.maxStringBytes).reader ∧
        (terminal.process [0x1B, 0x63]).session =
          session.reset := by
  rcases push_escape hTerminal.continues with
    ⟨broken, hPush, _⟩
  have hLead :
      Utf8.Decoder.push .start 0x63 = (.start, ['c']) := by
    decide
  have hPushed :
      terminal.decoder.pushAll [0x1B, 0x63] =
        (.start, broken ++ ['\x1B', 'c']) := by
    rw [Utf8.Decoder.pushAll_cons, hPush,
      Utf8.Decoder.pushAll_singleton, hLead]
    simp
  have hRun :
      ((terminal.parser.run
          (broken ++ ['\x1B', 'c'])).1.reader,
        (terminal.parser.run (broken ++ ['\x1B', 'c'])).2) =
      (⟨.ground, config.maxStringBytes⟩,
        (terminal.parser.run broken).2 ++
          [.escape none 'c']) := by
    have hBytes :=
      (terminal.parser.maxStringBytes_run broken).trans
        hTerminal.maxStringBytes_eq
    rw [← Parser.reader_run, Reader.run_append, run_reset,
      Parser.reader_run, ← hBytes]
    rfl
  rcases Prod.mk.inj hRun with ⟨hReader, hEvents⟩
  refine
    ⟨(terminal.parser.run broken).2.foldl Session.handle
        terminal.session,
      hTerminal.session.handleAll _, ?_⟩
  rw [process_eq]
  unfold events
  rw [hPushed, hEvents, List.foldl_append]
  exact ⟨rfl, hReader, rfl⟩

/- A screen that has been cleared shows what a new one does. -/
theorem bare_clear
    {cols rows capacity : Nat}
    {grid : Grid}
    (hGrid : grid.WellFormed cols rows capacity)
    (capacity' : Nat)
    (blank : Cell) :
    (grid.clear blank).bare =
      (Grid.ofBlank cols rows capacity' blank).bare := by
  apply Grid.bare_eq_iff.mpr
  refine ⟨hGrid.cols_eq, ?_⟩
  have hLines := Grid.map_fill_eq_replicate hGrid.lines blank
  have hRows : grid.lines.length = rows := hGrid.rows_eq
  rw [hRows] at hLines
  exact hLines

/-
  A reset session goes on like a new one, and has yet to send
  anything.
-/
theorem alike_reset_start
    {config : Config}
    {cols rows : Nat}
    {session : Session}
    (hSession : session.WellFormed config cols rows) :
    Session.Alike config config cols rows
      session.reset.output ⟨[], .empty⟩ session.reset
      (.start cols rows config) where
  left := hSession.reset
  right :=
    Session.wellFormed_start hSession.cols_pos
      hSession.rows_pos config
  core_eq := by
    have hPrimary :=
      (Grid.bare_setViewOffset
          (session.primary.clear config.blank) 0).trans
        (bare_clear hSession.primary config.scrollbackLines
          config.blank)
    have hAlternate :=
      bare_clear hSession.alternate 0 config.blank
    unfold Session.reset
    rw [hSession.cols_eq, hSession.rows_eq,
      hSession.config_eq]
    exact
      (congrArg
        (fun grid =>
          { (Session.start cols rows config).core with
            primary := grid
            alternate :=
              (session.alternate.clear config.blank).bare })
        hPrimary).trans
        (congrArg
          (fun grid =>
            { (Session.start cols rows config).core with
              alternate := grid })
          hAlternate)
  output := by
    refine ⟨[], [], ?_, rfl⟩
    unfold Session.Output.extend
    rw [List.append_nil]
    rfl

------------------------------------------------------------
-- Reset Equals Fresh
------------------------------------------------------------

/-
  One terminal shows what another one does, which has been
  built anew, and since it had sent `before` it has sent what
  that one has sent in all.
-/
structure GoesOnAs
    (before : Session.Output)
    (terminal fresh : Terminal) : Prop where
  cols_eq : terminal.session.cols = fresh.session.cols
  lines_eq :
    ∀ screen,
      (terminal.session.grid screen).lines =
        (fresh.session.grid screen).lines
  screen_eq : terminal.session.screen = fresh.session.screen
  cursor_eq : terminal.session.cursor = fresh.session.cursor
  saved_eq :
    terminal.session.savedPrimary =
        fresh.session.savedPrimary ∧
      terminal.session.savedAlternate =
        fresh.session.savedAlternate
  charsets_eq :
    terminal.session.charsets = fresh.session.charsets
  modes_eq : terminal.session.modes = fresh.session.modes
  region_eq :
    terminal.session.regionTop = fresh.session.regionTop ∧
      terminal.session.regionBottom =
        fresh.session.regionBottom
  tabStops_eq :
    terminal.session.tabStops = fresh.session.tabStops
  mouse_eq :
    terminal.session.mouseMode = fresh.session.mouseMode ∧
      terminal.session.mouseEncoding =
        fresh.session.mouseEncoding
  notices_eq :
    terminal.session.notices =
      before.notices ++ fresh.session.notices
  writes_eq :
    ∃ writes : List (List UInt8),
      terminal.session.outbox =
          writes.foldl Outbox.write before.outbox ∧
        fresh.session.outbox =
          writes.foldl Outbox.write .empty

theorem Alike.goesOnAs
    {config config' : Config}
    {cols rows : Nat}
    {before : Session.Output}
    {terminal fresh : Terminal}
    (hAlike :
      Alike config config' cols rows before ⟨[], .empty⟩
        terminal fresh) :
    GoesOnAs before terminal fresh := by
  have hSession := hAlike.session
  have hPrimary := hSession.read Session.primary
  have hAlternate := hSession.read Session.alternate
  rcases hSession.output with
    ⟨notices, writes, hOutput, hFresh⟩
  have hNotices := congrArg Session.Output.notices hOutput
  have hFreshNotices :=
    congrArg Session.Output.notices hFresh
  exact
    { cols_eq := hSession.cols_eq
      lines_eq := by
        intro screen
        cases screen with
        | primary => exact (Grid.bare_eq_iff.mp hPrimary).2
        | alternate =>
            exact (Grid.bare_eq_iff.mp hAlternate).2
      screen_eq := hSession.screen_eq
      cursor_eq := hSession.cursor_eq
      saved_eq :=
        ⟨hSession.read Session.savedPrimary,
          hSession.read Session.savedAlternate⟩
      charsets_eq := hSession.read Session.charsets
      modes_eq := hSession.modes_eq
      region_eq :=
        ⟨hSession.regionTop_eq, hSession.regionBottom_eq⟩
      tabStops_eq := hSession.read Session.tabStops
      mouse_eq :=
        ⟨hSession.read Session.mouseMode,
          hSession.read Session.mouseEncoding⟩
      notices_eq := by
        have hAll : fresh.session.notices = notices :=
          hFreshNotices
        rw [hAll]
        exact hNotices
      writes_eq :=
        ⟨writes, congrArg Session.Output.outbox hOutput,
          congrArg Session.Output.outbox hFresh⟩ }

/- How input is cut into chunks does not matter. -/
theorem process_chunks
    [TextLibrary]
    (terminal : Terminal)
    (chunks : List (List UInt8)) :
    terminal.performAll (chunks.map .process) =
      terminal.process chunks.flatten := by
  unfold Terminal.performAll Terminal.process
  induction chunks generalizing terminal with
  | nil => rfl
  | cons chunk chunks hRest =>
      rw [List.flatten_cons, List.foldl_append]
      exact hRest _

theorem process_append
    [TextLibrary]
    (terminal : Terminal)
    (bytes rest : List UInt8) :
    terminal.process (bytes ++ rest) =
      (terminal.process bytes).process rest :=
  List.foldl_append

theorem WellFormed.create
    {config : Config}
    {cols rows : Nat}
    {terminal : Terminal}
    (hTerminal : terminal.WellFormed config cols rows) :
    Terminal.create cols rows config =
      .ok (start cols rows config) := by
  have hCols := hTerminal.session.cols_pos
  have hRows := hTerminal.session.rows_pos
  unfold Terminal.create
  rw [if_neg (by omega), hTerminal.validated]

/-
  A terminal that reads the reset sequence, however it comes
  in chunks and whatever comes before it and after it, goes on
  as one that is built anew with its settings and its size.
-/
theorem Reachable.goesOnAs_created_of_reset
    [TextLibrary]
    {terminal : Terminal}
    (hTerminal : Reachable terminal)
    {chunks : List (List UInt8)}
    {bytes rest : List UInt8}
    (hChunks :
      chunks.flatten = bytes ++ [0x1B, 0x63] ++ rest)
    {later : List Operation}
    (hLater : ∀ operation ∈ later, operation.IsInput) :
    ∃ fresh,
      Terminal.create terminal.session.cols
          terminal.session.rows terminal.session.config =
          .ok fresh ∧
        GoesOnAs
          (terminal.process
            (bytes ++ [0x1B, 0x63])).session.output
          ((terminal.performAll
            (chunks.map .process)).performAll later)
          ((fresh.process rest).performAll later) := by
  rcases hTerminal.wellFormed with
    ⟨config, cols, rows, hWellFormed⟩
  have hRead := hWellFormed.process bytes
  rcases hRead.process_reset with
    ⟨session, hSession, hDecoder, hReader, hReset⟩
  have hAlike :
      Alike config config cols rows session.reset.output
        ⟨[], .empty⟩
        ((terminal.process bytes).process [0x1B, 0x63])
        (start cols rows config) := by
    refine ⟨hDecoder, hReader, ?_⟩
    rw [hReset]
    exact alike_reset_start hSession
  rcases (hAlike.process rest).performAll hLater with
    ⟨cols', rows', hLast⟩
  refine ⟨start cols rows config, ?_, ?_⟩
  · rw [hWellFormed.session.cols_eq,
      hWellFormed.session.rows_eq,
      hWellFormed.session.config_eq]
    exact hWellFormed.create
  · rw [process_chunks, hChunks,
      process_append terminal (bytes ++ [0x1B, 0x63]) rest,
      process_append terminal bytes, hReset]
    exact hLast.goesOnAs

/-
  For one, when the sequence comes in two chunks, after a
  control sequence, a string and a character that are cut
  short.
-/
theorem goesOnAs_created_of_split_reset :
    ∃ fresh,
      Terminal.create
          (createRaised 4 2).session.cols
          (createRaised 4 2).session.rows
          (createRaised 4 2).session.config = .ok fresh ∧
        GoesOnAs
          ((createRaised 4 2).process
            ([0x1B, 0x5B, 0x35, 0xC2, 0x9D, 0x61, 0xE4] ++
              [0x1B, 0x63])).session.output
          (((createRaised 4 2).performAll
            ([[0x1B, 0x5B, 0x35, 0xC2, 0x9D, 0x61, 0xE4,
                0x1B], [0x63, 0x42]].map .process)).performAll
                [.resize 5 3, .process [0x43]])
          ((fresh.process [0x42]).performAll
            [.resize 5 3, .process [0x43]]) :=
  Reachable.goesOnAs_created_of_reset
    (Reachable.createRaised 4 2) rfl
    (by
      intro operation hMem
      rcases List.mem_cons.mp hMem with hFirst | hRest
      · rw [hFirst]
        trivial
      · rw [List.mem_singleton.mp hRest]
        trivial)

end Terminal

end VideoTerminal
