import VideoTerminal.Proofs.Control.Reader
import VideoTerminal.Proofs.Session.WellFormed
import VideoTerminal.Proofs.Text.Resynchronization
import VideoTerminal.Terminal.Basic
import VideoTerminal.Text.Linked

/-
  The terminals that can come about by operating one, and the
  invariant that all of them have.

  Main declarations:
    * `Terminal.Reachable`
    * `Terminal.WellFormed`
    * `Terminal.WellFormed.perform`
    * `Terminal.Reachable.wellFormed`
    * `Terminal.Intact`
    * `Terminal.Reachable.intact`
-/

namespace VideoTerminal

namespace Terminal

------------------------------------------------------------
-- Reachable Terminals
------------------------------------------------------------

/-
  A terminal that is built, and then operated in any way, any
  number of times.
-/
inductive Reachable
    [TextLibrary] :
    Terminal → Prop where
  | create
      {cols rows : Nat}
      {config : Config}
      {terminal : Terminal}
      (hCreated :
        Terminal.create cols rows config = .ok terminal) :
      Reachable terminal
  | createRaised
      (cols rows : Nat) :
      Reachable (Terminal.createRaised cols rows)
  | perform
      {terminal : Terminal}
      (hTerminal : Reachable terminal)
      (operation : Operation) :
      Reachable (terminal.perform operation).1

theorem Reachable.performAll
    [TextLibrary]
    {terminal : Terminal}
    (hTerminal : Reachable terminal)
    (operations : List Operation) :
    Reachable (terminal.performAll operations) := by
  unfold Terminal.performAll
  induction operations generalizing terminal with
  | nil => exact hTerminal
  | cons operation operations hRest =>
      exact hRest (hTerminal.perform operation)

------------------------------------------------------------
-- Well-Formed Terminals
------------------------------------------------------------

/-
  A terminal with given settings and of a given size.  A byte
  of ASCII breaks off whatever the decoder has begun to read.
-/
structure WellFormed
    (config : Config)
    (cols rows : Nat)
    (terminal : Terminal) : Prop where
  validated : config.validate = .ok ()
  session : terminal.session.WellFormed config cols rows
  maxStringBytes_eq :
    terminal.parser.maxStringBytes = config.maxStringBytes
  continues :
    ∀ sequence ∈ terminal.decoder.pending,
      0x80 ≤ sequence.lower

theorem wellFormed_start
    {cols rows : Nat}
    (hCols : 0 < cols)
    (hRows : 0 < rows)
    {config : Config}
    (hConfig : config.validate = .ok ()) :
    (start cols rows config).WellFormed config cols rows where
  validated := hConfig
  session := Session.wellFormed_start hCols hRows config
  maxStringBytes_eq := rfl
  continues := by
    intro sequence hPending
    cases hPending

/- What is created is at its start. -/
theorem eq_start_of_created
    {config : Config}
    {cols rows : Nat}
    {terminal : Terminal}
    (hCreated : create cols rows config = .ok terminal) :
    0 < cols ∧ 0 < rows ∧
      terminal = start cols rows config := by
  unfold create at hCreated
  split at hCreated
  · cases hCreated
  · rename_i hSize
    split at hCreated
    · cases hCreated
    · cases hCreated
      exact ⟨by omega, by omega, rfl⟩

section

variable {config : Config} {cols rows : Nat}
  {terminal : Terminal}

theorem WellFormed.modify
    (hTerminal : terminal.WellFormed config cols rows)
    {session : Session}
    {cols' rows' : Nat}
    (hSession : session.WellFormed config cols' rows') :
    WellFormed config cols' rows'
      { terminal with session := session } where
  validated := hTerminal.validated
  session := hSession
  maxStringBytes_eq := hTerminal.maxStringBytes_eq
  continues := hTerminal.continues

------------------------------------------------------------
-- Input
------------------------------------------------------------

theorem WellFormed.readChar
    [TextLibrary]
    (hTerminal : terminal.WellFormed config cols rows)
    (c : Char) :
    (terminal.readChar c).WellFormed config cols rows where
  validated := hTerminal.validated
  session := by
    unfold Terminal.readChar
    dsimp only
    cases (terminal.parser.step c).2 with
    | none => exact hTerminal.session
    | some event => exact hTerminal.session.handle event
  maxStringBytes_eq :=
    (terminal.parser.maxStringBytes_step c).trans
      hTerminal.maxStringBytes_eq
  continues := hTerminal.continues

theorem WellFormed.readChars
    [TextLibrary]
    (hTerminal : terminal.WellFormed config cols rows)
    (chars : List Char) :
    (chars.foldl Terminal.readChar terminal).WellFormed
      config cols rows := by
  induction chars generalizing terminal with
  | nil => exact hTerminal
  | cons c chars hRest => exact hRest (hTerminal.readChar c)

/- What may continue a sequence that has been begun. -/
theorem le_lower_push
    (decoder : Utf8.Decoder)
    (byte : UInt8) :
    ∀ sequence ∈ (decoder.push byte).1.pending,
      0x80 ≤ sequence.lower := by
  intro sequence hPending
  exact
    (Utf8.awaitsContinuation_push decoder byte sequence
      hPending).1

section

variable [TextLibrary]

theorem WellFormed.readByte
    (hTerminal : terminal.WellFormed config cols rows)
    (byte : UInt8) :
    (terminal.readByte byte).WellFormed config cols rows := by
  apply WellFormed.readChars
  exact
    { validated := hTerminal.validated
      session := hTerminal.session
      maxStringBytes_eq := hTerminal.maxStringBytes_eq
      continues := le_lower_push terminal.decoder byte }

theorem WellFormed.process
    (hTerminal : terminal.WellFormed config cols rows)
    (bytes : List UInt8) :
    (terminal.process bytes).WellFormed config cols rows := by
  unfold Terminal.process
  induction bytes generalizing terminal with
  | nil => exact hTerminal
  | cons byte bytes hRest =>
      exact hRest (hTerminal.readByte byte)

------------------------------------------------------------
-- Operations
------------------------------------------------------------

/- The width that an operation leaves a terminal with. -/
def colsAfter
    (cols : Nat) :
    Operation → Nat
  | .resize cols' rows' =>
    if cols' = 0 ∨ rows' = 0 then cols else cols'
  | _ => cols

/- The height that an operation leaves a terminal with. -/
def rowsAfter
    (rows : Nat) :
    Operation → Nat
  | .resize cols' rows' =>
    if cols' = 0 ∨ rows' = 0 then rows else rows'
  | _ => rows

/-
  Every operation keeps a terminal well-formed, and none but
  an accepted change of size gives it another size.
-/
theorem WellFormed.perform
    (hTerminal : terminal.WellFormed config cols rows)
    (operation : Operation) :
    (terminal.perform operation).1.WellFormed config
      (colsAfter cols operation) (rowsAfter rows operation) := by
  have hSession := hTerminal.session
  unfold Terminal.perform
  cases operation with
  | process bytes => exact hTerminal.process bytes
  | resize cols' rows' =>
      unfold colsAfter rowsAfter Session.resize
      dsimp only
      by_cases hNone : cols' = 0 ∨ rows' = 0
      · simp only [if_pos hNone]
        exact hTerminal
      · simp only [if_neg hNone]
        split
        · rename_i hSame
          split at hSame <;> cases hSame
        · rename_i resized hResized
          apply hTerminal.modify
          split at hResized
          · rename_i hSame
            cases hResized
            rw [hSession.cols_eq, hSession.rows_eq] at hSame
            rw [hSame.1, hSame.2]
            exact hSession
          · cases hResized
            exact
              hSession.resizeTo (by omega) (by omega)
  | reset =>
      exact
        { validated := hTerminal.validated
          session := hSession.reset
          maxStringBytes_eq := hTerminal.maxStringBytes_eq
          continues := by
            intro sequence hPending
            cases hPending }
  | beginSelection x y snap mode =>
      exact hTerminal.modify { hSession with }
  | clickSelection x y mode time =>
      exact hTerminal.modify { hSession with }
  | extendSelection x y =>
      exact hTerminal.modify { hSession with }
  | finishSelection =>
      exact hTerminal.modify { hSession with }
  | clearSelection =>
      exact hTerminal.modify { hSession with }
  | paste text => exact hTerminal.modify (hSession.paste text)
  | reportFocus focused =>
      exact hTerminal.modify (hSession.reportFocus focused)
  | reportMouse event =>
      exact hTerminal.modify (hSession.reportMouse event)
  | viewUp n =>
      exact
        hTerminal.modify
          (hSession.modifyActive fun _ hActive =>
            hActive.setViewOffset _)
  | viewDown n =>
      exact
        hTerminal.modify
          (hSession.modifyActive fun _ hActive =>
            hActive.setViewOffset _)
  | viewReset =>
      exact
        hTerminal.modify
          (hSession.modifyActive fun _ hActive =>
            hActive.setViewOffset _)
  | markClean => exact hTerminal.modify hSession.markClean
  | markAllDirty =>
      exact
        hTerminal.modify
          (hSession.modifyActive fun _ hActive =>
            hActive.markAllDirty)
  | markRowDirty row =>
      exact
        hTerminal.modify
          (hSession.modifyActive fun _ hActive =>
            hActive.markDirty row)
  | scrollLines origin count direction retain =>
      exact
        hTerminal.modify
          (hSession.scrollLines origin count direction retain)
  | clearRegion x₁ y₁ x₂ y₂ =>
      exact
        hTerminal.modify (hSession.clearRegion x₁ y₁ x₂ y₂)
  | clearScrollback =>
      exact hTerminal.modify hSession.clearScrollback
  | setScrollRegion top bottom =>
      exact
        hTerminal.modify (hSession.setScrollRegion top bottom)
  | useAlternate =>
      exact hTerminal.modify hSession.useAlternate
  | usePrimary => exact hTerminal.modify hSession.usePrimary
  | saveCursor => exact hTerminal.modify hSession.saveCursor
  | restoreCursor =>
      exact hTerminal.modify hSession.restoreCursor
  | installSink => exact hTerminal.modify { hSession with }
  | removeSink => exact hTerminal.modify { hSession with }
  | takeNotices => exact hTerminal.modify { hSession with }
  | takeResponses => exact hTerminal.modify { hSession with }
  | takeDeliveries => exact hTerminal.modify { hSession with }

end

end

/- The default settings are accepted. -/
theorem validate_default :
    Config.default.validate = .ok () := by
  rfl

/- Every terminal that comes about is well-formed. -/
theorem Reachable.wellFormed
    [TextLibrary]
    {terminal : Terminal}
    (hTerminal : Reachable terminal) :
    ∃ config cols rows,
      terminal.WellFormed config cols rows := by
  induction hTerminal with
  | @create cols rows config terminal hCreated =>
      unfold Terminal.create at hCreated
      split at hCreated
      · cases hCreated
      · rename_i hSize
        split at hCreated
        · cases hCreated
        · rename_i hConfig
          cases hCreated
          exact
            ⟨config, cols, rows,
              wellFormed_start (by omega) (by omega) hConfig⟩
  | createRaised cols rows =>
      exact
        ⟨_, _, _,
          wellFormed_start (by omega) (by omega)
            validate_default⟩
  | perform hTerminal operation hBefore =>
      rcases hBefore with ⟨config, cols, rows, hBefore⟩
      exact ⟨_, _, _, hBefore.perform operation⟩

------------------------------------------------------------
-- What Holds of Every Terminal
------------------------------------------------------------

/-
  The invariant in terms of the terminal itself.  Lines are of
  the width of the screen, with every wide character whole and
  the soft-wrap mark nowhere but on the last cell.
-/
structure Intact
    (terminal : Terminal) : Prop where
  cols_pos : 0 < terminal.session.cols
  rows_pos : 0 < terminal.session.rows
  same_size :
    terminal.session.alternate.cols = terminal.session.cols ∧
      terminal.session.alternate.rows = terminal.session.rows
  lines :
    ∀ screen,
      ∀ line ∈ (terminal.session.grid screen).lines,
        line.WellFormed terminal.session.cols
  history :
    ∀ line ∈ terminal.session.primary.scrollback.toList,
      line.WellFormed terminal.session.cols
  cursor_on_screen :
    terminal.session.cursor.col < terminal.session.cols ∧
      terminal.session.cursor.row < terminal.session.rows
  savedPrimary_on_screen :
    ∀ saved ∈ terminal.session.savedPrimary,
      saved.col < terminal.session.cols ∧
        saved.row < terminal.session.rows
  savedAlternate_on_screen :
    ∀ saved ∈ terminal.session.savedAlternate,
      saved.col < terminal.session.cols ∧
        saved.row < terminal.session.rows
  region :
    terminal.session.regionTop ≤
        terminal.session.regionBottom ∧
      terminal.session.regionBottom < terminal.session.rows
  tabStops_length :
    terminal.session.tabStops.length = terminal.session.cols
  dirty_length :
    ∀ screen,
      (terminal.session.grid screen).dirty.length =
        terminal.session.rows
  history_length :
    terminal.session.primary.scrollback.toList.length =
        terminal.session.primary.scrollback.size ∧
      terminal.session.primary.scrollback.size ≤
        terminal.session.primary.scrollback.capacity
  alternate_history :
    terminal.session.alternate.scrollback.toList = []
  view_le :
    ∀ screen,
      (terminal.session.grid screen).viewOffset ≤
        (terminal.session.grid screen).scrollback.size
  pen_isPlain :
    ∀ char,
      (terminal.session.cursor.pen.cell char).IsPlain

theorem intact_of_wellFormed
    {config : Config}
    {cols rows : Nat}
    {terminal : Terminal}
    (hTerminal : terminal.WellFormed config cols rows) :
    terminal.Intact := by
  have hSession := hTerminal.session
  have hPrimary := hSession.primary
  have hAlternate := hSession.alternate
  have hCols := hSession.cols_eq
  have hRows := hSession.rows_eq
  exact
    { cols_pos := hCols.symm ▸ hSession.cols_pos
      rows_pos := hRows.symm ▸ hSession.rows_pos
      same_size :=
        ⟨hAlternate.cols_eq.trans hCols.symm,
          hAlternate.rows_eq.trans hRows.symm⟩
      lines := by
        intro screen
        rw [hCols]
        cases screen with
        | primary => exact hPrimary.lines
        | alternate => exact hAlternate.lines
      history := by
        intro line hLine
        rw [Scrollback.toList_eq_reverse_retained] at hLine
        rw [hCols]
        exact
          hPrimary.history.of_mem_retained
            (List.mem_reverse.mp hLine)
      cursor_on_screen := by
        rw [hCols, hRows]
        exact ⟨hSession.cursor_col, hSession.cursor_row⟩
      savedPrimary_on_screen := by
        rw [hCols, hRows]
        exact hSession.savedPrimary
      savedAlternate_on_screen := by
        rw [hCols, hRows]
        exact hSession.savedAlternate
      region := by
        rw [hRows]
        exact ⟨hSession.region_le, hSession.region_lt⟩
      tabStops_length :=
        hSession.tabStops_length.trans hCols.symm
      dirty_length := by
        intro screen
        rw [hRows]
        cases screen with
        | primary => exact hPrimary.dirty_length
        | alternate => exact hAlternate.dirty_length
      history_length := by
        refine ⟨?_, hPrimary.history.size_le_capacity⟩
        rw [Scrollback.toList_eq_reverse_retained,
          List.length_reverse,
          hPrimary.history.length_retained]
      alternate_history := by
        rw [Scrollback.toList_eq_reverse_retained,
          List.reverse_eq_nil_iff]
        apply List.eq_nil_of_length_eq_zero
        rw [hAlternate.history.length_retained]
        exact hAlternate.size_eq_zero
      view_le := by
        intro screen
        cases screen with
        | primary => exact hPrimary.view_le
        | alternate => exact hAlternate.view_le
      pen_isPlain := fun char => Pen.isPlain_cell _ char }

/- The invariant holds of every terminal that comes about. -/
theorem Reachable.intact
    [TextLibrary]
    {terminal : Terminal}
    (hTerminal : Reachable terminal) :
    terminal.Intact := by
  rcases hTerminal.wellFormed with
    ⟨config, cols, rows, hWellFormed⟩
  exact intact_of_wellFormed hWellFormed

/- For one, after a wide character in the last two columns. -/
theorem intact_after_wide_character :
    ((createRaised 3 2).performAll
      [.process [0x61, 0xE4, 0xB8, 0x96],
        .resize 2 1]).Intact :=
  Reachable.intact
    ((Reachable.createRaised 3 2).performAll _)

end Terminal

end VideoTerminal
