import VideoTerminal.Proofs.Session.Tracks
import VideoTerminal.Proofs.Terminal.Events
import VideoTerminal.Proofs.Terminal.Reset
import VideoTerminal.Text.Linked

/-
  What a terminal shows and sends does not depend on what its
  user sees and selects, nor on how much history it keeps.

  Main declarations:
    * `Operation.Thinned`
    * `Terminal.replies`
    * `Terminal.Tracks`
    * `Terminal.Tracks.performAll`
    * `Terminal.SameEmulation`
    * `Terminal.sameEmulation_of_scrollbackLines_le`
    * `Terminal.Reachable.sameEmulation_of_thinned`
-/

namespace VideoTerminal

------------------------------------------------------------
-- Kinds of Operations
------------------------------------------------------------

namespace Operation

/- What the user sees and selects is changed at most. -/
def isViewing :
    Operation → Bool
  | .beginSelection _ _ _ _ => true
  | .clickSelection _ _ _ _ => true
  | .extendSelection _ _ => true
  | .finishSelection => true
  | .clearSelection => true
  | .viewUp _ => true
  | .viewDown _ => true
  | .viewReset => true
  | .markClean => true
  | .markAllDirty => true
  | .markRowDirty _ => true
  | _ => false

/- Lines are asked back from the history. -/
def asksBack :
    Operation → Bool
  | .scrollLines _ _ .down true => true
  | _ => false

/- One run comes from another by deleting viewing operations. -/
inductive Thinned :
    List Operation → List Operation → Prop where
  | nil : Thinned [] []
  | keep (operation : Operation)
      {operations rest : List Operation}
      (hRest : Thinned operations rest) :
      Thinned (operation :: operations) (operation :: rest)
  | delete {operation : Operation}
      (hViewing : operation.isViewing)
      {operations rest : List Operation}
      (hRest : Thinned operations rest) :
      Thinned (operation :: operations) rest

theorem Thinned.refl
    (operations : List Operation) :
    Thinned operations operations := by
  induction operations with
  | nil => exact .nil
  | cons operation operations hRest =>
      exact .keep operation hRest

end Operation

namespace Terminal

section

variable [TextLibrary]

/- What a run answers, apart from its viewing operations. -/
def replies
    (terminal : Terminal) :
    List Operation → List Reply
  | [] => []
  | operation :: operations =>
    let (next, reply) := terminal.perform operation
    if operation.isViewing then
      next.replies operations
    else
      reply :: next.replies operations

theorem replies_of_isViewing
    {operation : Operation}
    (hViewing : operation.isViewing)
    (terminal : Terminal)
    (operations : List Operation) :
    terminal.replies (operation :: operations) =
      (terminal.perform operation).1.replies operations :=
  if_pos hViewing

theorem replies_of_not_isViewing
    {operation : Operation}
    (hEmulates : operation.isViewing = false)
    (terminal : Terminal)
    (operations : List Operation) :
    terminal.replies (operation :: operations) =
      (terminal.perform operation).2 ::
        (terminal.perform operation).1.replies operations :=
  if_neg (by rw [hEmulates]; exact Bool.false_ne_true)

/-
  Viewing operations read nothing, and leave the session as it
  is for all but the user.
-/
theorem perform_of_isViewing
    {config : Config}
    {cols rows : Nat}
    {terminal : Terminal}
    (hSession :
      terminal.session.WellFormed config cols rows)
    {operation : Operation}
    (hViewing : operation.isViewing) :
    ∃ next,
      (terminal.perform operation).1 =
          { terminal with session := next } ∧
        Session.Unnoticed config cols rows terminal.session
          next := by
  unfold Terminal.perform
  cases operation with
  | beginSelection x y snap mode =>
      exact ⟨_, rfl, { hSession with }, rfl, rfl, rfl⟩
  | clickSelection x y mode time =>
      exact ⟨_, rfl, { hSession with }, rfl, rfl, rfl⟩
  | extendSelection x y =>
      exact ⟨_, rfl, { hSession with }, rfl, rfl, rfl⟩
  | finishSelection =>
      exact ⟨_, rfl, { hSession with }, rfl, rfl, rfl⟩
  | clearSelection =>
      exact ⟨_, rfl, { hSession with }, rfl, rfl, rfl⟩
  | viewUp n =>
      exact
        ⟨_, rfl,
          hSession.unnoticed_modifyActive
            (fun _ hActive => hActive.setViewOffset _)
            (Grid.bare_setViewOffset _ _)
            (Session.setViewOffset_eq _ _).2.2⟩
  | viewDown n =>
      exact
        ⟨_, rfl,
          hSession.unnoticed_modifyActive
            (fun _ hActive => hActive.setViewOffset _)
            (Grid.bare_setViewOffset _ _)
            (Session.setViewOffset_eq _ _).2.2⟩
  | viewReset =>
      exact
        ⟨_, rfl,
          hSession.unnoticed_modifyActive
            (fun _ hActive => hActive.setViewOffset _)
            (Grid.bare_setViewOffset _ _)
            (Session.setViewOffset_eq _ _).2.2⟩
  | markClean =>
      exact ⟨_, rfl, hSession.markClean, rfl, rfl, rfl⟩
  | markAllDirty =>
      exact
        ⟨_, rfl,
          hSession.unnoticed_modifyActive
            (fun _ hActive => hActive.markAllDirty) rfl rfl⟩
  | markRowDirty row =>
      exact
        ⟨_, rfl,
          hSession.unnoticed_modifyActive
            (fun _ hActive => hActive.markDirty row) rfl rfl⟩
  | _ => cases hViewing

end

------------------------------------------------------------
-- Terminals That Keep Together
------------------------------------------------------------

/-
  Two terminals that have read the same in part and whose
  sessions keep together.
-/
structure Tracks
    (config config' : Config)
    (cols rows : Nat)
    (terminal terminal' : Terminal) : Prop where
  decoder_eq : terminal.decoder = terminal'.decoder
  parser_eq : terminal.parser = terminal'.parser
  session :
    Session.Tracks config config' cols rows terminal.session
      terminal'.session

section

variable {config config' : Config} {cols rows : Nat}
  {terminal terminal' : Terminal}
  (hTracks :
    Tracks config config' cols rows terminal terminal')
  (hLess : config.scrollbackLines ≤ config'.scrollbackLines)

include hTracks

theorem Tracks.modify
    {cols' rows' : Nat}
    {session session' : Session}
    (hSession :
      Session.Tracks config config' cols' rows' session
        session') :
    Tracks config config' cols' rows'
      { terminal with session := session }
      { terminal' with session := session' } :=
  ⟨hTracks.decoder_eq, hTracks.parser_eq, hSession⟩

theorem Tracks.view_left
    [TextLibrary]
    {operation : Operation}
    (hViewing : operation.isViewing) :
    Tracks config config' cols rows
      (terminal.perform operation).1 terminal' := by
  rcases perform_of_isViewing hTracks.session.left
      hViewing with
    ⟨next, hPerformed, hNext⟩
  rw [hPerformed]
  exact
    ⟨hTracks.decoder_eq, hTracks.parser_eq,
      hTracks.session.step_left hNext⟩

theorem Tracks.view_right
    [TextLibrary]
    {operation : Operation}
    (hViewing : operation.isViewing) :
    Tracks config config' cols rows terminal
      (terminal'.perform operation).1 := by
  rcases perform_of_isViewing hTracks.session.right
      hViewing with
    ⟨next, hPerformed, hNext⟩
  rw [hPerformed]
  exact
    ⟨hTracks.decoder_eq, hTracks.parser_eq,
      hTracks.session.step_right hNext⟩

/- A change that reaches neither names nor history. -/
theorem Tracks.quietly
    {change : Session → Session}
    (hAlike :
      Session.Alike config config' cols rows
        terminal.session.output terminal'.session.output
        (change terminal.session)
        (change terminal'.session))
    (hRecords :
      ∀ session : Session,
        (change session).records = session.records) :
    Tracks config config' cols rows
      (terminal.modify change) (terminal'.modify change) :=
  hTracks.modify
    (hTracks.session.quiet hAlike (hRecords _) (hRecords _))

include hLess

section

variable [TextLibrary]

theorem Tracks.process
    (bytes : List UInt8) :
    Tracks config config' cols rows (terminal.process bytes)
      (terminal'.process bytes) := by
  have hEvents :
      terminal.events bytes = terminal'.events bytes := by
    unfold events
    rw [hTracks.decoder_eq, hTracks.parser_eq]
  rw [process_eq, process_eq, hTracks.decoder_eq,
    hTracks.parser_eq, hEvents]
  exact ⟨rfl, rfl, hTracks.session.handleAll hLess _⟩

/- A change of size is accepted by both or by none. -/
theorem Tracks.resize
    (cols' rows' : Nat) :
    Tracks config config'
        (colsAfter cols (.resize cols' rows'))
        (rowsAfter rows (.resize cols' rows'))
        (terminal.perform (.resize cols' rows')).1
        (terminal'.perform (.resize cols' rows')).1 ∧
      (terminal.perform (.resize cols' rows')).2 =
        (terminal'.perform (.resize cols' rows')).2 := by
  have hAlike := hTracks.session.alike
  unfold Terminal.perform colsAfter rowsAfter Session.resize
  dsimp only
  rw [← hAlike.cols_eq, ← hAlike.rows_eq]
  by_cases hNone : cols' = 0 ∨ rows' = 0
  · simp only [if_pos hNone]
    exact ⟨hTracks, trivial⟩
  · simp only [if_neg hNone]
    by_cases hSame :
        cols' = terminal.session.cols ∧
          rows' = terminal.session.rows
    · simp only [if_pos hSame]
      rw [hSame.1, hSame.2, hAlike.left.cols_eq,
        hAlike.left.rows_eq]
      exact ⟨hTracks.modify hTracks.session, trivial⟩
    · simp only [if_neg hSame]
      exact
        ⟨hTracks.modify
            (hTracks.session.resizeTo hLess (by omega)
              (by omega)),
          trivial⟩

/-
  An operation that is no viewing one answers the same, unless
  it asks lines back from histories of different lengths.
-/
theorem Tracks.perform
    {operation : Operation}
    (hEmulates : operation.isViewing = false)
    (hBack :
      operation.asksBack →
        config.scrollbackLines = config'.scrollbackLines) :
    Tracks config config' (colsAfter cols operation)
        (rowsAfter rows operation)
        (terminal.perform operation).1
        (terminal'.perform operation).1 ∧
      (terminal.perform operation).2 =
        (terminal'.perform operation).2 := by
  have hSession := hTracks.session
  have hAlike := hSession.alike
  cases operation with
  | process bytes =>
      exact ⟨hTracks.process hLess bytes, rfl⟩
  | resize cols' rows' =>
      exact hTracks.resize hLess cols' rows'
  | reset =>
      refine ⟨⟨rfl, ?_, ?_⟩, rfl⟩
      · exact congrArg Parser.reset hTracks.parser_eq
      · exact
          hSession.quiet hAlike.reset
            (Session.records_reset _)
            (Session.records_reset _)
  | paste text =>
      exact
        ⟨hTracks.quietly (hAlike.paste text) fun session =>
            congrArg Prod.snd
              (session.offstage_paste text),
          rfl⟩
  | reportFocus focused =>
      exact
        ⟨hTracks.quietly (hAlike.reportFocus focused)
            fun session =>
              congrArg Prod.snd
                (session.offstage_reportFocus focused),
          rfl⟩
  | reportMouse event =>
      rcases hAlike.reportMouse event with
        ⟨hReported, hWritten⟩
      exact
        ⟨hTracks.quietly hReported fun session =>
            congrArg Prod.snd
              (session.offstage_reportMouse event),
          congrArg Reply.flag hWritten⟩
  | scrollLines origin count direction retain =>
      refine ⟨hTracks.modify ?_, rfl⟩
      apply hSession.scrollLines hLess
      rintro rfl rfl
      exact hBack rfl
  | clearRegion x₁ y₁ x₂ y₂ =>
      exact
        ⟨hTracks.quietly (hAlike.clearRegion x₁ y₁ x₂ y₂)
            fun session =>
              congrArg Prod.snd
                (session.offstage_clearRegion x₁ y₁ x₂ y₂),
          rfl⟩
  | clearScrollback =>
      exact ⟨hTracks.modify hSession.clearScrollback, rfl⟩
  | setScrollRegion top bottom =>
      exact
        ⟨hTracks.quietly (hAlike.setScrollRegion top bottom)
            fun session =>
              congrArg Prod.snd
                (session.offstage_setScrollRegion top bottom),
          rfl⟩
  | useAlternate =>
      exact
        ⟨hTracks.quietly hAlike.useAlternate fun session =>
            session.toggles_useAlternate.records_eq,
          rfl⟩
  | usePrimary =>
      exact
        ⟨hTracks.quietly hAlike.usePrimary fun session =>
            session.toggles_usePrimary.records_eq,
          rfl⟩
  | saveCursor =>
      exact
        ⟨hTracks.quietly hAlike.saveCursor fun session =>
            congrArg Prod.snd session.offstage_saveCursor,
          rfl⟩
  | restoreCursor =>
      exact
        ⟨hTracks.quietly hAlike.restoreCursor fun session =>
            congrArg Prod.snd session.offstage_restoreCursor,
          rfl⟩
  | installSink =>
      exact
        ⟨hTracks.modify
            (hSession.modifyOutput fun output =>
              ⟨output.notices,
                { output.outbox with hasSink := true }⟩),
          rfl⟩
  | removeSink =>
      exact
        ⟨hTracks.modify
            (hSession.modifyOutput fun output =>
              ⟨output.notices,
                { output.outbox with hasSink := false }⟩),
          rfl⟩
  | takeNotices =>
      exact
        ⟨hTracks.modify
            (hSession.modifyOutput fun output =>
              ⟨[], output.outbox⟩),
          congrArg
            (fun output : Session.Output =>
              Reply.notices output.notices)
            hSession.output_eq⟩
  | takeResponses =>
      exact
        ⟨hTracks.modify
            (hSession.modifyOutput fun output =>
              ⟨output.notices,
                { output.outbox with buffer := [] }⟩),
          congrArg
            (fun output : Session.Output =>
              Reply.bytes output.outbox.buffer)
            hSession.output_eq⟩
  | takeDeliveries =>
      exact
        ⟨hTracks.modify
            (hSession.modifyOutput fun output =>
              ⟨output.notices,
                { output.outbox with delivered := [] }⟩),
          congrArg
            (fun output : Session.Output =>
              Reply.deliveries output.outbox.delivered)
            hSession.output_eq⟩
  | _ => cases hEmulates

/- Viewing operations may be deleted from the second run. -/
theorem Tracks.performAll
    {operations rest : List Operation}
    (hThinned : Operation.Thinned operations rest)
    (hBack :
      ∀ operation ∈ operations,
        operation.asksBack →
          config.scrollbackLines = config'.scrollbackLines) :
    (∃ cols' rows',
      Tracks config config' cols' rows'
        (terminal.performAll operations)
        (terminal'.performAll rest)) ∧
      terminal.replies operations =
        terminal'.replies rest := by
  induction hThinned generalizing cols rows terminal
    terminal' with
  | nil => exact ⟨⟨cols, rows, hTracks⟩, rfl⟩
  | @keep operation operations rest hRest hPerformed =>
      have hLater :
          ∀ other ∈ operations,
            other.asksBack →
              config.scrollbackLines =
                config'.scrollbackLines :=
        fun other hMem =>
          hBack other (List.mem_cons_of_mem _ hMem)
      cases hViewing : operation.isViewing with
      | true =>
          have hNext :=
            (hTracks.view_left hViewing).view_right hViewing
          rcases hPerformed hNext hLater with ⟨hEnd, hReplies⟩
          refine ⟨hEnd, ?_⟩
          rw [replies_of_isViewing hViewing,
            replies_of_isViewing hViewing]
          exact hReplies
      | false =>
          have hNext :=
            hTracks.perform hLess hViewing
              (hBack operation List.mem_cons_self)
          rcases hPerformed hNext.1 hLater with
            ⟨hEnd, hReplies⟩
          refine ⟨hEnd, ?_⟩
          rw [replies_of_not_isViewing hViewing,
            replies_of_not_isViewing hViewing, hNext.2,
            hReplies]
  | @delete operation hViewing operations rest hRest
      hPerformed =>
      rcases hPerformed (hTracks.view_left hViewing)
          fun other hMem =>
            hBack other (List.mem_cons_of_mem _ hMem) with
        ⟨hEnd, hReplies⟩
      refine ⟨hEnd, ?_⟩
      rw [replies_of_isViewing hViewing]
      exact hReplies

end

end

------------------------------------------------------------
-- What a Run Leaves Behind
------------------------------------------------------------

/- The history of a terminal, from the oldest line on. -/
def history
    (terminal : Terminal) : List Line :=
  terminal.session.primary.scrollback.toList

/-
  Two terminals that show the same, that are in the same state
  for an application, and that have the same on its way out.
-/
structure SameEmulation
    (terminal terminal' : Terminal) : Prop where
  cols_eq : terminal.session.cols = terminal'.session.cols
  lines_eq :
    ∀ screen,
      (terminal.session.grid screen).lines =
        (terminal'.session.grid screen).lines
  screen_eq :
    terminal.session.screen = terminal'.session.screen
  cursor_eq :
    terminal.session.cursor = terminal'.session.cursor
  saved_eq :
    terminal.session.savedPrimary =
        terminal'.session.savedPrimary ∧
      terminal.session.savedAlternate =
        terminal'.session.savedAlternate
  charsets_eq :
    terminal.session.charsets = terminal'.session.charsets
  modes_eq : terminal.session.modes = terminal'.session.modes
  mouse_eq :
    terminal.session.mouseMode =
        terminal'.session.mouseMode ∧
      terminal.session.mouseEncoding =
        terminal'.session.mouseEncoding
  region_eq :
    terminal.session.regionTop =
        terminal'.session.regionTop ∧
      terminal.session.regionBottom =
        terminal'.session.regionBottom
  tabStops_eq :
    terminal.session.tabStops = terminal'.session.tabStops
  title_eq : terminal.session.title = terminal'.session.title
  iconName_eq :
    terminal.session.iconName = terminal'.session.iconName
  notices_eq :
    terminal.session.notices = terminal'.session.notices
  outbox_eq :
    terminal.session.outbox = terminal'.session.outbox

theorem Tracks.sameEmulation
    {config config' : Config}
    {cols rows : Nat}
    {terminal terminal' : Terminal}
    (hTracks :
      Tracks config config' cols rows terminal terminal') :
    SameEmulation terminal terminal' := by
  have hSession := hTracks.session
  have hAlike := hSession.alike
  have hPrimary := hAlike.read Session.primary
  have hAlternate := hAlike.read Session.alternate
  exact
    { cols_eq := hAlike.cols_eq
      lines_eq := by
        intro screen
        cases screen with
        | primary => exact (Grid.bare_eq_iff.mp hPrimary).2
        | alternate =>
            exact (Grid.bare_eq_iff.mp hAlternate).2
      screen_eq := hAlike.screen_eq
      cursor_eq := hAlike.cursor_eq
      saved_eq :=
        ⟨hAlike.read Session.savedPrimary,
          hAlike.read Session.savedAlternate⟩
      charsets_eq := hAlike.read Session.charsets
      modes_eq := hAlike.modes_eq
      mouse_eq :=
        ⟨hAlike.read Session.mouseMode,
          hAlike.read Session.mouseEncoding⟩
      region_eq :=
        ⟨hAlike.regionTop_eq, hAlike.regionBottom_eq⟩
      tabStops_eq := hAlike.read Session.tabStops
      title_eq := congrArg Prod.fst hSession.titles_eq
      iconName_eq := congrArg Prod.snd hSession.titles_eq
      notices_eq :=
        congrArg Session.Output.notices hSession.output_eq
      outbox_eq :=
        congrArg Session.Output.outbox hSession.output_eq }

theorem Tracks.history_eq
    {config config' : Config}
    {cols rows : Nat}
    {terminal terminal' : Terminal}
    (hTracks :
      Tracks config config' cols rows terminal terminal') :
    terminal.history =
      terminal'.history.drop
        (terminal'.history.length -
          min config.scrollbackLines
            terminal'.history.length) := by
  unfold history
  rw [Scrollback.toList_eq_reverse_retained,
    Scrollback.toList_eq_reverse_retained,
    hTracks.session.history, List.reverse_take,
    List.length_reverse]
  congr 1
  omega

------------------------------------------------------------
-- Room for the History
------------------------------------------------------------

theorem tracks_start
    {config : Config}
    {more cols rows : Nat}
    (hCols : 0 < cols)
    (hRows : 0 < rows) :
    Tracks config { config with scrollbackLines := more } cols
      rows (start cols rows config)
      (start cols rows
        { config with scrollbackLines := more }) where
  decoder_eq := rfl
  parser_eq := rfl
  session :=
    { left := Session.wellFormed_start hCols hRows _
      right := Session.wellFormed_start hCols hRows _
      core_eq := rfl
      output_eq := rfl
      titles_eq := rfl
      history := List.take_nil.symm }

/-
  With more room for its history a terminal does the same, and
  with less room it keeps the newest of the same lines, unless
  lines are asked back from the history.
-/
theorem sameEmulation_of_scrollbackLines_le
    [TextLibrary]
    {config : Config}
    {more : Nat}
    (hLess : config.scrollbackLines ≤ more)
    {cols rows : Nat}
    {terminal larger : Terminal}
    (hCreated : create cols rows config = .ok terminal)
    (hLarger :
      create cols rows { config with scrollbackLines := more } =
        .ok larger)
    {operations : List Operation}
    (hRun :
      ∀ operation ∈ operations, operation.asksBack = false) :
    SameEmulation (terminal.performAll operations)
        (larger.performAll operations) ∧
      terminal.replies operations =
        larger.replies operations ∧
      (terminal.performAll operations).history =
        (larger.performAll operations).history.drop
          ((larger.performAll operations).history.length -
            min config.scrollbackLines
              (larger.performAll
                operations).history.length) := by
  rcases eq_start_of_created hCreated with
    ⟨hCols, hRows, rfl⟩
  rcases eq_start_of_created hLarger with ⟨_, _, rfl⟩
  have hNoBack :
      ∀ operation ∈ operations,
        operation.asksBack →
          config.scrollbackLines = more := by
    intro operation hMem hBack
    rw [hRun operation hMem] at hBack
    cases hBack
  rcases (tracks_start hCols hRows).performAll hLess
      (.refl operations) hNoBack with
    ⟨⟨cols', rows', hTracks⟩, hReplies⟩
  exact
    ⟨hTracks.sameEmulation, hReplies, hTracks.history_eq⟩

/- A small terminal with room for some lines of history. -/
def withRoomFor
    (lines : Nat) : Terminal :=
  start 2 1 { Config.default with scrollbackLines := lines }

/- Three lines of text that scroll out, and what follows. -/
def threeLines : List Operation :=
  [.process
      [0x61, 0x0D, 0x0A, 0x62, 0x0D, 0x0A, 0x63, 0x0D, 0x0A],
    .resize 3 1, .reset]

/- Of the three lines the newest one is kept. -/
theorem history_threeLines :
    ((withRoomFor 1).performAll threeLines).history =
      ((withRoomFor 3).performAll threeLines).history.drop
        2 := by
  have hCreated :
      create 2 1
          { Config.default with scrollbackLines := 1 } =
        .ok (withRoomFor 1) :=
    rfl
  have hLarger :
      create 2 1
          { Config.default with scrollbackLines := 3 } =
        .ok (withRoomFor 3) :=
    rfl
  have hNoBack :
      ∀ operation ∈ threeLines,
        operation.asksBack = false := by
    decide
  have hLength :
      ((withRoomFor 3).performAll
        threeLines).history.length = 3 := by
    decide +kernel
  have hHistory :=
    (sameEmulation_of_scrollbackLines_le
      (show 1 ≤ 3 by decide) hCreated hLarger hNoBack).2.2
  rw [hLength] at hHistory
  exact hHistory

------------------------------------------------------------
-- What the User Sees and Selects
------------------------------------------------------------

/-
  What the user sees and selects does not interfere with the
  emulation: without those operations a run does the same and
  answers the same.
-/
theorem Reachable.sameEmulation_of_thinned
    [TextLibrary]
    {terminal : Terminal}
    (hTerminal : Reachable terminal)
    {operations rest : List Operation}
    (hThinned : Operation.Thinned operations rest) :
    SameEmulation (terminal.performAll operations)
        (terminal.performAll rest) ∧
      (terminal.performAll operations).history =
        (terminal.performAll rest).history ∧
      terminal.replies operations = terminal.replies rest := by
  rcases hTerminal.wellFormed with
    ⟨config, cols, rows, hWellFormed⟩
  have hSession := hWellFormed.session
  have hSelf :
      Tracks config config cols rows terminal terminal :=
    ⟨rfl, rfl, Session.Tracks.refl hSession⟩
  rcases hSelf.performAll (Nat.le_refl _) hThinned
      fun _ _ _ => rfl with
    ⟨⟨cols', rows', hTracks⟩, hReplies⟩
  refine ⟨hTracks.sameEmulation, ?_, hReplies⟩
  unfold history
  rw [Scrollback.toList_eq_reverse_retained,
    Scrollback.toList_eq_reverse_retained,
    hTracks.session.retained_eq rfl]

/- Text is written while some is selected and scrolled to. -/
theorem sameEmulation_of_selecting :
    SameEmulation
      ((createRaised 2 1).performAll
        [.process [0x61, 0x0A], .viewUp 1,
          .beginSelection 0 0 .word .block, .process [0x62],
          .markClean])
      ((createRaised 2 1).performAll
        [.process [0x61, 0x0A], .process [0x62]]) :=
  (Reachable.sameEmulation_of_thinned
    (Reachable.createRaised 2 1)
    (.keep _
      (.delete rfl
        (.delete rfl
          (.keep _ (.delete rfl .nil)))))).1

end Terminal

end VideoTerminal
