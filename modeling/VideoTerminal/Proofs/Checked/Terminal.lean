import VideoTerminal.Proofs.Checked.Dispatch
import VideoTerminal.Proofs.Checked.Pointer
import VideoTerminal.Proofs.Terminal.Reachable

/-
  Terminals by operations that can fault.  They work on a
  machine, which keeps the registers of the decoder and the
  numbers of rows of the screens apart from what they are the
  numbers of.  However a terminal is constructed, whatever is
  then done with it and whatever is asked about it, no
  operation faults.

  Main declarations:
    * `Terminal.Robust`
    * `Terminal.Machine`
    * `Terminal.Machine.Keeps`
    * `Terminal.Machine.Keeps.performChecked`
    * `Terminal.Machine.Keeps.askChecked_eq`
    * `Terminal.runChecked_never_faults`
-/

namespace VideoTerminal

namespace Terminal

------------------------------------------------------------
-- Robust Terminals
------------------------------------------------------------

/-
  A well-formed terminal in which what has been read in part
  of a character has room in the word that keeps it.
-/
structure Robust
    (config : Config)
    (cols rows : Nat)
    (terminal : Terminal) : Prop where
  wellFormed : terminal.WellFormed config cols rows
  decoder : terminal.decoder.Narrow

theorem robust_start
    {cols rows : Nat}
    (hCols : 0 < cols)
    (hRows : 0 < rows)
    {config : Config}
    (hConfig : config.validate = .ok ()) :
    (start cols rows config).Robust config cols rows where
  wellFormed := wellFormed_start hCols hRows hConfig
  decoder := Utf8.narrow_start

/- Accepted settings keep tab stops apart. -/
theorem tabWidth_pos_of_validate
    {config : Config}
    (hConfig : config.validate = .ok ()) :
    0 < config.tabWidth := by
  unfold Config.validate at hConfig
  split at hConfig
  · cases hConfig
  · omega

section

variable {config : Config} {cols rows : Nat}
  {terminal : Terminal}
  (hTerminal : terminal.Robust config cols rows)

include hTerminal

theorem Robust.tabWidth_pos :
    0 < config.tabWidth :=
  tabWidth_pos_of_validate hTerminal.wellFormed.validated

theorem Robust.readChar
    [TextLibrary]
    (c : Char) :
    (terminal.readChar c).Robust config cols rows where
  wellFormed := hTerminal.wellFormed.readChar c
  decoder := hTerminal.decoder

/- The terminal after the decoder has read a byte. -/
theorem Robust.decoded
    (byte : UInt8) :
    Robust config cols rows
      { terminal with
        decoder := (terminal.decoder.push byte).1 } where
  wellFormed :=
    { validated := hTerminal.wellFormed.validated
      session := hTerminal.wellFormed.session
      maxStringBytes_eq :=
        hTerminal.wellFormed.maxStringBytes_eq
      continues := le_lower_push terminal.decoder byte }
  decoder := hTerminal.decoder.push byte

section

variable [TextLibrary]

theorem Robust.readByte
    (byte : UInt8) :
    (terminal.readByte byte).Robust config cols rows :=
  List.foldlRecOn _ _ (hTerminal.decoded byte)
    fun _ hState c _ => hState.readChar c

theorem Robust.process
    (bytes : List UInt8) :
    (terminal.process bytes).Robust config cols rows :=
  List.foldlRecOn _ _ hTerminal
    fun _ hState byte _ => hState.readByte byte

theorem Robust.perform
    (operation : Operation) :
    (terminal.perform operation).1.Robust config
      (colsAfter cols operation) (rowsAfter rows operation) := by
  have hPerformed := hTerminal.wellFormed.perform operation
  refine ⟨hPerformed, ?_⟩
  cases operation with
  | process bytes => exact (hTerminal.process bytes).decoder
  | reset => exact Utf8.narrow_start
  | resize cols' rows' =>
      unfold Terminal.perform
      dsimp only
      split
      · exact hTerminal.decoder
      · exact hTerminal.decoder
  | _ => exact hTerminal.decoder

end

end

------------------------------------------------------------
-- Machines
------------------------------------------------------------

/- What the operations that can fault work on. -/
structure Machine where
  registers : Utf8.Registers
  parser : Parser
  heights : Session.Heights
  session : Session

/- The terminal that a machine is. -/
def Machine.terminal
    (machine : Machine) : Terminal :=
  ⟨machine.registers.decoder, machine.parser,
    machine.session⟩

/-
  A machine is a robust terminal, and both screens have as
  many rows as they are held to have.
-/
structure Machine.Keeps
    (config : Config)
    (cols rows : Nat)
    (machine : Machine)
    (terminal : Terminal) : Prop where
  robust : terminal.Robust config cols rows
  terminal_eq : machine.terminal = terminal
  heights_eq : machine.heights = .both rows

namespace Machine

------------------------------------------------------------
-- Input
------------------------------------------------------------

section

variable [TextLibrary]

/- The session after an event, if there is one. -/
def afterEventChecked
    (machine : Machine) :
    Option Event → Option Session
  | none => some machine.session
  | some event =>
    machine.session.handleChecked machine.heights event

/- Read a character. -/
def readCharChecked
    (machine : Machine)
    (c : Char) : Option Machine := do
  let (parser, event) ← machine.parser.stepChecked c
  let session ← machine.afterEventChecked event
  some { machine with parser := parser, session := session }

/- Read a byte. -/
def readByteChecked
    (machine : Machine)
    (byte : UInt8) : Option Machine := do
  let (registers, chars) ← machine.registers.pushChecked byte
  chars.foldlM readCharChecked
    { machine with registers := registers }

/- Read bytes. -/
def processChecked
    (machine : Machine)
    (bytes : List UInt8) : Option Machine :=
  bytes.foldlM readByteChecked machine

section

variable {config : Config} {cols rows : Nat}
  {machine : Machine} {terminal : Terminal}
  (hKeeps : machine.Keeps config cols rows terminal)

include hKeeps

theorem Keeps.readCharChecked
    (c : Char) :
    ∃ next,
      machine.readCharChecked c = some next ∧
        next.Keeps config cols rows (terminal.readChar c) := by
  rcases hKeeps with ⟨hRobust, rfl, hHeights⟩
  have hSession := hRobust.wellFormed.session
  have hEvent :
      machine.afterEventChecked (machine.parser.step c).2 =
        some (machine.terminal.readChar c).session := by
    unfold afterEventChecked Terminal.readChar terminal
    dsimp only
    cases (machine.parser.step c).2 with
    | none => rfl
    | some event =>
        dsimp only
        rw [hHeights]
        exact
          hSession.handleChecked_eq hRobust.tabWidth_pos event
  refine
    ⟨{ machine with
        parser := (machine.parser.step c).1
        session := (machine.terminal.readChar c).session },
      ?_, hRobust.readChar c, rfl, hHeights⟩
  refine
    (Checked.bind_eq (machine.parser.stepChecked_eq c)).trans
      ?_
  exact Checked.bind_eq hEvent

theorem Keeps.readByteChecked
    (byte : UInt8) :
    ∃ next,
      machine.readByteChecked byte = some next ∧
        next.Keeps config cols rows
          (terminal.readByte byte) := by
  rcases hKeeps with ⟨hRobust, rfl, hHeights⟩
  rcases Utf8.Registers.pushChecked_eq hRobust.decoder byte with
    ⟨registers, hDecoder, hPushed⟩
  have hDecoded :
      Keeps config cols rows
        { machine with registers := registers }
        { machine.terminal with
          decoder :=
            (machine.terminal.decoder.push byte).1 } := by
    refine ⟨hRobust.decoded byte, ?_, hHeights⟩
    unfold terminal
    dsimp only
    rw [hDecoder]
  rcases Checked.foldlM_follows (Keeps config cols rows)
      Keeps.readCharChecked hDecoded
      (machine.terminal.decoder.push byte).2 with
    ⟨next, hNext, hKept⟩
  exact ⟨next, (Checked.bind_eq hPushed).trans hNext, hKept⟩

theorem Keeps.processChecked
    (bytes : List UInt8) :
    ∃ next,
      machine.processChecked bytes = some next ∧
        next.Keeps config cols rows (terminal.process bytes) :=
  Checked.foldlM_follows (Keeps config cols rows)
    Keeps.readByteChecked hKeeps bytes

end

------------------------------------------------------------
-- Operations
------------------------------------------------------------

/- An operation that changes the session and answers nothing. -/
def silentlyChecked
    (machine : Machine)
    (changed? : Option Session) :
    Option (Machine × Reply) := do
  let session ← changed?
  return ({ machine with session := session }, .none)

/-
  Carry out an operation.  Those that are not listed have no
  step that can fault.
-/
def performChecked
    (machine : Machine)
    (operation : Operation) : Option (Machine × Reply) := do
  let session := machine.session
  let heights := machine.heights
  match operation with
  | .process bytes =>
    let processed ← machine.processChecked bytes
    return (processed, .none)
  | .resize cols rows =>
    match ← session.resizeChecked heights cols rows with
    | .error error => return (machine, .refused error)
    | .ok (heights, resized) =>
      some
        ({ machine with
            heights := heights
            session := resized },
          .none)
  | .reset =>
    let session ← session.resetChecked heights
    some
      ({ machine with
          registers := machine.registers.reset
          parser := machine.parser.reset
          session := session },
        .none)
  | .beginSelection x y snap mode =>
    machine.silentlyChecked
      (session.beginSelectionChecked x y snap mode)
  | .clickSelection x y mode time =>
    let (clicked, snap) ←
      session.clickSelectionChecked x y mode time
    return ({ machine with session := clicked }, .snapped snap)
  | .extendSelection x y =>
    machine.silentlyChecked
      (session.extendSelectionChecked x y)
  | .reportMouse event =>
    let (reported, written) ← session.reportMouseChecked event
    return ({ machine with session := reported }, .flag written)
  | .scrollLines origin count direction retain =>
    machine.silentlyChecked
      (session.scrollLinesChecked heights origin count
        direction retain)
  | .clearRegion x₁ y₁ x₂ y₂ =>
    machine.silentlyChecked
      (session.clearRegionChecked heights x₁ y₁ x₂ y₂)
  | .setScrollRegion top bottom =>
    machine.silentlyChecked
      (session.setScrollRegionChecked heights top bottom)
  | .saveCursor =>
    machine.silentlyChecked session.saveCursorChecked
  | .restoreCursor =>
    machine.silentlyChecked
      (session.restoreCursorChecked heights)
  | _ =>
    let (performed, reply) := machine.terminal.perform operation
    return ({ machine with session := performed.session }, reply)

section

variable {config : Config} {cols rows : Nat}
  {machine : Machine} {terminal : Terminal}
  (hKeeps : machine.Keeps config cols rows terminal)

include hKeeps

/- A change of size is what gives screens other heights. -/
theorem Keeps.resizeChecked
    (cols' rows' : Nat) :
    ∃ next,
      machine.performChecked (.resize cols' rows') =
          some
            (next, (terminal.perform (.resize cols' rows')).2) ∧
        next.Keeps config (colsAfter cols (.resize cols' rows'))
          (rowsAfter rows (.resize cols' rows'))
          (terminal.perform (.resize cols' rows')).1 := by
  have hPerformed := hKeeps.robust.perform (.resize cols' rows')
  rcases hKeeps with ⟨hRobust, rfl, hHeights⟩
  have hSession := hRobust.wellFormed.session
  have hResized :
      machine.terminal.session.resizeChecked machine.heights
          cols' rows' =
        some
          ((machine.terminal.session.resize cols' rows').map
            (Session.Heights.both rows', ·)) := by
    rw [hHeights]
    exact
      hSession.resizeChecked_eq hRobust.tabWidth_pos cols' rows'
  unfold Terminal.perform at hPerformed ⊢
  dsimp only at hPerformed ⊢
  by_cases hNone : cols' = 0 ∨ rows' = 0
  · have hRefused :
        machine.terminal.session.resize cols' rows' =
          .error (.invalidSize cols' rows') :=
      if_pos hNone
    rw [hRefused] at hPerformed hResized ⊢
    have hSame : rowsAfter rows (.resize cols' rows') = rows :=
      if_pos hNone
    refine
      ⟨machine, Checked.bind_eq hResized, hPerformed, rfl, ?_⟩
    rw [hSame]
    exact hHeights
  · cases hOk : machine.terminal.session.resize cols' rows' with
    | error error =>
        unfold Session.resize at hOk
        rw [if_neg hNone] at hOk
        split at hOk <;> cases hOk
    | ok resized =>
        have hNew :
            rowsAfter rows (.resize cols' rows') = rows' :=
          if_neg hNone
        rw [hOk] at hPerformed hResized
        refine
          ⟨_, Checked.bind_eq hResized, hPerformed, rfl, ?_⟩
        rw [hNew]

theorem Keeps.performChecked
    (operation : Operation) :
    ∃ next,
      machine.performChecked operation =
          some (next, (terminal.perform operation).2) ∧
        next.Keeps config (colsAfter cols operation)
          (rowsAfter rows operation)
          (terminal.perform operation).1 := by
  have hPerformed := hKeeps.robust.perform operation
  have hWidth := hKeeps.robust.tabWidth_pos
  have hSession := hKeeps.robust.wellFormed.session
  cases operation with
  | process bytes =>
      rcases hKeeps.processChecked bytes with
        ⟨next, hNext, hKept⟩
      exact ⟨next, Checked.bind_eq hNext, hKept⟩
  | resize cols' rows' =>
      exact hKeeps.resizeChecked cols' rows'
  | reset =>
      rcases hKeeps with ⟨_, rfl, hHeights⟩
      have hReset := hSession.resetChecked_eq hWidth
      rw [← hHeights] at hReset
      exact
        ⟨_, Checked.bind_eq hReset, hPerformed, rfl, hHeights⟩
  | beginSelection x y snap mode =>
      rcases hKeeps with ⟨_, rfl, hHeights⟩
      exact
        ⟨_,
          Checked.bind_eq
            (hSession.beginSelectionChecked_eq x y snap mode),
          hPerformed, rfl, hHeights⟩
  | clickSelection x y mode time =>
      rcases hKeeps with ⟨_, rfl, hHeights⟩
      exact
        ⟨_,
          Checked.bind_eq
            (hSession.clickSelectionChecked_eq x y mode time),
          hPerformed, rfl, hHeights⟩
  | extendSelection x y =>
      rcases hKeeps with ⟨_, rfl, hHeights⟩
      exact
        ⟨_,
          Checked.bind_eq
            (hSession.extendSelectionChecked_eq x y),
          hPerformed, rfl, hHeights⟩
  | reportMouse event =>
      rcases hKeeps with ⟨_, rfl, hHeights⟩
      exact
        ⟨_,
          Checked.bind_eq
            (machine.session.reportMouseChecked_eq event),
          hPerformed, rfl, hHeights⟩
  | scrollLines origin count direction retain =>
      rcases hKeeps with ⟨_, rfl, hHeights⟩
      have hScrolled :=
        hSession.scrollLinesChecked_eq origin count direction
          retain
      rw [← hHeights] at hScrolled
      exact
        ⟨_, Checked.bind_eq hScrolled, hPerformed, rfl,
          hHeights⟩
  | clearRegion x₁ y₁ x₂ y₂ =>
      rcases hKeeps with ⟨_, rfl, hHeights⟩
      have hCleared :=
        hSession.clearRegionChecked_eq x₁ y₁ x₂ y₂
      rw [← hHeights] at hCleared
      exact
        ⟨_, Checked.bind_eq hCleared, hPerformed, rfl,
          hHeights⟩
  | setScrollRegion top bottom =>
      rcases hKeeps with ⟨_, rfl, hHeights⟩
      have hConfined :=
        hSession.setScrollRegionChecked_eq top bottom
      rw [← hHeights] at hConfined
      exact
        ⟨_, Checked.bind_eq hConfined, hPerformed, rfl,
          hHeights⟩
  | saveCursor =>
      rcases hKeeps with ⟨_, rfl, hHeights⟩
      exact
        ⟨_,
          Checked.bind_eq machine.session.saveCursorChecked_eq,
          hPerformed, rfl, hHeights⟩
  | restoreCursor =>
      rcases hKeeps with ⟨_, rfl, hHeights⟩
      have hRestored := hSession.restoreCursorChecked_eq
      rw [← hHeights] at hRestored
      exact
        ⟨_, Checked.bind_eq hRestored, hPerformed, rfl,
          hHeights⟩
  | _ =>
      rcases hKeeps with ⟨_, rfl, hHeights⟩
      exact ⟨_, rfl, hPerformed, rfl, hHeights⟩

end

end

end Machine

------------------------------------------------------------
-- Questions
------------------------------------------------------------

/-
  What can be asked about a terminal apart from what its parts
  tell at once.
-/
inductive Query where
  | visibleLine (y : Nat)
  | lineAt (screen : Screen) (row : Int)
  | isWrappedAt (screen : Screen) (row : Int)
  | historyLine (screen : Screen) (age : Nat)
  | history (screen : Screen)
  | selectionText
  | textOn (screen : Screen)
  deriving DecidableEq, Repr

/- The answer to a question. -/
inductive Answer where
  | line (line? : Option Line)
  | flag (value : Bool)
  | lines (lines : List Line)
  | selected (text : Except TerminalError String)
  | text (text? : Option String)
  deriving Repr

/- Answer a question. -/
def ask
    (terminal : Terminal)
    (query : Query) : Answer :=
  let session := terminal.session
  match query with
  | .visibleLine y => .line (session.active.visibleLine? y)
  | .lineAt screen row =>
    .line ((session.grid screen).lineAt? row)
  | .isWrappedAt screen row =>
    .flag ((session.grid screen).isWrappedAt row)
  | .historyLine screen age =>
    .line ((session.grid screen).scrollback.get? age)
  | .history screen =>
    .lines (session.grid screen).scrollback.toList
  | .selectionText => .selected session.selectionText
  | .textOn screen =>
    .text
      (session.selection.bind (·.text? (session.grid screen)))

/- The same by operations that can fault. -/
def Machine.askChecked
    (machine : Machine)
    (query : Query) : Option Answer :=
  let session := machine.session
  match query with
  | .visibleLine y =>
    (session.active.visibleLineChecked
      (machine.heights session.screen) y).map .line
  | .lineAt screen row =>
    ((session.grid screen).lineAtChecked row).map .line
  | .isWrappedAt screen row =>
    ((session.grid screen).isWrappedAtChecked row).map .flag
  | .historyLine screen age =>
    ((session.grid screen).scrollback.getChecked age).map .line
  | .history screen =>
    (session.grid screen).scrollback.toListChecked.map .lines
  | .selectionText =>
    session.selectionTextChecked.map .selected
  | .textOn screen => (session.textOnChecked screen).map .text

theorem Machine.Keeps.askChecked_eq
    {config : Config}
    {cols rows : Nat}
    {machine : Machine}
    {terminal : Terminal}
    (hKeeps : machine.Keeps config cols rows terminal)
    (query : Query) :
    machine.askChecked query = some (terminal.ask query) := by
  rcases hKeeps with ⟨hRobust, rfl, hHeights⟩
  have hSession := hRobust.wellFormed.session
  have hRing :
      ∀ screen,
        (machine.session.grid screen).scrollback.Aligned := by
    intro screen
    cases screen with
    | primary => exact hSession.primary.history.aligned
    | alternate => exact hSession.alternate.history.aligned
  unfold askChecked ask terminal
  cases query with
  | visibleLine y =>
      rw [hHeights]
      exact
        congrArg (Option.map Answer.line)
          (Grid.visibleLineChecked_eq hSession.ring
            hSession.active.rows_eq y)
  | lineAt screen row =>
      dsimp only
      rw [Grid.lineAtChecked_eq (hRing screen)]
      rfl
  | isWrappedAt screen row =>
      dsimp only
      rw [Grid.isWrappedAtChecked_eq (hRing screen)]
      rfl
  | historyLine screen age =>
      dsimp only
      rw [(hRing screen).getChecked_eq]
      rfl
  | history screen =>
      dsimp only
      rw [(hRing screen).toListChecked_eq]
      rfl
  | selectionText =>
      exact
        congrArg (Option.map Answer.selected)
          hSession.selectionTextChecked_eq
  | textOn screen =>
      exact
        congrArg (Option.map Answer.text)
          (hSession.textOnChecked_eq screen)

------------------------------------------------------------
-- Runs
------------------------------------------------------------

/- How a terminal is constructed. -/
inductive Construction where
  | create (cols rows : Nat) (config : Config)
  | createRaised (cols rows : Nat)
  deriving DecidableEq, Repr

/- The terminal that is constructed, unless it is refused. -/
def construct :
    Construction → Except TerminalError Terminal
  | .create cols rows config => create cols rows config
  | .createRaised cols rows => .ok (createRaised cols rows)

/- A machine of a size, before any input. -/
def startChecked
    (cols rows : Nat)
    (config : Config) : Option Machine := do
  let (heights, session) ←
    Session.startChecked cols rows config
  some
    { registers := .start
      parser := .start config.maxStringBytes
      heights := heights
      session := session }

/- A machine of a size, unless it is refused. -/
def createChecked
    (cols rows : Nat)
    (config : Config) :
    Option (Except TerminalError Machine) := do
  if cols = 0 ∨ rows = 0 then
    return .error (.invalidSize cols rows)
  else
    match config.validate with
    | .error reason => return .error (.config reason)
    | .ok () =>
      let machine ← startChecked cols rows config
      return .ok machine

/- The machine that is constructed, unless it is refused. -/
def constructChecked :
    Construction → Option (Except TerminalError Machine)
  | .create cols rows config => createChecked cols rows config
  | .createRaised cols rows =>
    (startChecked (max cols 1) (max rows 1) .default).map .ok

/- What is done with a terminal. -/
inductive Use where
  | operate (operation : Operation)
  | ask (query : Query)
  deriving DecidableEq, Repr

/- What comes of a use. -/
inductive Outcome where
  | reply (reply : Reply)
  | answer (answer : Answer)
  deriving Repr

section

variable [TextLibrary]

/- The terminal after a use, and what comes of it. -/
def use
    (terminal : Terminal) :
    Use → Terminal × Outcome
  | .operate operation =>
    let (performed, reply) := terminal.perform operation
    (performed, .reply reply)
  | .ask query => (terminal, .answer (terminal.ask query))

/- Use a terminal several times. -/
def useAll
    (terminal : Terminal) :
    List Use → Terminal × List Outcome
  | [] => (terminal, [])
  | first :: uses =>
    let (used, outcome) := terminal.use first
    let (last, outcomes) := used.useAll uses
    (last, outcome :: outcomes)

/- Construct a terminal, and use it several times. -/
def run
    (construction : Construction)
    (uses : List Use) :
    Except TerminalError (Terminal × List Outcome) :=
  (construct construction).map (·.useAll uses)

/- The machine after a use, and what comes of it. -/
def Machine.useChecked
    (machine : Machine) :
    Use → Option (Machine × Outcome)
  | .operate operation => do
    let (performed, reply) ← machine.performChecked operation
    return (performed, .reply reply)
  | .ask query => do
    let answer ← machine.askChecked query
    return (machine, .answer answer)

/- Use a machine several times. -/
def Machine.useAllChecked
    (machine : Machine) :
    List Use → Option (Machine × List Outcome)
  | [] => some (machine, [])
  | first :: uses => do
    let (used, outcome) ← machine.useChecked first
    let (last, outcomes) ← used.useAllChecked uses
    return (last, outcome :: outcomes)

/- Construct a machine, and use it several times. -/
def runChecked
    (construction : Construction)
    (uses : List Use) :
    Option (Except TerminalError (Machine × List Outcome)) := do
  match ← constructChecked construction with
  | .error error => return .error error
  | .ok machine =>
    let used ← machine.useAllChecked uses
    return .ok used

end

/- A machine starts as the terminal does. -/
theorem startChecked_keeps
    {cols rows : Nat}
    (hCols : 0 < cols)
    (hRows : 0 < rows)
    {config : Config}
    (hConfig : config.validate = .ok ()) :
    ∃ machine,
      startChecked cols rows config = some machine ∧
        machine.Keeps config cols rows
          (start cols rows config) := by
  have hWidth := tabWidth_pos_of_validate hConfig
  exact
    ⟨_,
      Checked.bind_eq
        (Session.startChecked_eq hRows hWidth cols),
      robust_start hCols hRows hConfig, rfl, rfl⟩

/- What is refused is refused, and the rest is constructed. -/
theorem constructChecked_follows
    (construction : Construction) :
    (∃ error,
        constructChecked construction = some (.error error) ∧
          construct construction = .error error) ∨
      ∃ config cols rows machine terminal,
        constructChecked construction = some (.ok machine) ∧
          construct construction = .ok terminal ∧
            machine.Keeps config cols rows terminal := by
  cases construction with
  | create cols rows config =>
      unfold constructChecked construct createChecked create
      dsimp only
      split
      · exact .inl ⟨_, rfl, rfl⟩
      · rename_i hSize
        cases hConfig : config.validate with
        | error reason => exact .inl ⟨_, rfl, rfl⟩
        | ok =>
            have hCols : 0 < cols := by omega
            have hRows : 0 < rows := by omega
            rcases startChecked_keeps hCols hRows hConfig with
              ⟨machine, hStart, hKeeps⟩
            exact
              .inr
                ⟨config, cols, rows, machine, _,
                  Checked.bind_eq hStart, rfl, hKeeps⟩
  | createRaised cols rows =>
      have hCols : 0 < max cols 1 := by omega
      have hRows : 0 < max rows 1 := by omega
      rcases startChecked_keeps hCols hRows validate_default with
        ⟨machine, hStart, hKeeps⟩
      exact
        .inr
          ⟨_, _, _, machine, _,
            congrArg (Option.map Except.ok) hStart, rfl,
            hKeeps⟩

namespace Machine

section

variable [TextLibrary]
variable {config : Config} {cols rows : Nat}
  {machine : Machine} {terminal : Terminal}
  (hKeeps : machine.Keeps config cols rows terminal)

include hKeeps

theorem Keeps.useChecked
    (use : Use) :
    ∃ next cols' rows',
      machine.useChecked use =
          some (next, (terminal.use use).2) ∧
        next.Keeps config cols' rows'
          (terminal.use use).1 := by
  cases use with
  | operate operation =>
      rcases hKeeps.performChecked operation with
        ⟨next, hNext, hKept⟩
      exact ⟨next, _, _, Checked.bind_eq hNext, hKept⟩
  | ask query =>
      exact
        ⟨machine, _, _,
          Checked.bind_eq (hKeeps.askChecked_eq query), hKeeps⟩

theorem Keeps.useAllChecked
    (uses : List Use) :
    ∃ last cols' rows',
      machine.useAllChecked uses =
          some (last, (terminal.useAll uses).2) ∧
        last.Keeps config cols' rows'
          (terminal.useAll uses).1 := by
  induction uses generalizing machine terminal cols rows with
  | nil => exact ⟨machine, _, _, rfl, hKeeps⟩
  | cons first uses hRest =>
      rcases hKeeps.useChecked first with
        ⟨next, _, _, hNext, hKept⟩
      rcases hRest hKept with ⟨last, _, _, hLast, hLasting⟩
      exact
        ⟨last, _, _,
          (Checked.bind_eq hNext).trans
            (Checked.bind_eq hLast),
          hLasting⟩

end

/- Both screens have as many rows as they are held to have. -/
theorem Keeps.heights_eq_rows
    {config : Config}
    {cols rows : Nat}
    {machine : Machine}
    {terminal : Terminal}
    (hKeeps : machine.Keeps config cols rows terminal)
    (screen : Screen) :
    machine.heights screen =
      (terminal.session.grid screen).rows := by
  have hSession := hKeeps.robust.wellFormed.session
  rw [hKeeps.heights_eq]
  cases screen with
  | primary => exact hSession.primary.rows_eq.symm
  | alternate => exact hSession.alternate.rows_eq.symm

end Machine

/-
  No run faults, whatever it consists of.  The machine that it
  leads to is the terminal that is defined, and answers the
  same all the way.
-/
theorem runChecked_never_faults
    [TextLibrary]
    (construction : Construction)
    (uses : List Use) :
    (runChecked construction uses).map
        (·.map fun (machine, outcomes) =>
          (machine.terminal, outcomes)) =
      some (run construction uses) := by
  unfold runChecked run
  rcases constructChecked_follows construction with
    ⟨error, hChecked, hRefused⟩ |
      ⟨config, cols, rows, machine, terminal, hChecked,
        hConstructed, hKeeps⟩
  · rw [hChecked, hRefused]
    rfl
  · rcases hKeeps.useAllChecked uses with
      ⟨last, _, _, hLast, hKept⟩
    rw [hChecked, hConstructed]
    simp only [Option.bind_eq_bind, Option.bind_some]
    rw [hLast]
    show some (Except.ok (last.terminal, _)) = _
    rw [hKept.terminal_eq]
    rfl

/-
  All along, both screens have as many rows as they are held
  to have.
-/
theorem heights_of_runChecked
    [TextLibrary]
    {construction : Construction}
    {uses : List Use}
    {machine : Machine}
    {outcomes : List Outcome}
    (hRun :
      runChecked construction uses =
        some (.ok (machine, outcomes)))
    (screen : Screen) :
    machine.heights screen =
      (machine.session.grid screen).rows := by
  unfold runChecked at hRun
  rcases constructChecked_follows construction with
    ⟨error, hChecked, _⟩ |
      ⟨config, cols, rows, first, terminal, hChecked, _,
        hKeeps⟩
  · rw [hChecked] at hRun
    cases hRun
  · rcases hKeeps.useAllChecked uses with
      ⟨last, _, _, hLast, hKept⟩
    rw [hChecked] at hRun
    simp only [Option.bind_eq_bind, Option.bind_some] at hRun
    rw [hLast] at hRun
    cases hRun
    rw [hKept.heights_eq_rows, ← hKept.terminal_eq]
    rfl

end Terminal

end VideoTerminal
