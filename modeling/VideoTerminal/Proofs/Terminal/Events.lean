import VideoTerminal.Proofs.Control.Reader
import VideoTerminal.Proofs.Session.WellFormed
import VideoTerminal.Proofs.Text.Sequences
import VideoTerminal.Terminal.Basic

/-
  What a terminal does with bytes that it reads: it handles
  the events in them, which do not depend on its session.

  Main declarations:
    * `Session.handleAll_replacement`
    * `Terminal.events`
    * `Terminal.process_eq`
    * `Terminal.inUse`
    * `Terminal.inUse_process`
    * `Terminal.events_cons`
-/

namespace VideoTerminal

------------------------------------------------------------
-- Characters and Events
------------------------------------------------------------

theorem Session.WellFormed.handleAll
    [TextLibrary]
    {config : Config}
    {cols rows : Nat}
    {session : Session}
    (hSession : session.WellFormed config cols rows)
    (events : List Event) :
    (events.foldl Session.handle session).WellFormed config
      cols rows := by
  induction events generalizing session with
  | nil => exact hSession
  | cons event events hRest => exact hRest (hSession.handle event)

/-
  A replacement character completes no sequence that acts: it
  is written, or nothing comes of it.
-/
theorem Session.handleAll_replacement
    [TextLibrary]
    (parser : Parser)
    (session : Session) :
    let shown :=
      (parser.run [Utf8.replacement]).2.foldl handle session
    shown = session ∨
      shown = session.writeChar Utf8.replacement := by
  rw [parser.events_run]
  rcases parser.reader with ⟨state, maxStringBytes⟩
  cases state with
  | ground => exact Or.inr rfl
  | escape interrupted =>
      cases interrupted <;> exact Or.inl rfl
  | escapeIntermediate intermediate =>
      left
      show
        session.performEscape (some intermediate)
          Utf8.replacement = session
      unfold performEscape
      split
      · rfl
      · rfl
      · split <;> rfl
  | parameters params => exact Or.inl rfl
  | string kind payload => exact Or.inl rfl

namespace Terminal

------------------------------------------------------------
-- Events in the Input
------------------------------------------------------------

/- What a terminal recognises in bytes that it reads. -/
def events
    (terminal : Terminal)
    (bytes : List UInt8) : List Event :=
  (terminal.parser.run
    (terminal.decoder.pushAll bytes).2).2

section

variable [TextLibrary]

theorem readChars_eq
    (terminal : Terminal)
    (chars : List Char) :
    chars.foldl readChar terminal =
      { terminal with
        parser := (terminal.parser.run chars).1
        session :=
          (terminal.parser.run chars).2.foldl Session.handle
            terminal.session } := by
  induction chars generalizing terminal with
  | nil => rfl
  | cons c chars hRest =>
      rw [List.foldl_cons, hRest, Parser.run_cons,
        List.foldl_append]
      unfold readChar
      dsimp only
      cases (terminal.parser.step c).2 <;> rfl

/-
  Reading bytes handles the events in them, one after the
  other.
-/
theorem process_eq
    (terminal : Terminal)
    (bytes : List UInt8) :
    terminal.process bytes =
      { decoder := (terminal.decoder.pushAll bytes).1
        parser :=
          (terminal.parser.run
            (terminal.decoder.pushAll bytes).2).1
        session :=
          (terminal.events bytes).foldl Session.handle
            terminal.session } := by
  unfold events
  induction bytes generalizing terminal with
  | nil => rfl
  | cons byte bytes hRest =>
      show (terminal.readByte byte).process bytes = _
      rw [hRest, Utf8.Decoder.pushAll_cons, Parser.run_append,
        List.foldl_append]
      unfold readByte
      dsimp only
      rw [readChars_eq]

/-
  All that a terminal goes on with.  What its parser has left
  behind does not count.
-/
def inUse
    (terminal : Terminal) :
    Utf8.Decoder × Reader × Session :=
  (terminal.decoder, terminal.parser.reader,
    terminal.session)

theorem inUse_process
    (terminal : Terminal)
    (bytes : List UInt8) :
    (terminal.process bytes).inUse =
      ((terminal.decoder.pushAll bytes).1,
        (terminal.parser.reader.run
          (terminal.decoder.pushAll bytes).2).1,
        (terminal.parser.reader.run
            (terminal.decoder.pushAll bytes).2).2.foldl
          Session.handle terminal.session) := by
  rw [process_eq, Parser.reader_run]
  rfl

/- Terminals that go on with the same stay the same in that. -/
theorem inUse_process_of_eq
    {terminal terminal' : Terminal}
    (hSame : terminal.inUse = terminal'.inUse)
    (bytes : List UInt8) :
    (terminal.process bytes).inUse =
      (terminal'.process bytes).inUse := by
  unfold inUse at hSame
  simp only [Prod.mk.injEq] at hSame
  rcases hSame with ⟨hDecoder, hReader, hSession⟩
  rw [inUse_process, inUse_process, hDecoder, hReader,
    hSession]

theorem events_cons
    (terminal : Terminal)
    (byte : UInt8)
    (bytes : List UInt8) :
    terminal.events (byte :: bytes) =
      terminal.events [byte] ++
        (terminal.process [byte]).events bytes := by
  rw [process_eq]
  unfold events
  rw [Utf8.Decoder.pushAll_cons _ byte bytes,
    Utf8.Decoder.pushAll_singleton, Parser.run_append]

end

end Terminal

end VideoTerminal
