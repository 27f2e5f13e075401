import VideoTerminal.Proofs.Control.Sequence
import VideoTerminal.Proofs.Terminal.Events
import VideoTerminal.Proofs.Terminal.Reset

/-
  Control sequences as an application sends them: the terminal
  acts on one whatever it has read in part, of which no more
  shows than a replacement character.

  Main declarations:
    * `Reader.run_sequence`
    * `ControlSequence.bytes`
    * `Session.handleSequence`
    * `Terminal.numeral`
    * `Terminal.written_numeral`
    * `Terminal.process_of_pushAll`
    * `Terminal.process_sequence`
-/

namespace VideoTerminal

namespace Reader

open VideoTerminal.Parser (State finishSequence)

------------------------------------------------------------
-- Reading a Sequence
------------------------------------------------------------

theorem Silent.run_eq
    {maxBytes : Nat}
    {state last : State}
    {chars : List Char}
    (hSilent : Silent maxBytes state chars last) :
    run ⟨state, maxBytes⟩ chars = (⟨last, maxBytes⟩, []) := by
  induction hSilent with
  | nil _ => rfl
  | cons _ hNext _ hRest =>
      rw [run_cons]
      unfold step
      dsimp only
      rw [hNext, hRest]
      rfl

/- Whatever the reader is in the middle of. -/
theorem run_sequence
    (reader : Reader)
    (sequence : ControlSequence) :
    reader.run
        (sequence.introducer.lead ::
          (sequence.body ++ [sequence.final])) =
      ({ reader with state := .ground },
        (finishSequence sequence.kept
          sequence.final).toList) := by
  rw [← List.nil_append (finishSequence _ _).toList]
  apply reader.run_of_body
  exact fun _ hBody => hBody.run_eq

end Reader

------------------------------------------------------------
-- Sequences in the Input
------------------------------------------------------------

/- The bytes that a control sequence is sent as. -/
def ControlSequence.bytes
    (sequence : ControlSequence) : List UInt8 :=
  Utf8.encodeAll
    (sequence.introducer.lead ::
      (sequence.body ++ [sequence.final]))

/- The session after a sequence, if that is a known one. -/
def Session.handleSequence
    [TextLibrary]
    (session : Session)
    (sequence : ControlSequence) : Session :=
  (Parser.finishSequence sequence.kept
    sequence.final).elim session session.handle

namespace Terminal

------------------------------------------------------------
-- What Sequences Are Written With
------------------------------------------------------------

/- The digits of a number. -/
def numeral
    (n : Nat) : Numeral where
  digits := Nat.toDigits 10 n
  isDigit := fun _ hMem =>
    Nat.isDigit_of_mem_toDigits (by decide : 0 < 10)
      (by decide) hMem

theorem value?_numeral
    {n : Nat}
    (hMost : n ≤ Parameters.maxValue) :
    (numeral n).value? = some n := by
  have hDigits : Nat.toDigits 10 n ≠ [] :=
    Nat.toDigits_ne_nil
  unfold Numeral.value? numeral
  rw [if_neg hDigits, Nat.ofDigitChars_toDigits (by decide)
      (by decide),
    Nat.min_eq_left hMost]

/- Parameters of which the first one is a number. -/
theorem written_numeral
    {n : Nat}
    (hMost : n ≤ Parameters.maxValue)
    (others : List (Bool × Numeral)) :
    (ParameterText.mk (numeral n) others).written =
      ⟨some n, false⟩ ::
        others.map ParameterText.parameter := by
  have hSome :
      (ParameterText.mk (numeral n) others).chars ≠ [] :=
    List.append_ne_nil_of_left_ne_nil Nat.toDigits_ne_nil _
  unfold ParameterText.written
  rw [if_neg hSome]
  simp only [ParameterText.parameter, value?_numeral hMost]

theorem isMarker_none :
    ∀ c ∈ (none : Option Char), c ∈ ['<', '=', '>', '?'] := by
  intro c hMarker
  cases hMarker

theorem isIntermediate_none :
    ∀ c ∈ (none : Option Char), Parser.isIntermediate c := by
  intro c hIntermediate
  cases hIntermediate

------------------------------------------------------------
-- Acting on a Sequence
------------------------------------------------------------

/- What is broken off is read before the sequence acts. -/
theorem process_of_pushAll
    [TextLibrary]
    {terminal : Terminal}
    {sequence : ControlSequence}
    {broken : List Char}
    (hPushed :
      terminal.decoder.pushAll sequence.bytes =
        (.start,
          broken ++
            sequence.introducer.lead ::
              (sequence.body ++ [sequence.final]))) :
    (terminal.process sequence.bytes).inUse =
      (.start,
        ⟨.ground, terminal.parser.maxStringBytes⟩,
        ((terminal.parser.run broken).2.foldl
          Session.handle
            terminal.session).handleSequence sequence) := by
  have hBytes := terminal.parser.maxStringBytes_run broken
  rw [inUse_process, hPushed, Reader.run_append,
    Parser.reader_run, Reader.run_sequence,
    List.foldl_append, ← hBytes]
  unfold Session.handleSequence
  cases Parser.finishSequence sequence.kept
    sequence.final <;> rfl

/-
  A sequence that begins with an escape character breaks off
  what the decoder and the parser have read in part.
-/
theorem process_sequence
    [TextLibrary]
    {terminal : Terminal}
    (hDecoder :
      ∀ sequence ∈ terminal.decoder.pending,
        0x80 ≤ sequence.lower)
    {sequence : ControlSequence}
    (hEscape : sequence.introducer = .escape) :
    ∃ broken,
      (broken = [] ∨
        broken = [Utf8.replacement] ∧
          terminal.decoder.isPending) ∧
        (terminal.process sequence.bytes).decoder = .start ∧
          (terminal.process sequence.bytes).session =
            ((terminal.parser.run broken).2.foldl
              Session.handle
                terminal.session).handleSequence
                  sequence := by
  rcases push_escape hDecoder with ⟨broken, hPush, hBroken⟩
  have hLead : sequence.introducer.lead = '\x1B' := by
    rw [hEscape]
    rfl
  have hBytes :
      sequence.bytes =
        0x1B ::
          Utf8.encodeAll
            (sequence.body ++ [sequence.final]) := by
    unfold ControlSequence.bytes
    rw [hLead]
    rfl
  have hPushed :
      terminal.decoder.pushAll sequence.bytes =
        (.start,
          broken ++
            sequence.introducer.lead ::
              (sequence.body ++ [sequence.final])) := by
    rw [hBytes, Utf8.Decoder.pushAll_cons, hPush,
      Utf8.pushAll_encodeAll, hLead, List.append_assoc]
    rfl
  have hProcessed := process_of_pushAll hPushed
  exact
    ⟨broken, hBroken, congrArg Prod.fst hProcessed,
      congrArg (·.2.2) hProcessed⟩

end Terminal

end VideoTerminal
