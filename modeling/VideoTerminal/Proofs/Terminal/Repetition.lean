import VideoTerminal.Proofs.Terminal.Printing
import VideoTerminal.Proofs.Terminal.Sequences
import VideoTerminal.Text.Linked

/-
  The sequence that repeats the last character.  What is kept
  of a character is its substitute, which is substituted again
  when it is repeated; no set substitutes for its substitutes,
  and so repeating a character is the same as typing it.

  Main declarations:
    * `Charset.substitute_substitute`
    * `Session.writeCharTimes_substitute`
    * `Terminal.repeatRequest`
    * `Terminal.process_typed`
    * `Terminal.RepeatsTyping`
    * `Terminal.repeatsTyping_of_shown`
-/

namespace VideoTerminal

------------------------------------------------------------
-- Substitutes
------------------------------------------------------------

theorem Charset.substitute_lineDrawingChars :
    ∀ c ∈ lineDrawingChars, lineDrawing.substitute c = c :=
  List.all_iff_forall_prop.mp (by decide)

/- A set leaves the characters that it substitutes alone. -/
theorem Charset.substitute_substitute
    (charset : Charset)
    (c : Char) :
    charset.substitute (charset.substitute c) =
      charset.substitute c := by
  cases charset with
  | ascii => rfl
  | british =>
      by_cases hHash : c = '#'
      · rw [hHash]
        rfl
      · have hKept : british.substitute c = c := if_neg hHash
        rw [hKept, hKept]
  | lineDrawing =>
      by_cases hFirst : '_'.toNat ≤ c.toNat
      · have hOnce :
            lineDrawing.substitute c =
              (lineDrawingChars[c.toNat - '_'.toNat]?).getD
                c :=
          if_pos hFirst
        cases hDrawn :
            lineDrawingChars[c.toNat - '_'.toNat]? with
        | none =>
            have hKept : lineDrawing.substitute c = c := by
              rw [hOnce, hDrawn, Option.getD_none]
            rw [hKept, hKept]
        | some drawn =>
            rw [hOnce, hDrawn, Option.getD_some]
            exact
              substitute_lineDrawingChars drawn
                (List.mem_of_getElem? hDrawn)
      · have hKept : lineDrawing.substitute c = c :=
          if_neg hFirst
        rw [hKept, hKept]

namespace Session

------------------------------------------------------------
-- Writing a Substitute
------------------------------------------------------------

section

variable [TextLibrary]

section

variable (session : Session) (c : Char)

theorem charsets_writeChar :
    (session.writeChar c).charsets = session.charsets :=
  congrArg Manner.charsets
    (unwritten_manner.writeChar session c)

theorem writeChar_substitute :
    session.writeChar (session.charsets.substitute c) =
      session.writeChar c := by
  have hSubstitute :
      session.charsets.substitute
          (session.charsets.substitute c) =
        session.charsets.substitute c :=
    Charset.substitute_substitute _ c
  unfold writeChar
  rw [hSubstitute]

/- Writing keeps the sets that the next character goes by. -/
theorem writeCharTimes_substitute
    (n : Nat) :
    session.writeCharTimes (session.charsets.substitute c) n =
      session.writeCharTimes c n := by
  induction n generalizing session with
  | zero => rfl
  | succ n hRest =>
      unfold writeCharTimes
      rw [writeChar_substitute, ← session.charsets_writeChar c]
      exact hRest (session.writeChar c)

theorem foldl_handle_print
    (n : Nat) :
    (List.replicate n (Event.print c)).foldl handle session =
      session.writeCharTimes c n := by
  induction n generalizing session with
  | zero => rfl
  | succ n hRest => exact hRest (session.writeChar c)

end

section

variable {session : Session} {c : Char} {width : Nat}
  (hWidth :
    TextLibrary.displayWidth (session.charsets.substitute c) =
      some width)
  (hSome : 0 < width)
  (hFits : width ≤ session.cols)

include hWidth hSome hFits

theorem lastPrinted_writeChar :
    (session.writeChar c).lastPrinted =
      some (session.charsets.substitute c) := by
  rw [writeChar_eq hWidth hSome hFits]
  rfl

theorem repeatLast_writeChar
    (n : Nat) :
    (session.writeChar c).repeatLast n =
      session.writeCharTimes c (n + 1) := by
  unfold repeatLast
  rw [lastPrinted_writeChar hWidth hSome hFits]
  dsimp only
  rw [← session.charsets_writeChar c,
    writeCharTimes_substitute]
  rfl

end

end

end Session

namespace Terminal

------------------------------------------------------------
-- The Sequence
------------------------------------------------------------

/- The sequence that repeats the last character. -/
def repeatRequest
    (introducer : Introducer)
    (n : Nat) : List UInt8 :=
  Utf8.encodeAll
    (introducer.lead ::
      (introducer.rest ++ Nat.toDigits 10 n ++ ['b']))

/- The request as a control sequence. -/
def repetition
    (introducer : Introducer)
    (n : Nat) : ControlSequence where
  introducer := introducer
  marker := none
  parameters := ⟨numeral n, []⟩
  intermediate := none
  final := 'b'
  isMarker := isMarker_none
  isIntermediate := isIntermediate_none
  isFinal := by decide

theorem bytes_repetition
    (introducer : Introducer)
    (n : Nat) :
    (repetition introducer n).bytes =
      repeatRequest introducer n := by
  unfold ControlSequence.bytes repeatRequest
  apply congrArg Utf8.encodeAll
  simp [repetition, ControlSequence.body,
    ParameterText.chars, numeral]

example :
    repeatRequest .escape 6 = [0x1B, 0x5B, 0x36, 0x62] := by
  decide

section

variable [TextLibrary]

theorem handleSequence_repetition
    (introducer : Introducer)
    {n : Nat}
    (hSome : 0 < n)
    (hMost : n ≤ Parameters.maxValue)
    (session : Session) :
    session.handleSequence (repetition introducer n) =
      session.repeatLast n := by
  have hCount :
      (repetition introducer n).kept.count 0 = n := by
    rw [Parameters.count_eq, Parameters.getD,
      Parameters.get?_eq, ControlSequence.items_kept]
    unfold repetition
    rw [written_numeral hMost]
    exact Nat.max_eq_right hSome
  unfold Session.handleSequence
  rw [(repetition introducer n).finishSequence_kept]
  show
    session.repeatLast
      ((repetition introducer n).kept.count 0) = _
  rw [hCount]

------------------------------------------------------------
-- Typing and Repeating
------------------------------------------------------------

section

variable {terminal : Terminal}
  (hDecoder : terminal.decoder = .start)
  (hGround : terminal.parser.state = .ground)

include hDecoder hGround

/- With nothing read in part, a character is just written. -/
theorem process_typed
    {c : Char}
    (hControl : Parser.isControl c = false)
    (n : Nat) :
    terminal.process (Utf8.encodeAll (List.replicate n c)) =
      { terminal with
        session := terminal.session.writeCharTimes c n } := by
  have hText :
      ∀ other ∈ List.replicate n c,
        Parser.isControl other = false := by
    intro other hMem
    rw [List.eq_of_mem_replicate hMem]
    exact hControl
  have hPushed :
      terminal.decoder.pushAll
          (Utf8.encodeAll (List.replicate n c)) =
        (.start, List.replicate n c) := by
    rw [hDecoder]
    exact Utf8.pushAll_encodeAll _
  rw [process_eq]
  unfold events
  rw [hPushed, Parser.run_text hGround hText,
    List.map_replicate, Session.foldl_handle_print]
  rcases terminal with ⟨decoder, parser, session⟩
  cases hDecoder
  rfl

/- So is a sequence just acted on, however it begins. -/
theorem process_repeatRequest
    (introducer : Introducer)
    {n : Nat}
    (hSome : 0 < n)
    (hMost : n ≤ Parameters.maxValue) :
    (terminal.process (repeatRequest introducer n)).inUse =
      (.start, terminal.parser.reader,
        terminal.session.repeatLast n) := by
  have hPushed :
      terminal.decoder.pushAll
          (repetition introducer n).bytes =
        (.start,
          [] ++
            (repetition introducer n).introducer.lead ::
              ((repetition introducer n).body ++
                [(repetition introducer n).final])) := by
    rw [hDecoder]
    exact Utf8.pushAll_encodeAll _
  have hReader :
      terminal.parser.reader =
        ⟨.ground, terminal.parser.maxStringBytes⟩ :=
    congrArg (Reader.mk · _) hGround
  rw [← bytes_repetition, process_of_pushAll hPushed, hReader]
  show (_, _, terminal.session.handleSequence _) = _
  rw [handleSequence_repetition introducer hSome hMost]

end

/-
  A character is printed, and together with the sequence that
  repeats it leaves the terminal with all that the character
  leaves it with when it is typed once more than it is
  repeated.
-/
structure RepeatsTyping
    (terminal : Terminal)
    (c : Char)
    (introducer : Introducer)
    (n : Nat) : Prop where
  printed :
    (terminal.process (Utf8.encode c)).session.lastPrinted =
      some (terminal.session.charsets.substitute c)
  repeated :
    (terminal.process
        (Utf8.encode c ++ repeatRequest introducer n)).inUse =
      (terminal.process
        (Utf8.encodeAll (List.replicate (n + 1) c))).inUse

/-
  Whatever the character sets, the modes and the margins are,
  repeating a character that the screen has room for is the
  same as typing it.
-/
theorem repeatsTyping_of_shown
    {terminal : Terminal}
    (hDecoder : terminal.decoder = .start)
    (hGround : terminal.parser.state = .ground)
    {c : Char}
    (hControl : Parser.isControl c = false)
    {width : Nat}
    (hWidth :
      TextLibrary.displayWidth
          (terminal.session.charsets.substitute c) =
        some width)
    (hWide : 0 < width)
    (hFits : width ≤ terminal.session.cols)
    {n : Nat}
    (hSome : 0 < n)
    (hMost : n ≤ Parameters.maxValue)
    (introducer : Introducer) :
    terminal.RepeatsTyping c introducer n := by
  have hTyped := process_typed hDecoder hGround hControl
  have hOnce :
      terminal.process (Utf8.encode c) =
        { terminal with
          session := terminal.session.writeChar c } := by
    rw [← List.append_nil (Utf8.encode c)]
    exact hTyped 1
  refine ⟨?_, ?_⟩
  · rw [hOnce]
    exact Session.lastPrinted_writeChar hWidth hWide hFits
  · calc
      (terminal.process
          (Utf8.encode c ++
            repeatRequest introducer n)).inUse =
        ((terminal.process (Utf8.encode c)).process
          (repeatRequest introducer n)).inUse :=
          congrArg inUse (process_append terminal _ _)
      _ =
        (.start, terminal.parser.reader,
          (terminal.session.writeChar c).repeatLast n) := by
          rw [hOnce]
          exact
            @process_repeatRequest _
              { terminal with
                session := terminal.session.writeChar c }
              hDecoder hGround introducer n hSome hMost
      _ =
        (.start, terminal.parser.reader,
          terminal.session.writeCharTimes c (n + 1)) := by
          rw [Session.repeatLast_writeChar hWidth hWide hFits]
      _ =
        (terminal.process
          (Utf8.encodeAll
            (List.replicate (n + 1) c))).inUse := by
          rw [hTyped (n + 1), inUse, hDecoder]

end

/-
  In origin mode and insert mode, with the line drawing
  characters in use, before the last column of the row at the
  bottom of the scroll region.
-/
def drawing : Terminal :=
  (createRaised 4 3).performAll
    [.setScrollRegion 0 1,
      .process
        [0x1B, 0x5B, 0x3F, 0x36, 0x68, 0x1B, 0x5B, 0x34,
          0x68, 0x1B, 0x28, 0x30, 0x0A, 0x61, 0x62, 0x63]]

theorem repeatsTyping_drawing :
    TextLibrary.displayWidth
        (drawing.session.charsets.substitute 'x') = some 1 ∧
      drawing.RepeatsTyping 'x' .escape 6 := by
  have hWidth :
      TextLibrary.displayWidth
          (drawing.session.charsets.substitute 'x') =
        some 1 := by
    decide +kernel
  refine ⟨hWidth, ?_⟩
  exact
    repeatsTyping_of_shown (by decide +kernel)
      (by decide +kernel) (by decide) hWidth (by decide)
      (by decide +kernel) (by decide) (by decide) .escape

end Terminal

end VideoTerminal
