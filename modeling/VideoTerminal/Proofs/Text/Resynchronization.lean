import VideoTerminal.Proofs.Text.Sequences

/-
  The decoder finds its way back into the text.  In the middle
  of a sequence it awaits a byte that continues one, and no
  character begins with such a byte.  So whatever has been
  read before, what is encoded afterwards is decoded in full,
  and a sequence that it breaks off shows once.

  Main declarations:
    * `Utf8.isContinuation`
    * `Utf8.Decoder.AwaitsContinuation`
    * `Utf8.Decoder.brokenOff`
    * `Utf8.WellFormed.exists_cons`
    * `Utf8.pushAll_encodeAll_after`
-/

namespace VideoTerminal

namespace Utf8

------------------------------------------------------------
-- Continuation Bytes
------------------------------------------------------------

/- A byte that can only continue a sequence. -/
def isContinuation
    (byte : UInt8) : Bool :=
  decide (0x80 ≤ byte.toNat ∧ byte.toNat ≤ 0xBF)

/- No character begins with a byte that continues one. -/
theorem WellFormed.exists_cons
    {bytes : List UInt8}
    (hBytes : WellFormed bytes) :
    ∃ byte rest,
      bytes = byte :: rest ∧ isContinuation byte = false := by
  rcases hBytes with ⟨row, hRow, hMatch⟩
  have hLimits :
      ∀ row ∈ table,
        row ≠ [] ∧
          ((row.headD (0, 0)).2 < 0x80 ∨
            0xBF < (row.headD (0, 0)).1) := by
    decide
  rcases hLimits row hRow with ⟨hSome, hLimit⟩
  cases hMatch with
  | nil => exact absurd rfl hSome
  | @cons range byte ranges rest hByte _ =>
      rcases hByte with ⟨hLow, hHigh⟩
      rw [List.headD_cons] at hLimit
      exact ⟨byte, rest, rfl, decide_eq_false (by omega)⟩

------------------------------------------------------------
-- What the Decoder Awaits
------------------------------------------------------------

/-
  In the middle of a sequence only a byte that continues one
  is accepted.
-/
def Decoder.AwaitsContinuation
    (decoder : Decoder) : Prop :=
  ∀ sequence ∈ decoder.pending,
    0x80 ≤ sequence.lower ∧ sequence.upper ≤ 0xBF

theorem awaitsContinuation_start :
    Decoder.start.AwaitsContinuation :=
  nofun

theorem awaitsContinuation_some
    {sequence : Pending}
    (hRange : 0x80 ≤ sequence.lower ∧ sequence.upper ≤ 0xBF) :
    Decoder.AwaitsContinuation ⟨some sequence⟩ := by
  intro other hOther
  rw [← Option.mem_some_iff.mp hOther]
  exact hRange

theorem awaitsContinuation_lead
    (byte : UInt8) :
    (lead byte).1.AwaitsContinuation := by
  rcases lead_cases byte with
    ⟨_, hLead⟩ | ⟨sequence, hLead, ⟨range, hRow, _⟩, _⟩ |
      ⟨_, hLead⟩
  · rw [hLead]
    exact awaitsContinuation_start
  · have hTails :
        ∀ row ∈ table, ∀ range ∈ row.tail,
          0x80 ≤ range.1 ∧ range.2 ≤ 0xBF := by
      decide
    rw [hLead]
    exact
      awaitsContinuation_some
        (hTails _ hRow (sequence.lower, sequence.upper)
          List.mem_cons_self)
  · rw [hLead]
    exact awaitsContinuation_start

theorem awaitsContinuation_push
    (decoder : Decoder)
    (byte : UInt8) :
    (decoder.push byte).1.AwaitsContinuation := by
  rcases decoder with ⟨_ | sequence⟩
  · exact awaitsContinuation_lead byte
  · unfold Decoder.push
    dsimp only
    split
    · exact awaitsContinuation_lead byte
    · split
      · exact awaitsContinuation_start
      · exact
          awaitsContinuation_some
            ⟨Nat.le_refl _, Nat.le_refl _⟩

theorem Decoder.AwaitsContinuation.pushAll
    {decoder : Decoder}
    (hDecoder : decoder.AwaitsContinuation)
    (bytes : List UInt8) :
    (decoder.pushAll bytes).1.AwaitsContinuation := by
  induction bytes generalizing decoder with
  | nil => exact hDecoder
  | cons byte bytes hRest =>
      exact hRest (awaitsContinuation_push decoder byte)

------------------------------------------------------------
-- Back into the Text
------------------------------------------------------------

/- What shows of a sequence that is broken off. -/
def Decoder.brokenOff
    (decoder : Decoder) : List Char :=
  if decoder.isPending then [replacement] else []

section

variable {decoder : Decoder}
  (hDecoder : decoder.AwaitsContinuation)

include hDecoder

/-
  A byte that does not continue a sequence breaks off what is
  pending, and is read as if nothing had been.
-/
theorem Decoder.AwaitsContinuation.pushAll_cons
    {byte : UInt8}
    (hByte : isContinuation byte = false)
    (bytes : List UInt8) :
    decoder.pushAll (byte :: bytes) =
      ((Decoder.start.pushAll (byte :: bytes)).1,
        decoder.brokenOff ++
          (Decoder.start.pushAll (byte :: bytes)).2) := by
  have hStart : Decoder.start.push byte = lead byte := rfl
  rw [Decoder.pushAll_cons, Decoder.pushAll_cons, hStart]
  rcases decoder with ⟨_ | sequence⟩
  · rfl
  · have hRange := hDecoder sequence rfl
    have hOutside :
        ¬Within (sequence.lower, sequence.upper) byte := by
      have hNot := of_decide_eq_false hByte
      unfold Within
      omega
    rw [push_outside hOutside]
    rfl

theorem Decoder.AwaitsContinuation.pushAll_encodeAll
    (c : Char)
    (chars : List Char) :
    decoder.pushAll (encodeAll (c :: chars)) =
      (.start, decoder.brokenOff ++ c :: chars) := by
  rcases (wellFormed_encode c).1.exists_cons with
    ⟨byte, rest, hEncoded, hByte⟩
  have hBytes :
      encodeAll (c :: chars) =
        byte :: (rest ++ encodeAll chars) := by
    unfold encodeAll
    rw [List.flatMap_cons, hEncoded, List.cons_append]
  have hDecoded := Utf8.pushAll_encodeAll (c :: chars)
  rw [hBytes] at hDecoded
  rw [hBytes, hDecoder.pushAll_cons hByte, hDecoded]

end

/-
  Whatever bytes have come before, some encoded characters are
  decoded in full.  A replacement character stands in front of
  them exactly if a sequence was left unfinished, and nothing
  is left unfinished afterwards.
-/
theorem pushAll_encodeAll_after
    (before : List UInt8)
    (c : Char)
    (chars : List Char) :
    let decoder := (Decoder.start.pushAll before).1
    decoder.pushAll (encodeAll (c :: chars)) =
      (.start,
        (if decoder.isPending then [replacement] else []) ++
          c :: chars) :=
  (awaitsContinuation_start.pushAll before).pushAll_encodeAll
    c chars

end Utf8

end VideoTerminal
