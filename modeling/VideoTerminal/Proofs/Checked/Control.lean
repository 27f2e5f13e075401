import Mathlib.Tactic.Tauto
import VideoTerminal.Charset
import VideoTerminal.Control.Parser
import VideoTerminal.Proofs.Checked.Operations
import VideoTerminal.Text.Utf8

/-
  The reading of bytes, characters and parameters by
  operations that can fault.  None of them does in a decoder
  whose bits are few enough, which it stays, and in a parser,
  whatever it holds.

  Main declarations:
    * `Utf8.Registers`
    * `Utf8.Registers.pushChecked_eq`
    * `Charsets.substituteChecked_eq`
    * `Parameters.getChecked_eq`
    * `Parameters.subCountChecked_eq`
    * `Parser.stepChecked_eq`
-/

namespace VideoTerminal

namespace Utf8

------------------------------------------------------------
-- Bytes
------------------------------------------------------------

/-
  The fields of a decoder.  `remaining` counts the bytes that
  are still expected of a sequence, and when it is zero the
  others hold what the last sequence has left behind.
-/
structure Registers where
  bits : Nat
  remaining : Nat
  lower : Nat
  upper : Nat
  deriving DecidableEq, Repr

namespace Registers

/- The fields before any input. -/
def start : Registers :=
  ⟨0, 0, 0, 0⟩

/- The decoder that the fields stand for. -/
def decoder
    (registers : Registers) : Decoder :=
  match registers.remaining with
  | 0 => .start
  | later + 1 =>
    ⟨some ⟨registers.bits, later, registers.lower,
      registers.upper⟩⟩

/- Drop what has been read in part. -/
def reset
    (registers : Registers) : Registers :=
  { registers with bits := 0, remaining := 0 }

/- Take over a sequence that has been begun. -/
def load
    (registers : Registers)
    (decoder : Decoder) : Registers :=
  match decoder.pending with
  | none => registers
  | some sequence =>
    ⟨sequence.bits, sequence.later + 1, sequence.lower,
      sequence.upper⟩

/-
  The two slots for the characters that a byte completes.  A
  character that a byte completes after a broken sequence has
  the second one.
-/
def slotsChecked
    (registers : Registers)
    (byte : UInt8) :
    Option (Registers × List (Option Char)) := do
  let n := byte.toNat
  let (next, chars) := lead byte
  if registers.remaining = 0 then
    return (registers.load next, [chars.head?, none])
  else if n < registers.lower ∨ registers.upper < n then
    let char? ← Checked.get [chars.head?, none] 0
    return (registers.reset.load next, [some replacement, char?])
  else
    let shifted ← Checked.shiftLeft 32 registers.bits 6
    let bits := shifted + n % 64
    let remaining ← Checked.sub registers.remaining 1
    let char? :=
      if 0 < remaining then none else some (scalar bits)
    return (⟨bits, remaining, 0x80, 0xBF⟩, [char?, none])

/- Read one byte, and take the characters out of the slots. -/
def pushChecked
    (registers : Registers)
    (byte : UInt8) : Option (Registers × List Char) := do
  let (next, slots) ← registers.slotsChecked byte
  let chars ←
    (List.range slots.length).mapM (Checked.get slots)
  return (next, chars.filterMap id)

end Registers

/-
  The bits of a sequence that is read in part leave room for
  those of the bytes to come.
-/
def Decoder.Narrow
    (decoder : Decoder) : Prop :=
  ∀ sequence ∈ decoder.pending,
    (sequence.bits + 1) * 64 ^ sequence.later ≤ 2 ^ 15

theorem narrow_start :
    Decoder.start.Narrow := by
  intro sequence hSequence
  cases hSequence

theorem narrow_some
    {sequence : Pending}
    (hSequence :
      (sequence.bits + 1) * 64 ^ sequence.later ≤ 2 ^ 15) :
    Decoder.Narrow ⟨some sequence⟩ := by
  intro other hOther
  rw [← Option.mem_some_iff.mp hOther]
  exact hSequence

theorem narrow_lead
    (byte : UInt8) :
    (lead byte).1.Narrow := by
  have hByte := byte.toNat_lt
  unfold lead
  dsimp only
  repeat' split
  all_goals
    first
    | exact narrow_start
    | exact narrow_some (by dsimp only; omega)

/- A byte on its own completes at most one character. -/
theorem toList_head?_lead
    (byte : UInt8) :
    (lead byte).2.head?.toList = (lead byte).2 := by
  unfold lead
  dsimp only
  repeat' split
  all_goals rfl

theorem filterMap_slots
    (char? : Option Char) :
    [char?, none].filterMap id = char?.toList := by
  cases char? <;> rfl

theorem filterMap_later_slot
    (first : Char)
    (char? : Option Char) :
    [some first, char?].filterMap id =
      first :: char?.toList := by
  cases char? <;> rfl

theorem Registers.pushChecked_eq_of_slotsChecked
    {registers next : Registers}
    {byte : UInt8}
    {slots : List (Option Char)}
    (hSlots :
      registers.slotsChecked byte = some (next, slots)) :
    registers.pushChecked byte =
      some (next, slots.filterMap id) := by
  unfold pushChecked
  refine (Checked.bind_eq hSlots).trans ?_
  exact Checked.bind_eq (Checked.mapM_get_eq slots)

theorem Registers.decoder_load
    {registers : Registers}
    (hNone : registers.remaining = 0)
    (decoder : Decoder) :
    (registers.load decoder).decoder = decoder := by
  rcases decoder with ⟨pending⟩
  cases pending with
  | none =>
      unfold load Registers.decoder
      dsimp only
      rw [hNone]
      rfl
  | some sequence => rfl

/- A narrow sequence has room for six bits more. -/
theorem shiftLeft_bits_eq
    {sequence : Pending}
    (hNarrow :
      (sequence.bits + 1) * 64 ^ sequence.later ≤ 2 ^ 15) :
    Checked.shiftLeft 32 sequence.bits 6 =
      some (sequence.bits * 64) := by
  have hPos : 1 ≤ 64 ^ sequence.later := Nat.pow_pos (by omega)
  have hBits : sequence.bits + 1 ≤ 2 ^ 15 :=
    Nat.le_trans (Nat.le_mul_of_pos_right _ hPos) hNarrow
  have hShifted :
      sequence.bits * 2 ^ 6 % 2 ^ 32 = sequence.bits * 64 := by
    omega
  rw [Checked.shiftLeft_eq _ (by decide), hShifted]

/-
  No operation faults on the fields of a narrow decoder, which
  are afterwards those of the decoder that has read the byte.
-/
theorem Registers.pushChecked_eq
    {registers : Registers}
    (hNarrow : registers.decoder.Narrow)
    (byte : UInt8) :
    ∃ next : Registers,
      next.decoder = (registers.decoder.push byte).1 ∧
        registers.pushChecked byte =
          some (next, (registers.decoder.push byte).2) := by
  have hLead := toList_head?_lead byte
  rcases registers with ⟨bits, remaining, lower, upper⟩
  cases remaining with
  | zero =>
      have hSlots :
          slotsChecked ⟨bits, 0, lower, upper⟩ byte =
            some
              (load ⟨bits, 0, lower, upper⟩ (lead byte).1,
                [(lead byte).2.head?, none]) := by
        unfold slotsChecked
        dsimp only
        rw [if_pos rfl]
        rfl
      refine
        ⟨load ⟨bits, 0, lower, upper⟩ (lead byte).1,
          decoder_load rfl _, ?_⟩
      refine (pushChecked_eq_of_slotsChecked hSlots).trans ?_
      rw [filterMap_slots, hLead]
      rfl
  | succ later =>
      have hShifted := shiftLeft_bits_eq (hNarrow _ rfl)
      have hOne := Checked.sub_eq (show 1 ≤ later + 1 by omega)
      unfold decoder Decoder.push
      dsimp only
      split
      · rename_i hBroken
        refine
          ⟨load ⟨0, 0, lower, upper⟩ (lead byte).1,
            decoder_load rfl _, ?_⟩
        have hSlots :
            slotsChecked ⟨bits, later + 1, lower, upper⟩ byte =
              some
                (load ⟨0, 0, lower, upper⟩ (lead byte).1,
                  [some replacement, (lead byte).2.head?]) :=
          if_pos hBroken
        refine (pushChecked_eq_of_slotsChecked hSlots).trans ?_
        rw [filterMap_later_slot, hLead]
      · rename_i hWithin
        have hSlots :
            slotsChecked ⟨bits, later + 1, lower, upper⟩ byte =
              some
                (⟨bits * 64 + byte.toNat % 64, later, 0x80,
                    0xBF⟩,
                  [if 0 < later then
                      none
                    else
                      some
                        (scalar
                          (bits * 64 + byte.toNat % 64)),
                    none]) := by
          unfold slotsChecked
          dsimp only
          rw [if_neg (Nat.succ_ne_zero _), if_neg hWithin,
            hShifted, hOne]
          rfl
        refine
          ⟨⟨bits * 64 + byte.toNat % 64, later, 0x80, 0xBF⟩,
            ?_, (pushChecked_eq_of_slotsChecked hSlots).trans ?_⟩
        · cases later <;> rfl
        · cases later <;> rfl

section

variable {decoder : Decoder}
  (hDecoder : decoder.Narrow)
  (byte : UInt8)

include hDecoder

theorem Decoder.Narrow.push :
    (decoder.push byte).1.Narrow := by
  rcases decoder with ⟨pending⟩
  unfold Decoder.push
  cases pending with
  | none => exact narrow_lead byte
  | some sequence =>
      have hNarrow := hDecoder sequence rfl
      dsimp only
      split
      · exact narrow_lead byte
      · split
        · exact narrow_start
        · rename_i later hLater
          apply narrow_some
          rw [hLater, Nat.pow_succ', ← Nat.mul_assoc] at hNarrow
          have hSix :
              sequence.bits * 64 + byte.toNat % 64 + 1 ≤
                (sequence.bits + 1) * 64 := by
            omega
          exact
            Nat.le_trans (Nat.mul_le_mul_right _ hSix) hNarrow

end

end Utf8

------------------------------------------------------------
-- Character Sets
------------------------------------------------------------

/- The character at the position of a given one. -/
def Charset.substituteChecked
    (charset : Charset)
    (c : Char) : Option Char := do
  if charset = .lineDrawing ∧ '_'.toNat ≤ c.toNat ∧
      c.toNat ≤ '~'.toNat then
    let index ← Checked.sub c.toNat '_'.toNat
    Checked.get lineDrawingChars index
  else if charset = .lineDrawing then
    return c
  else
    return charset.substitute c

/- Substitute a character by the set in use. -/
def Charsets.substituteChecked
    (charsets : Charsets)
    (c : Char) : Option Char := do
  let charset ←
    Checked.get charsets.slots.toList charsets.active
  charset.substituteChecked c

theorem Charset.substituteChecked_eq
    (charset : Charset)
    (c : Char) :
    charset.substituteChecked c =
      some (charset.substitute c) := by
  unfold substituteChecked
  split
  · rename_i hDrawing
    rcases hDrawing with ⟨rfl, hFirst, hLast⟩
    have hTilde : '~'.toNat = '_'.toNat + 31 := rfl
    have hIndex :
        c.toNat - '_'.toNat < lineDrawingChars.length := by
      show c.toNat - '_'.toNat < 32
      omega
    rw [Checked.sub_eq hFirst]
    refine (Checked.get_eq hIndex).trans ?_
    unfold substitute
    dsimp only
    rw [if_pos hFirst, List.getElem?_eq_getElem hIndex]
    rfl
  · rename_i hOther
    split
    · rename_i hDrawing
      subst hDrawing
      have hTilde : '~'.toNat = '_'.toNat + 31 := rfl
      unfold substitute
      dsimp only
      split
      · rename_i hFirst
        have hPast :
            lineDrawingChars.length ≤
              c.toNat - '_'.toNat := by
          show 32 ≤ c.toNat - '_'.toNat
          have hLast : ¬c.toNat ≤ '~'.toNat :=
            fun hLast => hOther ⟨rfl, hFirst, hLast⟩
          omega
        rw [List.getElem?_eq_none hPast]
        rfl
      · rfl
    · rfl

theorem Charsets.substituteChecked_eq
    (charsets : Charsets)
    (c : Char) :
    charsets.substituteChecked c =
      some (charsets.substitute c) := by
  have hSlot :
      Checked.get charsets.slots.toList charsets.active =
        some charsets.slots[charsets.active] := by
    unfold Checked.get
    simp
  unfold substituteChecked substitute
  refine (Checked.bind_eq hSlot).trans ?_
  exact Charset.substituteChecked_eq _ c

------------------------------------------------------------
-- Parameters
------------------------------------------------------------

namespace Parameters

/- The bit of a parameter in the masks. -/
def bitChecked
    (index : Nat) : Option (BitVec maxCount) := do
  let bit ← Checked.shiftLeft maxCount 1 index
  return .ofNat maxCount bit

/- Read a digit of the latest parameter. -/
def pushDigitChecked
    (params : Parameters)
    (digit : Nat) : Option Parameters := do
  let params := params.startFirst
  let index ← Checked.sub params.started 1
  if index < maxCount then
    let value ← Checked.getEntry params.values index
    let values ←
      Checked.setEntry params.values index
        (appendDigit value digit)
    let bit ← bitChecked index
    return { params with
      values := values
      present := params.present ||| bit }
  else
    return params

/- Read a separator, which starts a further parameter. -/
def pushSeparatorChecked
    (params : Parameters)
    (sub : Bool) : Option Parameters := do
  let params := params.startFirst
  let started := min (params.started + 1) maxStarted
  let index ← Checked.sub started 1
  if sub ∧ index < maxCount then
    let bit ← bitChecked index
    return { params with
      started := started
      attached := params.attached ||| bit }
  else
    return { params with started := started }

/- A parameter, none when it is missing or left out. -/
def getChecked
    (params : Parameters)
    (index : Nat) : Option (Option Nat) := do
  if index < params.length then
    let bit ← bitChecked index
    if params.present &&& bit ≠ 0 then
      let value ← Checked.getEntry params.values index
      return some value
    else
      return none
  else
    return none

/- A parameter, or a default when it is left out. -/
def getDChecked
    (params : Parameters)
    (index default : Nat) : Option Nat := do
  let value? ← params.getChecked index
  return value?.getD default

/- A parameter as a count: left out and zero mean one. -/
def countChecked
    (params : Parameters)
    (index : Nat) : Option Nat := do
  let value? ← params.getChecked index
  return (value?.filter (· ≠ 0)).getD 1

/- A parameter was attached to its predecessor. -/
def isSubChecked
    (params : Parameters)
    (index : Nat) : Option Bool := do
  if index < params.length then
    let bit ← bitChecked index
    return params.attached &&& bit ≠ 0
  else
    return false

/- The number of leading ones of some parameters attached. -/
def countSubsChecked
    (params : Parameters) :
    List Nat → Option Nat
  | [] => some 0
  | index :: rest => do
    if ← params.isSubChecked index then
      let count ← params.countSubsChecked rest
      return count + 1
    else
      return 0

/- The number of sub-parameters that follow a parameter. -/
def subCountChecked
    (params : Parameters)
    (index : Nat) : Option Nat :=
  params.countSubsChecked
    (List.range' (index + 1) (params.length - (index + 1)))

section

theorem bitChecked_eq
    {index : Nat}
    (hIndex : index < maxCount) :
    bitChecked index = some (.twoPow maxCount index) := by
  have hBit :
      BitVec.ofNat maxCount (1 * 2 ^ index % 2 ^ maxCount) =
        BitVec.twoPow maxCount index := by
    apply BitVec.eq_of_toNat_eq
    simp
  unfold bitChecked
  rw [Checked.shiftLeft_eq 1 hIndex, ← hBit]
  rfl

/- A bit of a mask is set if the mask has it in common. -/
theorem and_bit_ne_zero_iff
    (mask : BitVec maxCount)
    {index : Nat}
    (hIndex : index < maxCount) :
    mask &&& BitVec.twoPow maxCount index ≠ 0 ↔
      mask.getLsbD index := by
  rw [BitVec.and_twoPow]
  split
  · rename_i hSet
    refine iff_of_true ?_ hSet
    intro hZero
    have hBit := congrArg (BitVec.getLsbD · index) hZero
    simp [hIndex] at hBit
  · rename_i hClear
    exact iff_of_false (not_not_intro rfl) hClear

variable (params : Parameters)

theorem started_startFirst_pos :
    1 ≤ params.startFirst.started := by
  unfold startFirst
  dsimp only
  split <;> omega

theorem pushDigitChecked_eq
    (digit : Nat) :
    params.pushDigitChecked digit =
      some (params.pushDigit digit) := by
  unfold pushDigitChecked pushDigit appendAt
  dsimp only
  rw [Checked.sub_eq params.started_startFirst_pos]
  simp only [Option.bind_eq_bind, Option.bind_some]
  split
  · rename_i hKept
    rw [Checked.getEntry_eq _ hKept]
    simp only [Option.bind_some]
    rw [Checked.setEntry_eq _ _ hKept, bitChecked_eq hKept]
    rfl
  · rfl

theorem pushSeparatorChecked_eq
    (sub : Bool) :
    params.pushSeparatorChecked sub =
      some (params.pushSeparator sub) := by
  have hPos := params.started_startFirst_pos
  have hSome :
      1 ≤ min (params.startFirst.started + 1) maxStarted :=
    Nat.le_min.mpr ⟨by omega, by decide⟩
  unfold pushSeparatorChecked pushSeparator
  dsimp only
  rw [Checked.sub_eq hSome]
  simp only [Option.bind_eq_bind, Option.bind_some]
  split
  · rename_i hMark
    rw [bitChecked_eq hMark.2]
    rfl
  · rfl

/- The parameters kept are no more than there is room for. -/
theorem lt_maxCount_of_lt_length
    {index : Nat}
    (hIndex : index < params.length) :
    index < maxCount :=
  Nat.lt_of_lt_of_le hIndex (Nat.min_le_right _ _)

theorem getChecked_eq
    (index : Nat) :
    params.getChecked index = some (params.get? index) := by
  unfold getChecked get?
  by_cases hIndex : index < params.length
  · have hKept := params.lt_maxCount_of_lt_length hIndex
    have hBit := and_bit_ne_zero_iff params.present hKept
    rw [if_pos hIndex, bitChecked_eq hKept]
    simp only [Option.bind_eq_bind, Option.bind_some]
    by_cases hSet : params.present.getLsbD index
    · rw [if_pos (hBit.mpr hSet), if_pos ⟨hIndex, hSet⟩,
        Checked.getEntry_eq _ hKept,
        Vector.getElem?_eq_getElem hKept]
      rfl
    · rw [if_neg (mt hBit.mp hSet),
        if_neg (fun hBoth => hSet hBoth.2)]
      rfl
  · rw [if_neg hIndex, if_neg (fun hBoth => hIndex hBoth.1)]
    rfl

theorem getDChecked_eq
    (index default : Nat) :
    params.getDChecked index default =
      some (params.getD index default) :=
  Checked.bind_eq (params.getChecked_eq index)

theorem countChecked_eq
    (index : Nat) :
    params.countChecked index = some (params.count index) :=
  Checked.bind_eq (params.getChecked_eq index)

theorem isSubChecked_eq
    (index : Nat) :
    params.isSubChecked index =
      some (params.isSub index) := by
  unfold isSubChecked isSub
  by_cases hIndex : index < params.length
  · have hKept := params.lt_maxCount_of_lt_length hIndex
    have hBit := and_bit_ne_zero_iff params.attached hKept
    rw [if_pos hIndex, bitChecked_eq hKept,
      decide_eq_true hIndex, Bool.true_and]
    simp only [Option.bind_eq_bind, Option.bind_some,
      decide_eq_decide.mpr hBit, Bool.decide_eq_true]
    rfl
  · rw [if_neg hIndex, decide_eq_false hIndex]
    rfl

theorem countSubsChecked_eq
    (indices : List Nat) :
    params.countSubsChecked indices =
      some (indices.takeWhile params.isSub).length := by
  induction indices with
  | nil => rfl
  | cons index rest hRest =>
      unfold countSubsChecked
      rw [params.isSubChecked_eq, List.takeWhile_cons]
      simp only [Option.bind_eq_bind, Option.bind_some]
      split
      · rw [hRest]
        rfl
      · rfl

theorem subCountChecked_eq
    (index : Nat) :
    params.subCountChecked index =
      some (params.subCount index) :=
  params.countSubsChecked_eq _

end

end Parameters

------------------------------------------------------------
-- The Parser
------------------------------------------------------------

namespace Parser

/- Collect parameters further. -/
def collectChecked
    (parser : Parser)
    (change : Parameters → Option Parameters) :
    Option (Parser × Option Event) := do
  let params ← change parser.params
  return (parser.collect fun _ => params, none)

/- Read a character inside a control sequence. -/
def sequenceChecked
    (parser : Parser)
    (c : Char) : Option (Parser × Option Event) := do
  if '0'.toNat ≤ c.toNat ∧ c.toNat ≤ '9'.toNat then
    let digit ← Checked.sub c.toNat '0'.toNat
    parser.collectChecked (·.pushDigitChecked digit)
  else if c = ';' then
    parser.collectChecked (·.pushSeparatorChecked false)
  else if c = ':' then
    parser.collectChecked (·.pushSeparatorChecked true)
  else
    return parser.sequence c

/- Read one character, and yield the event it completes. -/
def stepChecked
    (parser : Parser)
    (c : Char) : Option (Parser × Option Event) :=
  if parser.mode = .parameters ∧ ¬isControl c then
    parser.sequenceChecked c
  else
    some (parser.step c)

section

variable (parser : Parser)

theorem sequenceChecked_eq
    (c : Char) :
    parser.sequenceChecked c = some (parser.sequence c) := by
  unfold sequenceChecked sequence
  split
  · rename_i hDigit
    rw [Checked.sub_eq hDigit.1]
    exact
      Checked.bind_eq
        (parser.params.pushDigitChecked_eq _)
  · split
    · exact
        Checked.bind_eq
          (parser.params.pushSeparatorChecked_eq false)
    · split
      · exact
          Checked.bind_eq
            (parser.params.pushSeparatorChecked_eq true)
      · rfl

/- No operation of a parser faults, whatever it holds. -/
theorem stepChecked_eq
    (c : Char) :
    parser.stepChecked c = some (parser.step c) := by
  unfold stepChecked
  split
  · rename_i hCollecting
    rw [parser.sequenceChecked_eq]
    unfold step
    rw [hCollecting.1]
    dsimp only
    rw [if_neg hCollecting.2]
  · rfl

end

end Parser

end VideoTerminal
