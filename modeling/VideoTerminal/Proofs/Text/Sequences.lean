import Mathlib.Algebra.Group.Nat.Defs
import Mathlib.Data.List.Forall2
import VideoTerminal.Text.Utf8

/-
  The byte sequences that stand for characters, and what the
  decoder does with them.  In the middle of a sequence it
  knows exactly which bytes complete it.

  Main declarations:
    * `Utf8.WellFormed`
    * `Utf8.Begun`
    * `Utf8.codePoint`
    * `Utf8.Awaits`
    * `Utf8.Awaits.wellFormed_append_iff`
    * `Utf8.pushAll_of_wellFormed`
    * `Utf8.pushAll_encodeAll`
-/

namespace VideoTerminal

namespace Utf8

------------------------------------------------------------
-- Chunks
------------------------------------------------------------

namespace Decoder

theorem pushAll_cons
    (decoder : Decoder)
    (byte : UInt8)
    (bytes : List UInt8) :
    decoder.pushAll (byte :: bytes) =
      (((decoder.push byte).1.pushAll bytes).1,
        (decoder.push byte).2 ++
          ((decoder.push byte).1.pushAll bytes).2) :=
  rfl

theorem pushAll_singleton
    (decoder : Decoder)
    (byte : UInt8) :
    decoder.pushAll [byte] = decoder.push byte := by
  rw [pushAll_cons]
  show ((decoder.push byte).1,
    (decoder.push byte).2 ++ []) = _
  rw [List.append_nil]

theorem pushAll_append
    (decoder : Decoder)
    (bytes rest : List UInt8) :
    decoder.pushAll (bytes ++ rest) =
      (((decoder.pushAll bytes).1.pushAll rest).1,
        (decoder.pushAll bytes).2 ++
          ((decoder.pushAll bytes).1.pushAll rest).2) := by
  induction bytes generalizing decoder with
  | nil => rfl
  | cons byte bytes hRest =>
      rw [List.cons_append, pushAll_cons, hRest,
        pushAll_cons]
      simp only [List.append_assoc]

end Decoder

------------------------------------------------------------
-- Well-Formed Sequences
------------------------------------------------------------

/-
  The well-formed sequences by the ranges of their bytes.  The
  narrowed ranges leave out overlong forms, surrogates and
  numbers past U+10FFFF.
-/
def table : List (List (Nat × Nat)) :=
  [[(0x00, 0x7F)],
    [(0xC2, 0xDF), (0x80, 0xBF)],
    [(0xE0, 0xE0), (0xA0, 0xBF), (0x80, 0xBF)],
    [(0xE1, 0xEC), (0x80, 0xBF), (0x80, 0xBF)],
    [(0xED, 0xED), (0x80, 0x9F), (0x80, 0xBF)],
    [(0xEE, 0xEF), (0x80, 0xBF), (0x80, 0xBF)],
    [(0xF0, 0xF0), (0x90, 0xBF), (0x80, 0xBF), (0x80, 0xBF)],
    [(0xF1, 0xF3), (0x80, 0xBF), (0x80, 0xBF), (0x80, 0xBF)],
    [(0xF4, 0xF4), (0x80, 0x8F), (0x80, 0xBF), (0x80, 0xBF)]]

/- A byte lies in a range, both ends included. -/
def Within
    (range : Nat × Nat)
    (byte : UInt8) : Prop :=
  range.1 ≤ byte.toNat ∧ byte.toNat ≤ range.2

/- A sequence stands for a character. -/
def WellFormed
    (bytes : List UInt8) : Prop :=
  ∃ row ∈ table, List.Forall₂ Within row bytes

/-
  A well-formed sequence begins with some bytes, and they are
  neither none nor all of it.
-/
def Begun
    (bytes : List UInt8) : Prop :=
  bytes ≠ [] ∧
    ∃ missing, missing ≠ [] ∧ WellFormed (bytes ++ missing)

/-
  The number that a sequence stands for: seven, five, four or
  three bits of its first byte, and six of every further one.
-/
def codePoint :
    List UInt8 → Nat
  | [a] => a.toNat
  | [a, b] => a.toNat % 0x20 * 0x40 + b.toNat % 0x40
  | [a, b, c] =>
    a.toNat % 0x10 * 0x1000 + b.toNat % 0x40 * 0x40 +
      c.toNat % 0x40
  | [a, b, c, d] =>
    a.toNat % 0x08 * 0x40000 + b.toNat % 0x40 * 0x1000 +
      c.toNat % 0x40 * 0x40 + d.toNat % 0x40
  | _ => 0

/- The rows of the table by their place in it. -/
theorem row_mem_table
    (n : Nat)
    {row : List (Nat × Nat)}
    (hRow : table[n]? = some row) :
    row ∈ table :=
  List.mem_of_getElem? hRow

theorem WellFormed.ne_nil
    {bytes : List UInt8}
    (hBytes : WellFormed bytes) :
    bytes ≠ [] := by
  rintro rfl
  rcases hBytes with ⟨row, hRow, hMatch⟩
  rw [List.forall₂_nil_right_iff] at hMatch
  subst hMatch
  simp [table] at hRow

/- A well-formed sequence stands for a scalar value. -/
theorem WellFormed.isValidChar_codePoint
    {bytes : List UInt8}
    (hBytes : WellFormed bytes) :
    (codePoint bytes).isValidChar := by
  rcases hBytes with ⟨row, hRow, hMatch⟩
  unfold Nat.isValidChar
  simp only [table, List.mem_cons, List.not_mem_nil,
    or_false] at hRow
  rcases hRow with rfl | rfl | rfl | rfl | rfl | rfl | rfl |
    rfl | rfl
  all_goals
    simp only [List.forall₂_cons_left_iff,
      List.forall₂_nil_left_iff, Within] at hMatch
  · rcases hMatch with ⟨a, _, hA, rfl, rfl⟩
    simp only [codePoint]
    omega
  · rcases hMatch with ⟨a, _, hA, ⟨b, _, hB, rfl, rfl⟩, rfl⟩
    simp only [codePoint]
    omega
  iterate 4
    rcases hMatch with
      ⟨a, _, hA, ⟨b, _, hB, ⟨c, _, hC, rfl, rfl⟩, rfl⟩, rfl⟩
    simp only [codePoint]
    omega
  iterate 3
    rcases hMatch with
      ⟨a, _, hA,
        ⟨b, _, hB, ⟨c, _, hC, ⟨d, _, hD, rfl, rfl⟩, rfl⟩,
          rfl⟩,
        rfl⟩
    simp only [codePoint]
    omega

------------------------------------------------------------
-- First Bytes
------------------------------------------------------------

/- The ranges of the bytes that complete a sequence. -/
def Pending.ranges
    (sequence : Pending) : List (Nat × Nat) :=
  (sequence.lower, sequence.upper) ::
    List.replicate sequence.later (0x80, 0xBF)

/- The bits collected after some more bytes. -/
def Pending.collect
    (sequence : Pending)
    (bytes : List UInt8) : Nat :=
  bytes.foldl (fun bits byte => bits * 64 + byte.toNat % 64)
    sequence.bits

/-
  A first byte stands for itself, starts a sequence, or starts
  none.  Where it starts one, it lies in the first range of a
  row, the others of which are awaited.
-/
theorem lead_cases
    (byte : UInt8) :
    byte.toNat < 0x80 ∧
        lead byte = (.start, [scalar byte.toNat]) ∨
      (∃ sequence,
        lead byte = (⟨some sequence⟩, []) ∧
          (∃ range,
            range :: sequence.ranges ∈ table ∧
              Within range byte) ∧
          sequence.bits =
            byte.toNat % (0x20 / 2 ^ sequence.later)) ∨
      (0x80 ≤ byte.toNat ∧ byte.toNat < 0xC2 ∨
          0xF5 ≤ byte.toNat) ∧
        lead byte = (.start, [replacement]) := by
  generalize hRead : lead byte = read
  unfold lead at hRead
  dsimp only at hRead
  by_cases h : byte.toNat < 0x80
  · rw [if_pos h] at hRead
    exact Or.inl ⟨h, hRead.symm⟩
  rw [if_neg h] at hRead
  by_cases h : byte.toNat < 0xC2
  · rw [if_pos h] at hRead
    exact Or.inr (Or.inr ⟨by omega, hRead.symm⟩)
  rw [if_neg h] at hRead
  by_cases h : byte.toNat < 0xE0
  · rw [if_pos h] at hRead
    exact
      Or.inr
        (Or.inl
          ⟨_, hRead.symm,
            ⟨(0xC2, 0xDF), row_mem_table 1 rfl,
              by unfold Within; omega⟩,
            by simp only; omega⟩)
  rw [if_neg h] at hRead
  by_cases h : byte.toNat = 0xE0
  · rw [if_pos h] at hRead
    exact
      Or.inr
        (Or.inl
          ⟨_, hRead.symm,
            ⟨(0xE0, 0xE0), row_mem_table 2 rfl,
              by unfold Within; omega⟩,
            by simp only; omega⟩)
  rw [if_neg h] at hRead
  by_cases h : byte.toNat = 0xED
  · rw [if_pos h] at hRead
    exact
      Or.inr
        (Or.inl
          ⟨_, hRead.symm,
            ⟨(0xED, 0xED), row_mem_table 4 rfl,
              by unfold Within; omega⟩,
            by simp only; omega⟩)
  rw [if_neg h] at hRead
  by_cases h : byte.toNat < 0xF0
  · rw [if_pos h] at hRead
    refine
      Or.inr
        (Or.inl ⟨_, hRead.symm, ?_, by simp only; omega⟩)
    rcases Nat.lt_or_ge byte.toNat 0xED with hLow | hHigh
    · exact
        ⟨(0xE1, 0xEC), row_mem_table 3 rfl,
          by unfold Within; omega⟩
    · exact
        ⟨(0xEE, 0xEF), row_mem_table 5 rfl,
          by unfold Within; omega⟩
  rw [if_neg h] at hRead
  by_cases h : byte.toNat = 0xF0
  · rw [if_pos h] at hRead
    exact
      Or.inr
        (Or.inl
          ⟨_, hRead.symm,
            ⟨(0xF0, 0xF0), row_mem_table 6 rfl,
              by unfold Within; omega⟩,
            by simp only; omega⟩)
  rw [if_neg h] at hRead
  by_cases h : byte.toNat < 0xF4
  · rw [if_pos h] at hRead
    exact
      Or.inr
        (Or.inl
          ⟨_, hRead.symm,
            ⟨(0xF1, 0xF3), row_mem_table 7 rfl,
              by unfold Within; omega⟩,
            by simp only; omega⟩)
  rw [if_neg h] at hRead
  by_cases h : byte.toNat = 0xF4
  · rw [if_pos h] at hRead
    exact
      Or.inr
        (Or.inl
          ⟨_, hRead.symm,
            ⟨(0xF4, 0xF4), row_mem_table 8 rfl,
              by unfold Within; omega⟩,
            by simp only; omega⟩)
  rw [if_neg h] at hRead
  exact Or.inr (Or.inr ⟨by omega, hRead.symm⟩)

theorem mem_table_of_lead
    {byte : UInt8}
    {sequence : Pending}
    (hLead : lead byte = (⟨some sequence⟩, [])) :
    (∃ range,
        range :: sequence.ranges ∈ table ∧
          Within range byte) ∧
      sequence.bits =
        byte.toNat % (0x20 / 2 ^ sequence.later) := by
  rcases lead_cases byte with
    ⟨_, hOther⟩ | ⟨other, hOther, hRow⟩ | ⟨_, hOther⟩
  · rw [hLead] at hOther
    cases hOther
  · rw [hLead] at hOther
    cases hOther
    exact hRow
  · rw [hLead] at hOther
    cases hOther

/- A first byte starts one row of the table at most. -/
theorem eq_of_mem_table
    {range range' : Nat × Nat}
    {ranges ranges' : List (Nat × Nat)}
    (hRow : range :: ranges ∈ table)
    (hRow' : range' :: ranges' ∈ table)
    {byte : UInt8}
    (hByte : Within range byte)
    (hByte' : Within range' byte) :
    ranges = ranges' := by
  have hApart :
      ∀ row ∈ table, ∀ row' ∈ table,
        (row.headD (0, 0)).1 ≤ (row'.headD (0, 0)).2 →
          (row'.headD (0, 0)).1 ≤ (row.headD (0, 0)).2 →
            row = row' := by
    decide
  have hSame :=
    hApart _ hRow _ hRow'
      (Nat.le_trans hByte.1 hByte'.2)
      (Nat.le_trans hByte'.1 hByte.2)
  exact (List.cons.inj hSame).2

/- What the first byte of a well-formed sequence leads to. -/
theorem lead_of_mem_table
    {range : Nat × Nat}
    {ranges : List (Nat × Nat)}
    (hRow : range :: ranges ∈ table)
    {byte : UInt8}
    (hByte : Within range byte) :
    ranges = [] ∧
        lead byte = (.start, [scalar byte.toNat]) ∨
      ∃ sequence : Pending,
        sequence.ranges = ranges ∧
          lead byte = (⟨some sequence⟩, []) := by
  rcases lead_cases byte with
    ⟨hAscii, hLead⟩ |
      ⟨sequence, hLead, ⟨range', hRow', hByte'⟩, _⟩ |
      ⟨hStray, _⟩
  · have hSelf : [(0x00, 0x7F)] ∈ table :=
      row_mem_table 0 rfl
    have hInside : Within (0x00, 0x7F) byte :=
      ⟨Nat.zero_le _, Nat.le_of_lt_succ hAscii⟩
    exact
      Or.inl
        ⟨eq_of_mem_table hRow hSelf hByte hInside, hLead⟩
  · exact
      Or.inr
        ⟨sequence, eq_of_mem_table hRow' hRow hByte' hByte,
          hLead⟩
  · have hLimits :
        ∀ row ∈ table,
          (row.headD (0, 0)).2 < 0x80 ∨
            0xC2 ≤ (row.headD (0, 0)).1 ∧
              (row.headD (0, 0)).2 < 0xF5 := by
      decide
    have hLimit := hLimits _ hRow
    have hLow := hByte.1
    have hHigh := hByte.2
    simp only [List.headD_cons] at hLimit
    omega

/- A first byte and those that complete its sequence. -/
theorem codePoint_cons
    {byte : UInt8}
    {sequence : Pending}
    (hLead : lead byte = (⟨some sequence⟩, []))
    {bytes : List UInt8}
    (hBytes : List.Forall₂ Within sequence.ranges bytes) :
    codePoint (byte :: bytes) = sequence.collect bytes := by
  rcases mem_table_of_lead hLead with
    ⟨⟨range, hRow, hByte⟩, hBits⟩
  have hLengths : ∀ row ∈ table, row.length ≤ 4 := by decide
  have hLength := hLengths _ hRow
  have hSame := hBytes.length_eq
  simp only [Pending.ranges, List.length_cons,
    List.length_replicate] at hLength hSame
  match bytes, hSame with
  | [b], hSame =>
      have hLater : sequence.later = 0 := by
        simpa using hSame
      have hFirst : sequence.bits = byte.toNat % 32 := by
        rw [hLater] at hBits
        omega
      simp only [codePoint, Pending.collect, List.foldl_cons,
        List.foldl_nil, hFirst]
  | [b, c], hSame =>
      have hLater : sequence.later = 1 := by
        simpa using hSame
      rw [hLater] at hBits
      simp only [codePoint, Pending.collect, List.foldl_cons,
        List.foldl_nil, hBits]
      omega
  | [b, c, d], hSame =>
      have hLater : sequence.later = 2 := by
        simpa using hSame
      rw [hLater] at hBits
      simp only [codePoint, Pending.collect, List.foldl_cons,
        List.foldl_nil, hBits]
      omega
  | b :: c :: d :: e :: bytes, hSame =>
      simp only [List.length_cons] at hSame
      omega

------------------------------------------------------------
-- Further Bytes
------------------------------------------------------------

/- What is awaited after one of several bytes has come. -/
def Pending.after
    (sequence : Pending)
    (byte : UInt8)
    (later : Nat) : Pending :=
  ⟨sequence.bits * 64 + byte.toNat % 64, later, 0x80, 0xBF⟩

section

variable {sequence : Pending} {byte : UInt8} {later : Nat}

theorem push_within
    (hLater : sequence.later = later + 1)
    (hByte : Within (sequence.lower, sequence.upper) byte) :
    Decoder.push ⟨some sequence⟩ byte =
      (⟨some (sequence.after byte later)⟩, []) := by
  rcases hByte with ⟨hLow, hHigh⟩
  unfold Decoder.push
  dsimp only
  rw [if_neg (by omega), hLater]
  rfl

theorem push_last
    (hLater : sequence.later = 0)
    (hByte : Within (sequence.lower, sequence.upper) byte) :
    Decoder.push ⟨some sequence⟩ byte =
      (.start, [scalar (sequence.collect [byte])]) := by
  rcases hByte with ⟨hLow, hHigh⟩
  unfold Decoder.push
  dsimp only
  rw [if_neg (by omega), hLater]
  rfl

theorem push_outside
    (hByte : ¬Within (sequence.lower, sequence.upper) byte) :
    Decoder.push ⟨some sequence⟩ byte =
      ((lead byte).1, replacement :: (lead byte).2) := by
  unfold Within at hByte
  unfold Decoder.push
  dsimp only
  rw [if_pos (by omega)]

/-
  The bytes that complete a sequence, of which there are more
  than one, are a first of them and the rest.
-/
theorem forall₂_ranges_cons_iff
    (hLater : sequence.later = later + 1)
    {bytes : List UInt8} :
    List.Forall₂ Within sequence.ranges (byte :: bytes) ↔
      Within (sequence.lower, sequence.upper) byte ∧
        List.Forall₂ Within
          (sequence.after byte later).ranges bytes := by
  unfold Pending.ranges
  rw [hLater, List.replicate_succ, List.forall₂_cons]
  rfl

end

/- The bytes that complete a sequence complete it. -/
theorem pushAll_of_forall₂
    {sequence : Pending}
    {bytes : List UInt8}
    (hBytes : List.Forall₂ Within sequence.ranges bytes) :
    Decoder.pushAll ⟨some sequence⟩ bytes =
      (.start, [scalar (sequence.collect bytes)]) := by
  induction bytes generalizing sequence with
  | nil => cases hBytes
  | cons byte bytes hRest =>
      rw [Decoder.pushAll_cons]
      cases hLater : sequence.later with
      | zero =>
          unfold Pending.ranges at hBytes
          rw [hLater, List.replicate_zero,
            List.forall₂_cons] at hBytes
          rcases hBytes with ⟨hByte, hNone⟩
          cases hNone
          rw [push_last hLater hByte]
          rfl
      | succ later =>
          rw [forall₂_ranges_cons_iff hLater] at hBytes
          rw [push_within hLater hBytes.1]
          exact hRest hBytes.2

/- Ranges of bytes that are not empty have bytes in them. -/
theorem exists_forall₂_within
    {ranges : List (Nat × Nat)}
    (hRanges :
      ∀ range ∈ ranges, range.1 ≤ range.2 ∧ range.2 < 256) :
    ∃ bytes, List.Forall₂ Within ranges bytes := by
  refine ⟨ranges.map fun range => .ofNat range.1, ?_⟩
  rw [List.forall₂_map_right_iff, List.forall₂_same]
  intro range hRange
  rcases hRanges range hRange with ⟨hOrder, hTop⟩
  unfold Within
  rw [UInt8.toNat_ofNat_of_lt'
    (Nat.lt_of_le_of_lt hOrder hTop)]
  exact ⟨Nat.le_refl _, hOrder⟩

------------------------------------------------------------
-- Sequences in Progress
------------------------------------------------------------

/-
  Some bytes have started a sequence without ending it, and
  what is awaited after them.
-/
inductive Awaits :
    List UInt8 → Pending → Prop where
  | lead
      {byte : UInt8}
      {sequence : Pending}
      (hLead : lead byte = (⟨some sequence⟩, [])) :
      Awaits [byte] sequence
  | next
      {bytes : List UInt8}
      {sequence : Pending}
      {byte : UInt8}
      {later : Nat}
      (hBytes : Awaits bytes sequence)
      (hLater : sequence.later = later + 1)
      (hByte :
        Within (sequence.lower, sequence.upper) byte) :
      Awaits (bytes ++ [byte]) (sequence.after byte later)

namespace Awaits

variable {bytes : List UInt8} {sequence : Pending}

theorem ne_nil
    (hAwaits : Awaits bytes sequence) :
    bytes ≠ [] := by
  cases hAwaits <;> simp

theorem pushAll
    (hAwaits : Awaits bytes sequence) :
    Decoder.start.pushAll bytes =
      (⟨some sequence⟩, []) := by
  induction hAwaits with
  | lead hLead =>
      rw [Decoder.pushAll_singleton]
      exact hLead
  | next _ hLater hByte hBytes =>
      rw [Decoder.pushAll_append, hBytes,
        Decoder.pushAll_singleton, push_within hLater hByte]
      rfl

/- What completes the bytes is known from what is awaited. -/
theorem wellFormed_append_iff
    (hAwaits : Awaits bytes sequence)
    (rest : List UInt8) :
    WellFormed (bytes ++ rest) ↔
      List.Forall₂ Within sequence.ranges rest := by
  induction hAwaits generalizing rest with
  | @lead byte sequence hLead =>
      rw [List.singleton_append]
      constructor
      · rintro ⟨row, hRow, hMatch⟩
        rw [List.forall₂_cons_right_iff] at hMatch
        rcases hMatch with
          ⟨range, ranges, hByte, hRest, rfl⟩
        rcases lead_of_mem_table hRow hByte with
          ⟨_, hOther⟩ | ⟨other, hRanges, hOther⟩
        · rw [hLead] at hOther
          cases hOther
        · rw [hLead] at hOther
          cases hOther
          exact hRanges ▸ hRest
      · intro hRest
        rcases (mem_table_of_lead hLead).1 with
          ⟨range, hRow, hByte⟩
        exact ⟨_, hRow, .cons hByte hRest⟩
  | @next bytes sequence byte later _ hLater hByte hBytes =>
      rw [List.append_assoc, List.singleton_append, hBytes,
        forall₂_ranges_cons_iff hLater]
      exact and_iff_right hByte

theorem ranges_nonempty
    (hAwaits : Awaits bytes sequence) :
    ∀ range ∈ sequence.ranges,
      range.1 ≤ range.2 ∧ range.2 < 256 := by
  induction hAwaits with
  | lead hLead =>
      have hTable :
          ∀ row ∈ table, ∀ range ∈ row,
            range.1 ≤ range.2 ∧ range.2 < 256 := by
        decide
      rcases (mem_table_of_lead hLead).1 with ⟨_, hRow, _⟩
      intro range hRange
      exact
        hTable _ hRow range (List.mem_cons_of_mem _ hRange)
  | @next _ sequence byte later _ _ _ _ =>
      have hSame :
          (sequence.after byte later).ranges =
            List.replicate (later + 1) (0x80, 0xBF) :=
        rfl
      intro range hRange
      rw [hSame] at hRange
      rw [List.eq_of_mem_replicate hRange]
      decide

/- Some bytes complete what has been started. -/
theorem begun
    (hAwaits : Awaits bytes sequence) :
    Begun bytes := by
  rcases exists_forall₂_within hAwaits.ranges_nonempty with
    ⟨missing, hMissing⟩
  refine ⟨hAwaits.ne_nil, missing, ?_, ?_⟩
  · rintro rfl
    cases hMissing
  · exact (hAwaits.wellFormed_append_iff missing).mpr hMissing

/- More bytes continue what has been started. -/
theorem exists_append
    (hAwaits : Awaits bytes sequence)
    {more missing : List UInt8}
    (hMissing : missing ≠ [])
    (hMatch :
      List.Forall₂ Within sequence.ranges
        (more ++ missing)) :
    ∃ last, Awaits (bytes ++ more) last := by
  induction more generalizing bytes sequence with
  | nil => exact ⟨sequence, by rwa [List.append_nil]⟩
  | cons byte more hRest =>
      rw [List.cons_append] at hMatch
      cases hLater : sequence.later with
      | zero =>
          have hLength := hMatch.length_eq
          have hSome := List.length_pos_iff.mpr hMissing
          simp only [Pending.ranges, hLater,
            List.replicate_zero, List.length_cons,
            List.length_nil, List.length_append] at hLength
          omega
      | succ later =>
          rw [forall₂_ranges_cons_iff hLater] at hMatch
          have hNext := hAwaits.next hLater hMatch.1
          rw [List.append_cons]
          exact hRest hNext hMatch.2

end Awaits

theorem exists_awaits_of_begun
    {bytes : List UInt8}
    (hBytes : Begun bytes) :
    ∃ sequence, Awaits bytes sequence := by
  rcases hBytes with
    ⟨hSome, missing, hMissing, row, hRow, hMatch⟩
  match bytes, hSome with
  | byte :: more, _ =>
      rw [List.cons_append, List.forall₂_cons_right_iff]
        at hMatch
      rcases hMatch with ⟨range, ranges, hByte, hRest, rfl⟩
      rcases lead_of_mem_table hRow hByte with
        ⟨hNone, _⟩ | ⟨sequence, hRanges, hLead⟩
      · subst hNone
        rw [List.forall₂_nil_left_iff,
          List.append_eq_nil_iff] at hRest
        exact absurd hRest.2 hMissing
      · exact
          (Awaits.lead hLead).exists_append hMissing
            (hRanges.symm ▸ hRest)

/- What the decoder makes of a well-formed sequence. -/
theorem pushAll_of_wellFormed
    {bytes : List UInt8}
    (hBytes : WellFormed bytes) :
    Decoder.start.pushAll bytes =
      (.start, [scalar (codePoint bytes)]) := by
  rcases hBytes with ⟨row, hRow, hMatch⟩
  match row, hMatch with
  | range :: ranges, .cons hByte hRest =>
      rename_i byte rest
      rw [Decoder.pushAll_cons]
      rcases lead_of_mem_table hRow hByte with
        ⟨hNone, hLead⟩ | ⟨sequence, hRanges, hLead⟩
      · subst hNone
        cases hRest
        rw [show Decoder.start.push byte = _ from hLead]
        rfl
      · subst hRanges
        rw [show Decoder.start.push byte = _ from hLead,
          codePoint_cons hLead hRest]
        exact pushAll_of_forall₂ hRest

theorem toNat_scalar
    {n : Nat}
    (hScalar : n.isValidChar) :
    (scalar n).toNat = n := by
  unfold scalar
  rw [if_pos hScalar, Char.ofNat, dif_pos hScalar]
  rfl

theorem scalar_toNat
    (c : Char) :
    scalar c.toNat = c := by
  have hScalar : c.toNat.isValidChar := c.valid
  unfold scalar
  rw [if_pos hScalar, Char.ofNat_toNat]

------------------------------------------------------------
-- Encoding
------------------------------------------------------------

/- The bytes of a character are its well-formed sequence. -/
theorem wellFormed_encode
    (c : Char) :
    WellFormed (encode c) ∧ codePoint (encode c) = c.toNat := by
  have hScalar : c.toNat.isValidChar := c.valid
  have hInRow :
      ∀ row ∈ table, ∀ bytes,
        List.Forall₂ Within row bytes →
          codePoint bytes = c.toNat →
            WellFormed bytes ∧ codePoint bytes = c.toNat :=
    fun row hRow bytes hBytes hPoint =>
      ⟨⟨row, hRow, hBytes⟩, hPoint⟩
  unfold Nat.isValidChar at hScalar
  unfold encode
  dsimp only
  split_ifs with hOne hTwo hThree
  · apply hInRow [(0x00, 0x7F)] (row_mem_table 0 rfl)
    all_goals
      simp only [List.forall₂_cons,
        List.forall₂_nil_left_iff, and_true, Within,
        codePoint, UInt8.toNat_ofNat']
      omega
  · apply hInRow [(0xC2, 0xDF), (0x80, 0xBF)]
      (row_mem_table 1 rfl)
    all_goals
      simp only [List.forall₂_cons,
        List.forall₂_nil_left_iff, and_true, Within,
        codePoint, UInt8.toNat_ofNat']
      omega
  · -- The first byte alone settles the row but for E0 and ED.
    have hRow :
        ∃ first second,
          [first, second, (0x80, 0xBF)] ∈ table ∧
            first.1 ≤ 0xE0 + c.toNat / 0x1000 ∧
            0xE0 + c.toNat / 0x1000 ≤ first.2 ∧
            second.1 ≤ 0x80 + c.toNat / 0x40 % 0x40 ∧
            0x80 + c.toNat / 0x40 % 0x40 ≤ second.2 := by
      by_cases hE0 : c.toNat < 0x1000
      · exact
          ⟨(0xE0, 0xE0), (0xA0, 0xBF), row_mem_table 2 rfl,
            by omega⟩
      · by_cases hEC : c.toNat < 0xD000
        · exact
            ⟨(0xE1, 0xEC), (0x80, 0xBF), row_mem_table 3 rfl,
              by omega⟩
        · by_cases hED : c.toNat < 0xD800
          · exact
              ⟨(0xED, 0xED), (0x80, 0x9F), row_mem_table 4 rfl,
                by omega⟩
          · exact
              ⟨(0xEE, 0xEF), (0x80, 0xBF), row_mem_table 5 rfl,
                by omega⟩
    rcases hRow with ⟨first, second, hRow, hBounds⟩
    apply hInRow _ hRow
    all_goals
      simp only [List.forall₂_cons,
        List.forall₂_nil_left_iff, and_true, Within,
        codePoint, UInt8.toNat_ofNat']
      omega
  · have hRow :
        ∃ first second,
          [first, second, (0x80, 0xBF), (0x80, 0xBF)] ∈
              table ∧
            first.1 ≤ 0xF0 + c.toNat / 0x40000 ∧
            0xF0 + c.toNat / 0x40000 ≤ first.2 ∧
            second.1 ≤ 0x80 + c.toNat / 0x1000 % 0x40 ∧
            0x80 + c.toNat / 0x1000 % 0x40 ≤ second.2 := by
      by_cases hF0 : c.toNat < 0x40000
      · exact
          ⟨(0xF0, 0xF0), (0x90, 0xBF), row_mem_table 6 rfl,
            by omega⟩
      · by_cases hF3 : c.toNat < 0x100000
        · exact
            ⟨(0xF1, 0xF3), (0x80, 0xBF), row_mem_table 7 rfl,
              by omega⟩
        · exact
            ⟨(0xF4, 0xF4), (0x80, 0x8F), row_mem_table 8 rfl,
              by omega⟩
    rcases hRow with ⟨first, second, hRow, hBounds⟩
    apply hInRow _ hRow
    all_goals
      simp only [List.forall₂_cons,
        List.forall₂_nil_left_iff, and_true, Within,
        codePoint, UInt8.toNat_ofNat']
      omega

theorem pushAll_encode
    (c : Char) :
    Decoder.start.pushAll (encode c) = (.start, [c]) := by
  rcases wellFormed_encode c with ⟨hBytes, hPoint⟩
  rw [pushAll_of_wellFormed hBytes, hPoint, scalar_toNat]

/- Decoding undoes encoding. -/
theorem pushAll_encodeAll
    (chars : List Char) :
    Decoder.start.pushAll (encodeAll chars) =
      (.start, chars) := by
  induction chars with
  | nil => rfl
  | cons c chars hRest =>
      unfold encodeAll at hRest ⊢
      rw [List.flatMap_cons, Decoder.pushAll_append,
        pushAll_encode, hRest]
      rfl

theorem encodeAll_injective
    {chars other : List Char}
    (hBytes : encodeAll chars = encodeAll other) :
    chars = other := by
  have hRead := congrArg Decoder.start.pushAll hBytes
  rw [pushAll_encodeAll, pushAll_encodeAll] at hRead
  exact congrArg Prod.snd hRead

end Utf8

end VideoTerminal
