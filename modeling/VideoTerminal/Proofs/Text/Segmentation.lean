import Mathlib.Data.Nat.Find
import VideoTerminal.Proofs.Text.Sequences

/-
  The division of bytes into pieces that stand for one
  character each: well-formed sequences, and where there is
  none the longest beginning of one.  It is what the decoder
  follows, in whatever chunks the bytes come.

  Main declarations:
    * `Utf8.Segmentation`
    * `Utf8.Segmentation.pushAll`
    * `Utf8.exists_segmentation`
    * `Utf8.segmentation_iff_pushChunks`
-/

namespace VideoTerminal

namespace Utf8

------------------------------------------------------------
-- Pieces
------------------------------------------------------------

/-
  A piece that some bytes start with, and the longest of those
  that have a property.
-/
structure Longest
    (P : List UInt8 → Prop)
    (piece bytes : List UInt8) : Prop where
  holds : P piece
  starts : piece <+: bytes
  longest :
    ∀ other,
      P other → other <+: bytes → other.length ≤ piece.length

/- Some bytes start with no piece that has a property. -/
def StartsNone
    (P : List UInt8 → Prop)
    (bytes : List UInt8) : Prop :=
  ∀ other, P other → ¬other <+: bytes

/- Some bytes start with a piece of a given length. -/
def StartsWith
    (P : List UInt8 → Prop)
    (bytes : List UInt8)
    (length : Nat) : Prop :=
  ∃ piece, P piece ∧ piece <+: bytes ∧ piece.length = length

open Classical in
/- Among the pieces with a property one is the longest. -/
theorem exists_longest
    {P : List UInt8 → Prop}
    {bytes : List UInt8}
    (hSome : ¬StartsNone P bytes) :
    ∃ piece, Longest P piece bytes := by
  unfold StartsNone at hSome
  push Not at hSome
  rcases hSome with ⟨piece, hPiece, hStarts⟩
  have hBest :
      StartsWith P bytes
        (Nat.findGreatest (StartsWith P bytes)
          bytes.length) :=
    Nat.findGreatest_spec hStarts.length_le
      ⟨piece, hPiece, hStarts, rfl⟩
  rcases hBest with ⟨best, hBest, hBestStarts, hLength⟩
  refine ⟨best, hBest, hBestStarts, ?_⟩
  intro other hOther hOtherStarts
  rw [hLength]
  exact
    Nat.le_findGreatest hOtherStarts.length_le
      ⟨other, hOther, hOtherStarts, rfl⟩

------------------------------------------------------------
-- Segmentations
------------------------------------------------------------

/-
  The characters that bytes stand for, and whether a sequence
  is left unfinished at the end.  Each piece is taken from the
  front of the bytes.
-/
inductive Segmentation :
    List UInt8 → List Char → Bool → Prop where
  | done : Segmentation [] [] false
  | sequence
      {piece rest : List UInt8}
      {c : Char}
      {chars : List Char}
      {pending : Bool}
      (hPiece : Longest WellFormed piece (piece ++ rest))
      (hChar : c.toNat = codePoint piece)
      (hRest : Segmentation rest chars pending) :
      Segmentation (piece ++ rest) (c :: chars) pending
  | subpart
      {piece rest : List UInt8}
      {chars : List Char}
      {pending : Bool}
      (hNone : StartsNone WellFormed (piece ++ rest))
      (hPiece : Longest Begun piece (piece ++ rest))
      (hMore : rest ≠ [])
      (hRest : Segmentation rest chars pending) :
      Segmentation (piece ++ rest) (replacement :: chars)
        pending
  | stray
      {byte : UInt8}
      {rest : List UInt8}
      {chars : List Char}
      {pending : Bool}
      (hNone : StartsNone WellFormed (byte :: rest))
      (hBegun : StartsNone Begun (byte :: rest))
      (hRest : Segmentation rest chars pending) :
      Segmentation (byte :: rest) (replacement :: chars)
        pending
  | unfinished
      {piece : List UInt8}
      (hNone : StartsNone WellFormed piece)
      (hPiece : Begun piece) :
      Segmentation piece [] true

/- Every byte string has a segmentation. -/
theorem exists_segmentation
    (bytes : List UInt8) :
    ∃ chars pending, Segmentation bytes chars pending := by
  induction hLength : bytes.length using Nat.strong_induction_on
    generalizing bytes with
  | h n hShorter =>
      have hRest :
          ∀ {piece rest : List UInt8},
            piece ≠ [] → piece ++ rest = bytes →
              ∃ chars pending,
                Segmentation rest chars pending := by
        intro piece rest hSome hBytes
        apply hShorter rest.length _ rest rfl
        have hPiece := List.length_pos_iff.mpr hSome
        rw [← hLength, ← hBytes, List.length_append]
        omega
      by_cases hNone : StartsNone WellFormed bytes
      · by_cases hBegun : StartsNone Begun bytes
        · cases bytes with
          | nil => exact ⟨[], false, .done⟩
          | cons byte rest =>
              rcases hRest (List.cons_ne_nil byte [])
                  (List.singleton_append) with
                ⟨chars, pending, hSegments⟩
              exact
                ⟨_, _, .stray hNone hBegun hSegments⟩
        · rcases exists_longest hBegun with ⟨piece, hPiece⟩
          rcases hPiece.starts with ⟨rest, rfl⟩
          by_cases hMore : rest = []
          · subst hMore
            rw [List.append_nil] at hNone ⊢
            exact ⟨_, _, .unfinished hNone hPiece.holds⟩
          · rcases hRest hPiece.holds.1 rfl with
              ⟨chars, pending, hSegments⟩
            exact
              ⟨_, _, .subpart hNone hPiece hMore hSegments⟩
      · rcases exists_longest hNone with ⟨piece, hPiece⟩
        rcases hPiece.starts with ⟨rest, rfl⟩
        rcases hRest hPiece.holds.ne_nil rfl with
          ⟨chars, pending, hSegments⟩
        have hChar :=
          toNat_scalar hPiece.holds.isValidChar_codePoint
        exact ⟨_, _, .sequence hPiece hChar hSegments⟩

------------------------------------------------------------
-- The Decoder
------------------------------------------------------------

/-
  The byte after the longest beginning of a sequence is none
  that may follow there.
-/
theorem Longest.not_within
    {piece rest : List UInt8}
    {byte : UInt8}
    {sequence : Pending}
    (hNone : StartsNone WellFormed (piece ++ byte :: rest))
    (hPiece : Longest Begun piece (piece ++ byte :: rest))
    (hAwaits : Awaits piece sequence) :
    ¬Within (sequence.lower, sequence.upper) byte := by
  intro hByte
  have hStarts :
      piece ++ [byte] <+: piece ++ byte :: rest :=
    ⟨rest, by rw [List.append_assoc, List.singleton_append]⟩
  cases hLater : sequence.later with
  | zero =>
      apply hNone (piece ++ [byte]) _ hStarts
      rw [hAwaits.wellFormed_append_iff, Pending.ranges,
        hLater]
      exact .cons hByte .nil
  | succ later =>
      have hLonger :=
        hPiece.longest _ (hAwaits.next hLater hByte).begun
          hStarts
      rw [List.length_append, List.length_singleton]
        at hLonger
      omega

/- A byte that starts nothing is malformed by itself. -/
theorem lead_of_startsNone
    {byte : UInt8}
    {rest : List UInt8}
    (hNone : StartsNone WellFormed (byte :: rest))
    (hBegun : StartsNone Begun (byte :: rest)) :
    lead byte = (.start, [replacement]) := by
  have hStarts : [byte] <+: byte :: rest := ⟨rest, rfl⟩
  rcases lead_cases byte with
    ⟨hAscii, _⟩ | ⟨sequence, hLead, _⟩ | ⟨_, hLead⟩
  · have hSelf : WellFormed [byte] :=
      ⟨[(0x00, 0x7F)], row_mem_table 0 rfl,
        .cons ⟨Nat.zero_le _, Nat.le_of_lt_succ hAscii⟩ .nil⟩
    exact absurd hStarts (hNone _ hSelf)
  · exact absurd hStarts (hBegun _ (Awaits.lead hLead).begun)
  · exact hLead

/- The decoder follows the segmentation. -/
theorem Segmentation.pushAll
    {bytes : List UInt8}
    {chars : List Char}
    {pending : Bool}
    (hSegments : Segmentation bytes chars pending) :
    (Decoder.start.pushAll bytes).2 = chars ∧
      (Decoder.start.pushAll bytes).1.isPending =
        pending := by
  induction hSegments with
  | done => exact ⟨rfl, rfl⟩
  | sequence hPiece hChar _ hRest =>
      rw [Decoder.pushAll_append,
        pushAll_of_wellFormed hPiece.holds, ← hChar,
        scalar_toNat]
      exact ⟨congrArg _ hRest.1, hRest.2⟩
  | @subpart piece rest chars pending hNone hPiece hMore _
      hRest =>
      rcases exists_awaits_of_begun hPiece.holds with
        ⟨sequence, hAwaits⟩
      cases rest with
      | nil => exact absurd rfl hMore
      | cons byte rest =>
          have hByte :=
            Longest.not_within hNone hPiece hAwaits
          rw [Decoder.pushAll_append, hAwaits.pushAll,
            Decoder.pushAll_cons, push_outside hByte]
          exact
            ⟨congrArg (replacement :: ·) hRest.1, hRest.2⟩
  | stray hNone hBegun _ hRest =>
      rw [Decoder.pushAll_cons,
        show Decoder.start.push _ = _ from
          lead_of_startsNone hNone hBegun]
      exact ⟨congrArg _ hRest.1, hRest.2⟩
  | unfinished _ hPiece =>
      rcases exists_awaits_of_begun hPiece with
        ⟨sequence, hAwaits⟩
      rw [hAwaits.pushAll]
      exact ⟨rfl, rfl⟩

------------------------------------------------------------
-- Chunks
------------------------------------------------------------

/- Read chunks of bytes one after the other. -/
def Decoder.pushChunks
    (decoder : Decoder) :
    List (List UInt8) → Decoder × List Char
  | [] => (decoder, [])
  | chunk :: chunks =>
    let (next, chars) := decoder.pushAll chunk
    let (last, rest) := next.pushChunks chunks
    (last, chars ++ rest)

theorem pushChunks_eq
    (decoder : Decoder)
    (chunks : List (List UInt8)) :
    decoder.pushChunks chunks =
      decoder.pushAll chunks.flatten := by
  induction chunks generalizing decoder with
  | nil => rfl
  | cons chunk chunks hRest =>
      rw [List.flatten_cons, Decoder.pushAll_append, ← hRest]
      rfl

/-
  In whatever chunks bytes come, the decoder gives exactly the
  characters of their segmentation, and is inside a sequence
  exactly where that leaves one unfinished.
-/
theorem segmentation_iff_pushChunks
    (chunks : List (List UInt8))
    (chars : List Char)
    (pending : Bool) :
    Segmentation chunks.flatten chars pending ↔
      (Decoder.start.pushChunks chunks).2 = chars ∧
        (Decoder.start.pushChunks chunks).1.isPending =
          pending := by
  rw [pushChunks_eq]
  constructor
  · exact Segmentation.pushAll
  · rintro ⟨rfl, rfl⟩
    rcases exists_segmentation chunks.flatten with
      ⟨chars, pending, hSegments⟩
    rcases hSegments.pushAll with ⟨hChars, hPending⟩
    rw [hChars, hPending]
    exact hSegments

end Utf8

end VideoTerminal
