import VideoTerminal.Proofs.Text.Sequences

/-
  Marks that stand in a text.  A mark begins with a character
  that it has nowhere else, so that it cannot overlap itself.
  In UTF-8 a mark of ASCII characters stands where it stands
  in the text.

  Main declarations:
    * `Mark.infix_append_iff`
    * `Mark.forall_last_iff`
    * `Utf8.encodeAll_infix_iff`
-/

namespace VideoTerminal

------------------------------------------------------------
-- Occurrences
------------------------------------------------------------

namespace Mark

section

variable {α : Type} {first : α} {rest front list : List α}

/- Where a mark does not begin it does not stand. -/
theorem infix_append_iff
    (hFirst : first ∉ front) :
    first :: rest <:+: front ++ list ↔
      first :: rest <:+: list := by
  induction front with
  | nil => rfl
  | cons head front hFront =>
      rw [List.mem_cons, not_or] at hFirst
      rw [List.cons_append, List.infix_cons_iff,
        hFront hFirst.2, List.cons_prefix_cons]
      exact or_iff_right fun hHead => hFirst.1 hHead.1

/- A mark behind a text is met in the text or there. -/
theorem infix_or_eq_nil
    (hFirst : first ∉ rest)
    {before after : List α}
    (hSplit :
      front ++ first :: rest =
        before ++ first :: rest ++ after) :
    first :: rest <:+: front ∨ after = [] := by
  rw [List.append_assoc, List.append_eq_append_iff] at hSplit
  rcases hSplit with
    ⟨between, rfl, hMark⟩ | ⟨between, rfl, hMark⟩
  · have hLengths := congrArg List.length hMark
    rw [List.length_append, List.length_append] at hLengths
    exact .inr (List.length_eq_zero_iff.mp (by omega))
  · cases between with
    | nil =>
        have hLength := congrArg List.length hMark
        rw [List.nil_append, List.length_append] at hLength
        exact .inr (List.length_eq_zero_iff.mp (by omega))
    | cons head between =>
        rw [List.cons_append, List.cons_append,
          List.cons.injEq, List.append_eq_append_iff] at hMark
        rcases hMark with
          ⟨rfl,
            ⟨gap, rfl, -⟩ | ⟨overlap, hRest, hHead⟩⟩
        · exact .inl ⟨before, gap, List.append_assoc _ _ _⟩
        · -- The mark would begin once more within itself.
          cases overlap with
          | nil =>
              rw [List.append_nil] at hRest
              rw [hRest]
              exact .inl (List.suffix_append _ _).isInfix
          | cons head overlap =>
              rw [List.cons_append, List.cons.injEq] at hHead
              rw [hRest, hHead.1] at hFirst
              exact
                absurd
                  (List.mem_append_right _ List.mem_cons_self)
                  hFirst

/-
  If a mark is put behind a text, then it stands nowhere else
  if and only if it does not stand in the text.
-/
theorem forall_last_iff
    (hFirst : first ∉ rest) :
    (∀ before after,
        front ++ first :: rest =
            before ++ first :: rest ++ after →
          after = []) ↔
      ¬first :: rest <:+: front := by
  constructor
  · rintro hLast ⟨before, between, rfl⟩
    have hNone :=
      hLast before (between ++ first :: rest)
        (List.append_assoc _ _ _)
    cases List.append_eq_nil_iff.mp hNone |>.2
  · intro hAbsent before after hSplit
    exact
      (infix_or_eq_nil hFirst hSplit).resolve_left hAbsent

end

end Mark

------------------------------------------------------------
-- Marks in UTF-8
------------------------------------------------------------

namespace Utf8

/- The byte of an ASCII character is in no other sequence. -/
theorem mem_encode_iff
    {ascii : Char}
    (hAscii : ascii.toNat < 0x80)
    (c : Char) :
    .ofNat ascii.toNat ∈ encode c ↔ c = ascii := by
  have hScalar : c.toNat.isValidChar := c.valid
  rw [← Char.toNat_inj]
  unfold Nat.isValidChar at hScalar
  unfold encode
  dsimp only
  split_ifs
  all_goals
    simp only [List.mem_cons, List.not_mem_nil, or_false,
      ← UInt8.toNat_inj, UInt8.toNat_ofNat']
    omega

theorem encodeAll_cons_of_ascii
    {ascii : Char}
    (hAscii : ascii.toNat < 0x80)
    (chars : List Char) :
    encodeAll (ascii :: chars) =
      .ofNat ascii.toNat :: encodeAll chars :=
  congrArg (· ++ encodeAll chars) (if_pos hAscii)

theorem encodeAll_prefix_iff
    {mark : List Char}
    (hMark : ∀ c ∈ mark, c.toNat < 0x80)
    (chars : List Char) :
    encodeAll mark <+: encodeAll chars ↔ mark <+: chars := by
  induction mark generalizing chars with
  | nil => exact iff_of_true List.nil_prefix List.nil_prefix
  | cons ascii mark hRest =>
      have hAscii := hMark ascii List.mem_cons_self
      have hOthers :=
        fun c hc => hMark c (List.mem_cons_of_mem _ hc)
      rw [encodeAll_cons_of_ascii hAscii]
      cases chars with
      | nil => exact iff_of_false nofun nofun
      | cons c chars =>
          by_cases hSame : c = ascii
          · rw [hSame, encodeAll_cons_of_ascii hAscii,
              List.cons_prefix_cons, List.cons_prefix_cons,
              hRest hOthers]
            simp only [true_and]
          · refine iff_of_false ?_ ?_
            · have hOther :=
                (mem_encode_iff hAscii c).not.mpr hSame
              rcases
                List.exists_cons_of_ne_nil
                  (wellFormed_encode c).1.ne_nil with
                ⟨byte, bytes, hBytes⟩
              show ¬_ <+: encode c ++ encodeAll chars
              rw [hBytes] at hOther ⊢
              rw [List.cons_append, List.cons_prefix_cons]
              exact fun hHead =>
                hOther (hHead.1 ▸ List.mem_cons_self)
            · rw [List.cons_prefix_cons]
              exact fun hHead => hSame hHead.1.symm

/- A mark of ASCII characters is found in the bytes as well. -/
theorem encodeAll_infix_iff
    {ascii : Char}
    {mark : List Char}
    (hMark : ∀ c ∈ ascii :: mark, c.toNat < 0x80)
    (chars : List Char) :
    encodeAll (ascii :: mark) <:+: encodeAll chars ↔
      ascii :: mark <:+: chars := by
  have hAscii := hMark ascii List.mem_cons_self
  have hPrefix := encodeAll_prefix_iff hMark
  rw [encodeAll_cons_of_ascii hAscii] at hPrefix ⊢
  induction chars with
  | nil =>
      show _ <:+: [] ↔ _
      rw [List.infix_nil, List.infix_nil]
      exact iff_of_false nofun nofun
  | cons c chars hChars =>
      by_cases hSame : c = ascii
      · have hFront := hPrefix (c :: chars)
        rw [hSame, encodeAll_cons_of_ascii hAscii]
          at hFront ⊢
        rw [List.infix_cons_iff, List.infix_cons_iff]
        exact or_congr hFront hChars
      · have hOther :=
          (mem_encode_iff hAscii c).not.mpr hSame
        have hOtherChar : ascii ∉ [c] := by
          rw [List.mem_singleton]
          exact fun hHead => hSame hHead.symm
        exact
          (Mark.infix_append_iff hOther).trans
            (hChars.trans
              (Mark.infix_append_iff hOtherChar).symm)

end Utf8

end VideoTerminal
