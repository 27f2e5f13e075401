import VideoTerminal.Proofs.Control.Strings

/-
  Strings that are longer than what is kept of one.  What
  should be kept is the longest beginning that has room.  The
  parser keeps that exactly if the character that is dropped
  first leaves no room for a shorter one behind it, because
  each character is judged by itself.

  Main declarations:
    * `Parser.truncated`
    * `Parser.LongestKept`
    * `Parser.longestKept_truncated`
    * `Reader.foldl_appendWithin_eq_self_iff`
    * `Parser.run_long_string_iff`
-/

namespace VideoTerminal

namespace Parser

------------------------------------------------------------
-- The Longest Beginning
------------------------------------------------------------

/- The number of bytes that some characters are encoded in. -/
def byteSize
    (chars : List Char) : Nat :=
  (String.ofList chars).utf8ByteSize

theorem byteSize_cons
    (c : Char)
    (chars : List Char) :
    byteSize (c :: chars) = c.utf8Size + byteSize chars := by
  unfold byteSize
  rw [← List.singleton_append, String.ofList_append,
    String.utf8ByteSize_append, ← String.singleton_eq_ofList,
    String.utf8ByteSize_singleton]

/- The characters up to the first one that has no room. -/
def truncated
    (maxBytes : Nat) :
    List Char → List Char
  | [] => []
  | c :: chars =>
    if c.utf8Size ≤ maxBytes then
      c :: truncated (maxBytes - c.utf8Size) chars
    else
      []

/-
  The longest beginning of some characters that has room in a
  number of bytes.
-/
structure LongestKept
    (maxBytes : Nat)
    (kept chars : List Char) : Prop where
  starts : kept <+: chars
  hasRoom : byteSize kept ≤ maxBytes
  longest :
    ∀ other,
      other <+: chars →
        byteSize other ≤ maxBytes →
          other.length ≤ kept.length

/- It ends in front of the first character without room. -/
theorem longestKept_truncated
    (maxBytes : Nat)
    (chars : List Char) :
    LongestKept maxBytes (truncated maxBytes chars) chars := by
  induction chars generalizing maxBytes with
  | nil =>
      exact
        { starts := List.nil_prefix
          hasRoom := Nat.zero_le _
          longest := fun other hStarts _ => hStarts.length_le }
  | cons c chars hRest =>
      unfold truncated
      split
      · rename_i hRoom
        have hKept := hRest (maxBytes - c.utf8Size)
        refine ⟨?_, ?_, ?_⟩
        · exact
            List.cons_prefix_cons.mpr ⟨rfl, hKept.starts⟩
        · have hSize := hKept.hasRoom
          rw [byteSize_cons]
          omega
        · intro other hStarts hFits
          cases other with
          | nil => exact Nat.zero_le _
          | cons first other =>
              rcases List.cons_prefix_cons.mp hStarts with
                ⟨rfl, hOthers⟩
              rw [byteSize_cons] at hFits
              exact
                Nat.succ_le_succ
                  (hKept.longest other hOthers (by omega))
      · rename_i hNoRoom
        refine
          ⟨List.nil_prefix, Nat.zero_le _, ?_⟩
        intro other hStarts hFits
        cases other with
        | nil => exact Nat.le_refl _
        | cons first other =>
            rcases List.cons_prefix_cons.mp hStarts with
              ⟨rfl, _⟩
            rw [byteSize_cons] at hFits
            omega

end Parser

namespace Reader

------------------------------------------------------------
-- What Is Collected
------------------------------------------------------------

section

variable {maxBytes : Nat} {payload : String}

theorem appendWithin_of_full
    {c : Char}
    (hFull : maxBytes < payload.utf8ByteSize + c.utf8Size) :
    appendWithin maxBytes payload c = payload :=
  if_neg (Nat.not_le.mpr hFull)

theorem utf8ByteSize_le_appendWithin
    (c : Char) :
    payload.utf8ByteSize ≤
      (appendWithin maxBytes payload c).utf8ByteSize := by
  unfold appendWithin
  split
  · rw [String.utf8ByteSize_push]
    exact Nat.le_add_right _ _
  · exact Nat.le_refl _

/- What has been collected is never given up. -/
theorem utf8ByteSize_le_foldl
    (chars : List Char) :
    payload.utf8ByteSize ≤
      (chars.foldl (appendWithin maxBytes)
        payload).utf8ByteSize := by
  induction chars generalizing payload with
  | nil => exact Nat.le_refl _
  | cons c chars hRest =>
      exact
        Nat.le_trans (utf8ByteSize_le_appendWithin c) hRest

/-
  More characters leave a string as it is exactly if none of
  them has room after it.  One that is dropped changes nothing
  for those behind it.
-/
theorem foldl_appendWithin_eq_self_iff
    (chars : List Char) :
    chars.foldl (appendWithin maxBytes) payload = payload ↔
      ∀ c ∈ chars,
        maxBytes < payload.utf8ByteSize + c.utf8Size := by
  induction chars with
  | nil => exact iff_of_true rfl (List.forall_mem_nil _)
  | cons c chars hRest =>
      rw [List.foldl_cons, List.forall_mem_cons]
      by_cases hRoom :
          payload.utf8ByteSize + c.utf8Size ≤ maxBytes
      · refine iff_of_false ?_ ?_
        · intro hSame
          have hLonger :=
            @utf8ByteSize_le_foldl maxBytes (payload.push c)
              chars
          rw [appendWithin, if_pos hRoom] at hSame
          rw [hSame, String.utf8ByteSize_push] at hLonger
          have hPositive := c.utf8Size_pos
          omega
        · exact fun hFull => Nat.not_lt.mpr hRoom hFull.1
      · have hFull := Nat.not_le.mp hRoom
        rw [appendWithin_of_full hFull, hRest]
        exact (and_iff_right hFull).symm

end

end Reader

namespace Parser

/- The string as a whole, by what is collected of it. -/
theorem observe_string
    (parser : Parser)
    {kind : StringKind}
    {introducer chars terminator : List Char}
    (hIntroducer : kind.Introduces introducer)
    (hData : ∀ c ∈ chars, isStringData c)
    (hTerminator : Terminates terminator) :
    parser.observe (introducer ++ chars ++ terminator) =
      (.ground,
        [.string kind
          (chars.foldl
            (Reader.appendWithin parser.maxStringBytes)
              "")]) := by
  rw [observe_eq, Reader.run_append, Reader.run_append,
    Reader.run_introducer _ hIntroducer,
    Reader.run_data _ kind "" hData]
  dsimp only
  rw [Reader.run_terminator _ kind _ hTerminator]
  rfl

------------------------------------------------------------
-- Long Strings
------------------------------------------------------------

/-
  Of a string that is too long, whatever the parser is in the
  middle of and has left behind, exactly the longest beginning
  arrives if no character behind it has room in the bytes that
  are left.  Otherwise something else arrives.
-/
theorem run_long_string_iff
    (parser : Parser)
    {kind : StringKind}
    {introducer chars terminator : List Char}
    (hIntroducer : kind.Introduces introducer)
    (hData : ∀ c ∈ chars, isStringData c)
    (hTerminator : Terminates terminator) :
    let kept := truncated parser.maxStringBytes chars
    LongestKept parser.maxStringBytes kept chars ∧
      (parser.observe (introducer ++ chars ++ terminator) =
          (.ground, [.string kind (.ofList kept)]) ↔
        ∀ c ∈ chars.drop kept.length,
          parser.maxStringBytes <
            byteSize kept + c.utf8Size) := by
  intro kept
  have hKept :=
    longestKept_truncated parser.maxStringBytes chars
  have hSplit : kept ++ chars.drop kept.length = chars :=
    List.prefix_iff_eq_append.mp hKept.starts
  have hCollected :
      chars.foldl
          (Reader.appendWithin parser.maxStringBytes) "" =
        (chars.drop kept.length).foldl
          (Reader.appendWithin parser.maxStringBytes)
            (String.ofList kept) := by
    have hAll :
        kept.foldl
            (Reader.appendWithin parser.maxStringBytes) "" =
          String.ofList kept := by
      rw [Reader.foldl_appendWithin] <;>
        rw [String.empty_append]
      exact hKept.hasRoom
    rw [← hAll, ← List.foldl_append, hSplit]
  refine ⟨hKept, ?_⟩
  rw [observe_string parser hIntroducer hData hTerminator,
    hCollected]
  simp only [Prod.mk.injEq, true_and, List.cons.injEq,
    Event.string.injEq, and_true]
  exact Reader.foldl_appendWithin_eq_self_iff _

/-
  For one, a title of which three bytes are kept.  Its third
  character takes two bytes where one is left, and the last
  one three.
-/
theorem run_long_title :
    (start 4).observe
        (['\x1B', 'k'] ++ ['a', 'é', 'é', '€'] ++ ['\x07']) =
      (.ground, [.string .title (.ofList ['a', 'é'])]) := by
  have hLong :=
    run_long_string_iff (start 4)
      (show StringKind.title.Introduces ['\x1B', 'k'] from
        .escape)
      (List.all_eq_true.mp
        (show List.all ['a', 'é', 'é', '€'] isStringData by
          decide))
      .bell
  have hDropped :
      ∀ c ∈ ['é', '€'],
        4 < byteSize ['a', 'é'] + c.utf8Size := by
    rw [List.forall_mem_cons, List.forall_mem_singleton]
    decide
  exact hLong.2.mpr hDropped

/-
  So a string is not always cut behind its longest beginning:
  a character that is dropped is followed by a shorter one
  that is kept.
-/
theorem not_forall_run_truncated :
    ¬∀ (parser : Parser) (kind : StringKind)
        (introducer chars terminator kept : List Char),
      kind.Introduces introducer →
        (∀ c ∈ chars, isStringData c) →
          Terminates terminator →
            LongestKept parser.maxStringBytes kept chars →
              parser.observe
                  (introducer ++ chars ++ terminator) =
                (.ground, [.string kind (.ofList kept)]) := by
  intro hAlways
  have hData : ∀ c ∈ ['a', '€', 'b'], isStringData c :=
    List.all_eq_true.mp (by decide)
  have hCut :=
    hAlways (start 2) .systemCommand ['\x1B', ']']
      ['a', '€', 'b'] ['\x07'] ['a'] .escape hData .bell
      (longestKept_truncated 2 ['a', '€', 'b'])
  exact absurd hCut (by decide)

end Parser

end VideoTerminal
