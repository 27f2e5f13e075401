import VideoTerminal.Text.Linked

/-
  Base64 undone.  A library that decodes the standard encoding
  gives back the bytes that were encoded.  Of a text that is
  cut it gives back the bytes of the whole groups, if it is
  cut between groups, and nothing otherwise.  The one that
  terminals are linked with does decode it.

  Main declarations:
    * `TextLibrary.ReadsBase64`
    * `TextLibrary.ReadsBase64.take_encode`
    * `TextLibrary.ReadsBase64.decodeBase64?_take_encode`
    * `Base64.decode?_encode`
    * `Base64.readsBase64`
-/

namespace VideoTerminal

------------------------------------------------------------
-- Libraries
------------------------------------------------------------

/- The characters of standard base64. -/
def Base64.alphabet : List Char :=
  ['A', 'B', 'C', 'D', 'E', 'F', 'G', 'H', 'I', 'J', 'K',
    'L', 'M', 'N', 'O', 'P', 'Q', 'R', 'S', 'T', 'U', 'V',
    'W', 'X', 'Y', 'Z', 'a', 'b', 'c', 'd', 'e', 'f', 'g',
    'h', 'i', 'j', 'k', 'l', 'm', 'n', 'o', 'p', 'q', 'r',
    's', 't', 'u', 'v', 'w', 'x', 'y', 'z', '0', '1', '2',
    '3', '4', '5', '6', '7', '8', '9', '+', '/', '=']

namespace TextLibrary

/-
  The encoder writes standard base64: characters of its
  alphabet, a group of four for each three bytes, and a padded
  one for what is left.  The library gives back what has been
  encoded, and refuses characters left over behind the last
  group, as padding is required.
-/
structure ReadsBase64
    [TextLibrary]
    (encode : List UInt8 → List Char) : Prop where
  mem_alphabet :
    ∀ bytes, ∀ c ∈ encode bytes, c ∈ Base64.alphabet
  length_encode :
    ∀ bytes,
      (encode bytes).length = 4 * ((bytes.length + 2) / 3)
  encode_append :
    ∀ front bytes,
      front.length % 3 = 0 →
        encode (front ++ bytes) = encode front ++ encode bytes
  decode_encode :
    ∀ bytes, decodeBase64? (encode bytes) = some bytes
  decode_leftOver :
    ∀ chars : List Char,
      chars.length % 4 ≠ 0 → decodeBase64? chars = none

namespace ReadsBase64

variable [TextLibrary] {encode : List UInt8 → List Char}
  (hEncode : ReadsBase64 encode)

include hEncode

/- What holds throughout the alphabet holds of what it writes. -/
theorem forall_mem_encode
    {property : Char → Prop}
    [DecidablePred property]
    (hAlphabet :
      Base64.alphabet.all fun c => decide (property c))
    (bytes : List UInt8) :
    ∀ c ∈ encode bytes, property c := by
  intro c hChar
  have hAll := List.all_eq_true.mp hAlphabet
  exact
    of_decide_eq_true
      (hAll c (hEncode.mem_alphabet bytes c hChar))

/- Whole groups of characters are whole groups of bytes. -/
theorem take_encode
    {bytes : List UInt8}
    {groups : Nat}
    (hGroups : 3 * groups ≤ bytes.length) :
    (encode bytes).take (4 * groups) =
      encode (bytes.take (3 * groups)) := by
  have hFront : (bytes.take (3 * groups)).length = 3 * groups :=
    List.length_take_of_le hGroups
  have hLength :
      (encode (bytes.take (3 * groups))).length =
        4 * groups := by
    rw [hEncode.length_encode, hFront]
    omega
  have hSplit :=
    hEncode.encode_append (bytes.take (3 * groups))
      (bytes.drop (3 * groups)) (by omega)
  rw [List.take_append_drop] at hSplit
  rw [hSplit, List.take_left' hLength]

/-
  Of encoded text that is cut, the groups in front of the cut
  are read if no part of another one is left.
-/
theorem decodeBase64?_take_encode
    {bytes : List UInt8}
    {length : Nat}
    (hLength : length ≤ (encode bytes).length) :
    decodeBase64? ((encode bytes).take length) =
      if length % 4 = 0 then
        some (bytes.take (3 * (length / 4)))
      else
        none := by
  split
  · rename_i hWhole
    obtain ⟨groups, rfl⟩ := Nat.dvd_of_mod_eq_zero hWhole
    rw [hEncode.length_encode] at hLength
    rw [Nat.mul_div_cancel_left groups (by decide)]
    rcases Nat.le_total (3 * groups) bytes.length with
      hSome | hAll
    · rw [hEncode.take_encode hSome, hEncode.decode_encode]
    · have hText : (encode bytes).length ≤ 4 * groups := by
        rw [hEncode.length_encode]
        omega
      rw [List.take_of_length_le hText,
        List.take_of_length_le hAll, hEncode.decode_encode]
  · rename_i hPart
    apply hEncode.decode_leftOver
    rw [List.length_take_of_le hLength]
    exact hPart

end ReadsBase64

end TextLibrary

namespace Base64

------------------------------------------------------------
-- Characters
------------------------------------------------------------

theorem value?_digit :
    ∀ n < 64, value? (digit n) = some n := by
  decide

theorem digit_ne_padding :
    ∀ n < 64, digit n ≠ '=' := by
  decide

theorem digit_mem_alphabet :
    ∀ n < 64, digit n ∈ alphabet := by
  decide

theorem mem_alphabet_of_mem_encode
    (bytes : List UInt8) :
    ∀ c ∈ encode bytes, c ∈ alphabet := by
  have hDigit := digit_mem_alphabet
  have hPadding : '=' ∈ alphabet := by decide
  fun_induction encode bytes with
  | case1 => exact List.forall_mem_nil _
  | case2 x =>
      have hX := x.toNat_lt
      simp only [List.forall_mem_cons]
      exact
        ⟨hDigit _ (by omega), hDigit _ (by omega), hPadding,
          hPadding, List.forall_mem_nil _⟩
  | case3 x y =>
      have hX := x.toNat_lt
      have hY := y.toNat_lt
      simp only [List.forall_mem_cons]
      exact
        ⟨hDigit _ (by omega), hDigit _ (by omega),
          hDigit _ (by omega), hPadding,
          List.forall_mem_nil _⟩
  | case4 x y z rest hRest =>
      have hX := x.toNat_lt
      have hY := y.toNat_lt
      have hZ := z.toNat_lt
      simp only [List.forall_mem_cons]
      exact
        ⟨hDigit _ (by omega), hDigit _ (by omega),
          hDigit _ (by omega), hDigit _ (by omega), hRest⟩

------------------------------------------------------------
-- Lengths
------------------------------------------------------------

theorem length_encode
    (bytes : List UInt8) :
    (encode bytes).length = 4 * ((bytes.length + 2) / 3) := by
  fun_induction encode bytes with
  | case1 => rfl
  | case2 x => simp
  | case3 x y => simp
  | case4 x y z rest hRest =>
      simp only [List.length_cons, hRest]
      omega

/- Behind whole groups encoding starts anew. -/
theorem encode_append :
    ∀ {front : List UInt8} (bytes : List UInt8),
      front.length % 3 = 0 →
        encode (front ++ bytes) = encode front ++ encode bytes
  | [], _, _ => rfl
  | [_], _, hLength | [_, _], _, hLength => by
      simp only [List.length_cons, List.length_nil]
        at hLength
      omega
  | x :: y :: z :: rest, bytes, hLength => by
      have hRest : rest.length % 3 = 0 := by
        simp only [List.length_cons] at hLength
        omega
      show _ :: _ :: _ :: _ :: encode (rest ++ bytes) = _
      rw [encode_append bytes hRest]
      rfl

------------------------------------------------------------
-- Decoding by Groups
------------------------------------------------------------

/- A group without padding is read before the others. -/
theorem decode?_group
    {a b c d : Char}
    {group : List UInt8}
    (hPadding : d ≠ '=')
    (hGroup : decodeThree? a b c d = some group)
    (rest : List Char) :
    decode? (a :: b :: c :: d :: rest) =
      (decode? rest).map (group ++ ·) := by
  cases rest with
  | nil =>
      rw [decode?.eq_def]
      dsimp only
      rw [if_neg hPadding, hGroup]
      exact congrArg some (List.append_nil _).symm
  | cons e rest =>
      rw [decode?.eq_def]
      dsimp only
      rw [hGroup]
      cases decode? (e :: rest) <;> rfl

/- Characters left over behind the last group are refused. -/
theorem decode?_eq_none_of_length :
    ∀ {chars : List Char},
      chars.length % 4 ≠ 0 → decode? chars = none
  | [], hLength => absurd rfl hLength
  | [_], _ | [_, _], _ | [_, _, _], _ => rfl
  | [_, _, _, _], hLength => absurd (Nat.mod_self 4) hLength
  | a :: b :: c :: d :: e :: rest, hLength => by
      have hRest : decode? (e :: rest) = none := by
        apply decode?_eq_none_of_length
        simp only [List.length_cons] at hLength ⊢
        omega
      rw [decode?.eq_def]
      dsimp only
      rw [hRest]
      cases decodeThree? a b c d <;> rfl

section

variable (x y z : UInt8)

theorem decodeOne?_digits :
    decodeOne? (digit (x.toNat / 4))
        (digit (x.toNat % 4 * 16)) =
      some [x] := by
  have hX := x.toNat_lt
  unfold decodeOne?
  rw [value?_digit _ (by omega), value?_digit _ (by omega)]
  dsimp only
  rw [if_pos (by omega)]
  have hByte :
      x.toNat / 4 * 4 + x.toNat % 4 * 16 / 16 = x.toNat := by
    omega
  rw [hByte, UInt8.ofNat_toNat]

theorem decodeTwo?_digits :
    decodeTwo? (digit (x.toNat / 4))
        (digit (x.toNat % 4 * 16 + y.toNat / 16))
        (digit (y.toNat % 16 * 4)) =
      some [x, y] := by
  have hX := x.toNat_lt
  have hY := y.toNat_lt
  unfold decodeTwo?
  rw [value?_digit _ (by omega), value?_digit _ (by omega),
    value?_digit _ (by omega)]
  dsimp only
  rw [if_pos (by omega)]
  have hFirst :
      x.toNat / 4 * 4 +
          (x.toNat % 4 * 16 + y.toNat / 16) / 16 =
        x.toNat := by
    omega
  have hSecond :
      (x.toNat % 4 * 16 + y.toNat / 16) % 16 * 16 +
          y.toNat % 16 * 4 / 4 =
        y.toNat := by
    omega
  rw [hFirst, hSecond, UInt8.ofNat_toNat, UInt8.ofNat_toNat]

theorem decodeThree?_digits :
    decodeThree? (digit (x.toNat / 4))
        (digit (x.toNat % 4 * 16 + y.toNat / 16))
        (digit (y.toNat % 16 * 4 + z.toNat / 64))
        (digit (z.toNat % 64)) =
      some [x, y, z] := by
  have hX := x.toNat_lt
  have hY := y.toNat_lt
  have hZ := z.toNat_lt
  unfold decodeThree?
  rw [value?_digit _ (by omega), value?_digit _ (by omega),
    value?_digit _ (by omega), value?_digit _ (by omega)]
  dsimp only
  have hFirst :
      x.toNat / 4 * 4 +
          (x.toNat % 4 * 16 + y.toNat / 16) / 16 =
        x.toNat := by
    omega
  have hSecond :
      (x.toNat % 4 * 16 + y.toNat / 16) % 16 * 16 +
          (y.toNat % 16 * 4 + z.toNat / 64) / 4 =
        y.toNat := by
    omega
  have hThird :
      (y.toNat % 16 * 4 + z.toNat / 64) % 4 * 64 +
          z.toNat % 64 =
        z.toNat := by
    omega
  rw [hFirst, hSecond, hThird, UInt8.ofNat_toNat,
    UInt8.ofNat_toNat, UInt8.ofNat_toNat]

end

/- Decoding undoes encoding. -/
theorem decode?_encode
    (bytes : List UInt8) :
    decode? (encode bytes) = some bytes := by
  fun_induction encode bytes with
  | case1 => rfl
  | case2 x =>
      rw [decode?.eq_def]
      dsimp only
      rw [if_pos rfl, if_pos rfl, decodeOne?_digits]
  | case3 x y =>
      have hDigit :=
        digit_ne_padding (y.toNat % 16 * 4) (by omega)
      rw [decode?.eq_def]
      dsimp only
      rw [if_pos rfl, if_neg hDigit, decodeTwo?_digits]
  | case4 x y z rest hRest =>
      have hDigit :=
        digit_ne_padding (z.toNat % 64) (by omega)
      rw [decode?_group hDigit (decodeThree?_digits x y z),
        hRest]
      rfl

/- What terminals are linked with does decode base64. -/
theorem readsBase64 :
    TextLibrary.ReadsBase64 encode where
  mem_alphabet := mem_alphabet_of_mem_encode
  length_encode := length_encode
  encode_append := fun _ => encode_append
  decode_encode := decode?_encode
  decode_leftOver := fun _ => decode?_eq_none_of_length

end Base64

end VideoTerminal
