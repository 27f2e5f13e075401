import VideoTerminal.Control.Parameters

/-
  What is written between the introducer of a control sequence
  and its final character, and the parameters that reading it
  leaves behind: the first ones of those written, each with
  its decimal value up to the maximum.

  Main declarations:
    * `Numeral`
    * `Numeral.value?`
    * `ParameterText`
    * `ParameterText.written`
    * `Parameters.items_eq`
    * `Parameters.Keeps`
    * `Parameters.Keeps.items_eq`
    * `Parameters.Keeps.readAll_chars`
-/

namespace VideoTerminal

------------------------------------------------------------
-- Numerals
------------------------------------------------------------

/- A decimal numeral, without digits where it is left out. -/
structure Numeral where
  digits : List Char
  isDigit : ∀ c ∈ digits, c.isDigit

namespace Numeral

/- The number that it stands for, up to the maximum. -/
def value?
    (numeral : Numeral) : Option Nat :=
  if numeral.digits = [] then
    none
  else
    some
      (min (Nat.ofDigitChars 10 numeral.digits 0)
        Parameters.maxValue)

end Numeral

------------------------------------------------------------
-- Texts of Parameters
------------------------------------------------------------

/-
  Parameters as they are written: the first one, and each of
  the others after a colon (`true`) or a semicolon.
-/
structure ParameterText where
  first : Numeral
  others : List (Bool × Numeral)

namespace ParameterText

/- The character in front of a parameter. -/
def separator
    (sub : Bool) : Char :=
  if sub then ':' else ';'

/- A parameter with the separator in front of it. -/
def charsOf
    (item : Bool × Numeral) : List Char :=
  separator item.1 :: item.2.digits

/- The characters of the text. -/
def chars
    (text : ParameterText) : List Char :=
  text.first.digits ++ text.others.flatMap charsOf

/- What a parameter and its separator stand for. -/
def parameter
    (item : Bool × Numeral) : Parameter :=
  ⟨item.2.value?, item.1⟩

/- All the parameters, of which the empty text has none. -/
def written
    (text : ParameterText) : List Parameter :=
  if text.chars = [] then
    []
  else
    parameter (false, text.first) ::
      text.others.map parameter

end ParameterText

------------------------------------------------------------
-- Parameters One after the Other
------------------------------------------------------------

namespace Parameters

section

variable (params : Parameters)

@[simp] theorem length_items :
    params.items.length = params.length := by
  simp [items]

theorem getElem?_items
    (index : Nat) :
    params.items[index]? =
      if index < params.length then
        some ⟨params.get? index, params.isSub index⟩
      else
        none := by
  unfold items
  rw [List.getElem?_map]
  split
  · rename_i hKept
    rw [List.getElem?_range hKept]
    rfl
  · rename_i hPast
    rw [List.getElem?_eq_none (by simpa using hPast)]
    rfl

theorem get?_of_length_le
    {index : Nat}
    (hPast : params.length ≤ index) :
    params.get? index = none :=
  if_neg fun hKept => absurd hKept.1 (Nat.not_lt.mpr hPast)

theorem isSub_of_length_le
    {index : Nat}
    (hPast : params.length ≤ index) :
    params.isSub index = false := by
  unfold isSub
  rw [decide_eq_false (Nat.not_lt.mpr hPast)]
  rfl

theorem get?_eq
    (index : Nat) :
    params.get? index =
      params.items[index]?.bind Parameter.value := by
  rw [getElem?_items]
  split
  · rfl
  · rename_i hPast
    exact params.get?_of_length_le (Nat.le_of_not_lt hPast)

theorem isSub_eq
    (index : Nat) :
    params.isSub index =
      params.items[index]?.any Parameter.sub := by
  rw [getElem?_items]
  split
  · rfl
  · rename_i hPast
    exact params.isSub_of_length_le (Nat.le_of_not_lt hPast)

/- The sub-parameters from some parameter on, one by one. -/
theorem length_takeWhile_isSub
    (start : Nat) :
    ((List.range' start (params.length - start)).takeWhile
        params.isSub).length =
      ((params.items.drop start).takeWhile
        Parameter.sub).length := by
  generalize hCount : params.length - start = count
  induction count generalizing start with
  | zero =>
      rw [List.drop_eq_nil_of_le (by rw [length_items]; omega)]
      rfl
  | succ count hRest =>
      have hStart : start < params.items.length := by
        rw [length_items]
        omega
      have hItem := params.isSub_eq start
      rw [List.getElem?_eq_getElem hStart, Option.any_some]
        at hItem
      rw [List.range'_succ, List.drop_eq_getElem_cons hStart,
        List.takeWhile_cons, List.takeWhile_cons, hItem]
      split
      · rw [List.length_cons, List.length_cons,
          hRest (start + 1) (by omega)]
      · rfl

theorem subCount_eq
    (index : Nat) :
    params.subCount index =
      ((params.items.drop (index + 1)).takeWhile
        Parameter.sub).length :=
  params.length_takeWhile_isSub (index + 1)

theorem isEmpty_eq :
    params.isEmpty = params.items.isEmpty := by
  have hCount : 0 < maxCount := by decide
  rw [Bool.eq_iff_iff, List.isEmpty_iff_length_eq_zero,
    length_items]
  unfold isEmpty length
  rw [beq_iff_eq]
  omega

theorem count_eq
    (index : Nat) :
    params.count index = max 1 (params.getD index 1) := by
  unfold count getD
  cases params.get? index with
  | none => rfl
  | some n =>
      cases n with
      | zero => rfl
      | succ n => exact (Nat.max_eq_right n.succ_pos).symm

end

------------------------------------------------------------
-- Parameters That Are Kept
------------------------------------------------------------

/-
  The parameters are what is left of some that were written:
  the first ones of them.
-/
structure Keeps
    (params : Parameters)
    (items : List Parameter) : Prop where
  started_eq : params.started = min items.length maxStarted
  values_eq :
    ∀ index, (hKept : index < maxCount) →
      params.values[index] =
        (items[index]?.bind Parameter.value).getD 0
  present_eq :
    ∀ index < maxCount,
      params.present.getLsbD index =
        items[index]?.any (·.value.isSome)
  attached_eq :
    ∀ index < maxCount,
      params.attached.getLsbD index =
        items[index]?.any Parameter.sub

theorem maxCount_lt_maxStarted :
    maxCount < maxStarted := by
  decide

theorem getLsbD_setBit
    (mask : BitVec maxCount)
    {bit : Nat}
    (hBit : bit < maxCount)
    (index : Nat) :
    (setBit mask bit).getLsbD index =
      (mask.getLsbD index || decide (bit = index)) := by
  unfold setBit
  rw [BitVec.getLsbD_or, BitVec.getLsbD_twoPow,
    decide_eq_true hBit, Bool.true_and]

/- The parameters after another one has been added. -/
theorem getElem?_concat
    (items : List Parameter)
    (item : Parameter)
    (index : Nat) :
    (items ++ [item])[index]? =
      if index = items.length then
        some item
      else
        items[index]? := by
  rw [List.getElem?_append]
  split
  · rename_i hBefore
    rw [if_neg (Nat.ne_of_lt hBefore)]
  · rename_i hAfter
    split
    · rename_i hSame
      rw [hSame, Nat.sub_self]
      rfl
    · rename_i hOther
      rw [List.getElem?_eq_none (by simp; omega),
        List.getElem?_eq_none (by omega)]

section

variable {params : Parameters} {items : List Parameter}

theorem Keeps.startFirst_eq
    (hKeeps : params.Keeps items)
    (hSome : items ≠ []) :
    params.startFirst = params := by
  have hLength := List.length_pos_iff.mpr hSome
  have hStarted := hKeeps.started_eq
  have hMax := maxCount_lt_maxStarted
  unfold startFirst
  rw [if_neg (by omega)]

/- Of a sequence of which nothing but a marker is read. -/
theorem keeps_empty
    (marker : Option Char) :
    { empty with marker := marker }.Keeps [] where
  started_eq := rfl
  values_eq := by simp [empty]
  present_eq := by simp [empty]
  attached_eq := by simp [empty]

/- The first parameter is started without a value. -/
theorem Keeps.startFirst
    (hKeeps : params.Keeps []) :
    params.startFirst.Keeps [⟨none, false⟩] := by
  have hStarted := hKeeps.started_eq
  have hItem :
      ∀ index,
        [(⟨none, false⟩ : Parameter)][index]? =
          if index = 0 then some ⟨none, false⟩ else none := by
    intro index
    exact getElem?_concat [] ⟨none, false⟩ index
  refine ⟨?_, ?_, ?_, ?_⟩
  · unfold Parameters.startFirst
    rw [if_pos (by simpa using hStarted)]
    rfl
  · intro index hKept
    rw [hItem]
    refine (hKeeps.values_eq index hKept).trans ?_
    split <;> rfl
  · intro index hKept
    rw [hItem]
    refine (hKeeps.present_eq index hKept).trans ?_
    split <;> rfl
  · intro index hKept
    rw [hItem]
    refine (hKeeps.attached_eq index hKept).trans ?_
    split <;> rfl

/- Another parameter starts after those there are. -/
theorem Keeps.pushSeparator
    (hKeeps : params.Keeps items)
    (hSome : items ≠ [])
    (sub : Bool) :
    (params.pushSeparator sub).Keeps
      (items ++ [⟨none, sub⟩]) := by
  have hStarted := hKeeps.started_eq
  have hMax := maxCount_lt_maxStarted
  unfold Parameters.pushSeparator
  rw [hKeeps.startFirst_eq hSome]
  refine ⟨?_, ?_, ?_, ?_⟩
  · dsimp only
    rw [List.length_append, List.length_singleton]
    omega
  · intro index hKept
    rw [getElem?_concat, hKeeps.values_eq index hKept]
    split
    · rename_i hNew
      rw [hNew, List.getElem?_eq_none (Nat.le_refl _)]
      rfl
    · rfl
  · intro index hKept
    rw [getElem?_concat, hKeeps.present_eq index hKept]
    split
    · rename_i hNew
      rw [hNew, List.getElem?_eq_none (Nat.le_refl _)]
      rfl
    · rfl
  · intro index hKept
    have hBefore := hKeeps.attached_eq index hKept
    rw [getElem?_concat]
    dsimp only
    split
    · rename_i hMark
      rw [getLsbD_setBit _ hMark.2, hBefore]
      split
      · rename_i hNew
        rw [decide_eq_true (by omega), Bool.or_true]
        exact hMark.1.symm
      · rename_i hOld
        rw [decide_eq_false (by omega), Bool.or_false]
    · rename_i hNoMark
      rw [hBefore]
      split
      · rename_i hNew
        have hSub : sub = false := by
          rw [← Bool.not_eq_true]
          intro hSub
          exact hNoMark ⟨hSub, by omega⟩
        rw [hNew, List.getElem?_eq_none (Nat.le_refl _), hSub]
        rfl
      · rfl

/- A digit belongs to the latest one, whether kept or not. -/
theorem Keeps.pushDigit
    {value : Option Nat}
    {sub : Bool}
    (hKeeps : params.Keeps (items ++ [⟨value, sub⟩]))
    (digit : Nat) :
    (params.pushDigit digit).Keeps
      (items ++
        [⟨some (appendDigit (value.getD 0) digit), sub⟩]) := by
  have hStarted := hKeeps.started_eq
  have hMax := maxCount_lt_maxStarted
  have hLatest := fun item : Parameter =>
    getElem?_concat items item
  rw [List.length_append, List.length_singleton] at hStarted
  unfold Parameters.pushDigit appendAt
  rw [hKeeps.startFirst_eq (List.concat_ne_nil _ _)]
  dsimp only
  split
  · rename_i hKept
    have hIndex : params.started - 1 = items.length := by omega
    refine ⟨?_, ?_, ?_, ?_⟩
    · rw [List.length_append, List.length_singleton]
      exact hStarted
    · intro index hRoom
      have hOld := hKeeps.values_eq (params.started - 1) hKept
      have hBefore := hKeeps.values_eq index hRoom
      dsimp only
      rw [hLatest] at hOld hBefore ⊢
      rw [Vector.getElem_set]
      split
      · rename_i hNew
        rw [if_pos hIndex] at hOld
        rw [if_pos (by omega), hOld]
        rfl
      · rename_i hOther
        rw [if_neg (by omega)] at hBefore ⊢
        exact hBefore
    · intro index hRoom
      have hBefore := hKeeps.present_eq index hRoom
      dsimp only
      rw [hLatest] at hBefore ⊢
      rw [getLsbD_setBit _ hKept, hBefore]
      split
      · rename_i hNew
        rw [decide_eq_true (by omega), Bool.or_true]
        rfl
      · rename_i hOther
        rw [decide_eq_false (by omega), Bool.or_false]
    · intro index hRoom
      have hBefore := hKeeps.attached_eq index hRoom
      rw [hLatest] at hBefore ⊢
      rw [hBefore]
      split <;> rfl
  · rename_i hPast
    have hFirst :
        ∀ (item : Parameter) (index : Nat),
          index < maxCount →
            (items ++ [item])[index]? = items[index]? := by
      intro item index hRoom
      rw [hLatest, if_neg (by omega)]
    refine ⟨?_, ?_, ?_, ?_⟩
    · rw [List.length_append, List.length_singleton]
      exact hStarted
    · intro index hRoom
      rw [hKeeps.values_eq index hRoom, hFirst _ _ hRoom,
        hFirst _ _ hRoom]
    · intro index hRoom
      rw [hKeeps.present_eq index hRoom, hFirst _ _ hRoom,
        hFirst _ _ hRoom]
    · intro index hRoom
      rw [hKeeps.attached_eq index hRoom, hFirst _ _ hRoom,
        hFirst _ _ hRoom]

/- What is kept, one after the other. -/
theorem Keeps.length_eq
    (hKeeps : params.Keeps items) :
    params.length = min items.length maxCount := by
  have hStarted := hKeeps.started_eq
  have hMax := maxCount_lt_maxStarted
  unfold length
  omega

theorem Keeps.items_eq
    (hKeeps : params.Keeps items) :
    params.items = items.take maxCount := by
  have hLength := hKeeps.length_eq
  apply List.ext_getElem?
  intro index
  rw [getElem?_items, List.getElem?_take]
  by_cases hIndex : index < params.length
  · have hRoom : index < maxCount := by omega
    have hWritten : index < items.length := by omega
    have hValue := hKeeps.values_eq index hRoom
    have hPresent := hKeeps.present_eq index hRoom
    have hAttached := hKeeps.attached_eq index hRoom
    rw [List.getElem?_eq_getElem hWritten]
      at hValue hPresent hAttached ⊢
    rw [if_pos hIndex, if_pos hRoom]
    unfold get? isSub
    rw [decide_eq_true hIndex, hAttached, hPresent,
      Vector.getElem?_eq_getElem hRoom, hValue]
    cases hItem : items[index] with
    | mk value sub => cases value <;> simp [hIndex]
  · rw [if_neg hIndex]
    by_cases hRoom : index < maxCount
    · rw [if_pos hRoom, List.getElem?_eq_none (by omega)]
    · rw [if_neg hRoom]

end

------------------------------------------------------------
-- Reading Parameters
------------------------------------------------------------

/- Read a character of a parameter text. -/
def read
    (params : Parameters)
    (c : Char) : Parameters :=
  if c.isDigit then
    params.pushDigit (c.toNat - '0'.toNat)
  else
    params.pushSeparator (c == ':')

theorem read_separator
    (params : Parameters)
    (sub : Bool) :
    params.read (ParameterText.separator sub) =
      params.pushSeparator sub := by
  cases sub with
  | false => rfl
  | true => rfl

/- A number and the digits after it, up to the maximum. -/
theorem appendDigit_min
    (n digit : Nat) :
    appendDigit (min n maxValue) digit =
      min (10 * n + digit) maxValue := by
  unfold appendDigit
  omega

theorem startFirst_startFirst
    (params : Parameters) :
    params.startFirst.startFirst = params.startFirst := by
  unfold startFirst
  dsimp only
  split <;> simp_all

/- The first parameter is started by whatever is read. -/
theorem readAll_startFirst
    (params : Parameters)
    {chars : List Char}
    (hSome : chars ≠ []) :
    chars.foldl read params.startFirst =
      chars.foldl read params := by
  cases chars with
  | nil => exact absurd rfl hSome
  | cons c chars =>
      have hFirst :
          params.startFirst.read c = params.read c := by
        unfold read pushDigit pushSeparator
        rw [startFirst_startFirst]
      rw [List.foldl_cons, List.foldl_cons, hFirst]

/- Neither marker nor intermediate character is among them. -/
theorem qualifiers_readAll
    (params : Parameters)
    (chars : List Char) :
    (chars.foldl read params).marker = params.marker ∧
      (chars.foldl read params).intermediate =
        params.intermediate := by
  induction chars generalizing params with
  | nil => exact ⟨rfl, rfl⟩
  | cons c chars hRest =>
      have hOne :
          (params.read c).marker = params.marker ∧
            (params.read c).intermediate =
              params.intermediate := by
        unfold read pushDigit appendAt
        dsimp only
        repeat' split
        all_goals exact ⟨rfl, rfl⟩
      rw [List.foldl_cons, ← hOne.1, ← hOne.2]
      exact hRest _

section

variable {params : Parameters} {items : List Parameter}

/- Reading more digits goes on from the number so far. -/
theorem Keeps.readAll_digits
    {n : Nat}
    {sub : Bool}
    (hKeeps :
      params.Keeps (items ++ [⟨some (min n maxValue), sub⟩]))
    {digits : List Char}
    (hDigits : ∀ c ∈ digits, c.isDigit) :
    (digits.foldl read params).Keeps
      (items ++
        [⟨some (min (Nat.ofDigitChars 10 digits n) maxValue),
          sub⟩]) := by
  induction digits generalizing params n with
  | nil => exact hKeeps
  | cons c digits hRest =>
      have hDigit := hDigits c List.mem_cons_self
      have hOne := hKeeps.pushDigit (c.toNat - '0'.toNat)
      rw [Option.getD_some, appendDigit_min] at hOne
      rw [List.foldl_cons, read, if_pos hDigit,
        Nat.ofDigitChars_cons]
      exact
        hRest hOne fun other hMem =>
          hDigits other (List.mem_cons_of_mem _ hMem)

/- A parameter that has just been started. -/
theorem Keeps.readAll_numeral
    {sub : Bool}
    (hKeeps : params.Keeps (items ++ [⟨none, sub⟩]))
    (numeral : Numeral) :
    (numeral.digits.foldl read params).Keeps
      (items ++ [⟨numeral.value?, sub⟩]) := by
  have hValid := numeral.isDigit
  unfold Numeral.value?
  cases hDigits : numeral.digits with
  | nil => exact hKeeps
  | cons c digits =>
      rw [hDigits] at hValid
      have hDigit := hValid c List.mem_cons_self
      have hOne := hKeeps.pushDigit (c.toNat - '0'.toNat)
      have hFirst :
          ∀ digit,
            appendDigit ((none : Option Nat).getD 0) digit =
              min (10 * 0 + digit) maxValue := by
        intro digit
        simp [appendDigit]
      rw [hFirst] at hOne
      rw [if_neg (List.cons_ne_nil _ _), List.foldl_cons,
        read, if_pos hDigit, Nat.ofDigitChars_cons]
      exact
        hOne.readAll_digits fun other hMem =>
          hValid other (List.mem_cons_of_mem _ hMem)

theorem Keeps.readAll_others
    (hKeeps : params.Keeps items)
    (hSome : items ≠ [])
    (others : List (Bool × Numeral)) :
    ((others.flatMap ParameterText.charsOf).foldl read
        params).Keeps
      (items ++ others.map ParameterText.parameter) := by
  induction others generalizing params items with
  | nil =>
      rw [List.map_nil, List.append_nil]
      exact hKeeps
  | cons item others hRest =>
      have hOne :=
        (hKeeps.pushSeparator hSome item.1).readAll_numeral
          item.2
      rw [List.flatMap_cons, List.foldl_append,
        ParameterText.charsOf, List.foldl_cons,
        read_separator, List.map_cons, ← List.singleton_append,
        ← List.append_assoc]
      exact hRest hOne (List.concat_ne_nil _ _)

/-
  Reading the text of some parameters leaves the first ones of
  those that are written there.
-/
theorem Keeps.readAll_chars
    (hKeeps : params.Keeps [])
    (text : ParameterText) :
    (text.chars.foldl read params).Keeps text.written := by
  have hFirst := hKeeps.startFirst
  rw [← List.nil_append [_]] at hFirst
  have hNumeral := hFirst.readAll_numeral text.first
  unfold ParameterText.written
  split
  · rename_i hEmpty
    rw [hEmpty]
    exact hKeeps
  · rename_i hSome
    rw [← readAll_startFirst params hSome,
      ParameterText.chars, List.foldl_append]
    exact
      hNumeral.readAll_others (List.concat_ne_nil _ _) _

end

end Parameters

end VideoTerminal
