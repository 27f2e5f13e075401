import VideoTerminal.Proofs.Line.Basic
import VideoTerminal.Scrollback

/-
  The ring of a history as the list of the lines it retains.
  Adding a line puts it in front of that list and lets go of
  the oldest one past the capacity, and taking a line out
  removes the front of it.

  Main declarations:
    * `Scrollback.Aligned`
    * `Scrollback.WellFormed`
    * `Scrollback.retained`
    * `Scrollback.Aligned.getElem?_retained`
    * `Scrollback.Aligned.retained_push`
    * `Scrollback.Aligned.retained_eq_cons`
    * `Scrollback.WellFormed.pushAll`
    * `Scrollback.WellFormed.popInto`
-/

namespace VideoTerminal

namespace Scrollback

------------------------------------------------------------
-- Aligned Rings
------------------------------------------------------------

/-
  The counts of a ring fit its slots.  Until all slots are
  there the ring has not turned over, and each of them retains
  a line.
-/
structure Aligned
    (ring : Scrollback) : Prop where
  slots_le : ring.slots.size ≤ ring.capacity
  size_le_slots : ring.size ≤ ring.slots.size
  size_le_head : ring.size ≤ ring.head
  growing :
    ring.slots.size < ring.capacity →
      ring.size = ring.slots.size ∧
        ring.head = ring.slots.size

theorem aligned_empty
    (capacity : Nat) :
    (empty capacity).Aligned where
  slots_le := Nat.zero_le _
  size_le_slots := Nat.le_refl _
  size_le_head := Nat.le_refl _
  growing := fun _ => ⟨rfl, rfl⟩

section

variable {ring : Scrollback}

theorem Aligned.size_le_capacity
    (hRing : ring.Aligned) :
    ring.size ≤ ring.capacity :=
  Nat.le_trans hRing.size_le_slots hRing.slots_le

theorem Aligned.slot_lt
    (hRing : ring.Aligned)
    {age : Nat}
    (hAge : age < ring.size) :
    ring.slot age < ring.slots.size := by
  have hCapacity := hRing.size_le_capacity
  have hMod :=
    Nat.mod_lt (ring.head - 1 - age)
      (show 0 < ring.capacity by omega)
  have hLe := Nat.mod_le (ring.head - 1 - age) ring.capacity
  unfold slot
  rcases Nat.lt_or_ge ring.slots.size ring.capacity with
    hGrowing | hFull
  · have hSizes := hRing.growing hGrowing
    omega
  · omega

theorem Aligned.exists_get?_eq_some
    (hRing : ring.Aligned)
    {age : Nat}
    (hAge : age < ring.size) :
    ∃ line, ring.get? age = some line := by
  have hSlot := hRing.slot_lt hAge
  refine ⟨ring.slots[ring.slot age], ?_⟩
  rw [get?, if_pos hAge]
  exact Array.getElem?_eq_getElem hSlot

theorem mem_slots_of_get?_eq_some
    {age : Nat}
    {line : Line}
    (hLine : ring.get? age = some line) :
    line ∈ ring.slots := by
  unfold get? at hLine
  split at hLine
  · exact Array.mem_of_getElem? hLine
  · cases hLine

end

------------------------------------------------------------
-- Well-Formed Rings
------------------------------------------------------------

/-
  A ring of lines of a given width.  The slots that retain no
  line any more hold lines as well, which are handed out to be
  used again, and until all slots are there the ring has not
  turned over.
-/
structure WellFormed
    (cols : Nat)
    (ring : Scrollback) : Prop where
  lines :
    ∀ line ∈ ring.slots, line.WellFormed cols
  slots_le : ring.slots.size ≤ ring.capacity
  size_le_slots : ring.size ≤ ring.slots.size
  size_le_head : ring.size ≤ ring.head
  growing :
    ring.slots.size < ring.capacity →
      ring.size = ring.slots.size ∧
        ring.head = ring.slots.size

section

variable {cols : Nat} {ring : Scrollback}

theorem WellFormed.aligned
    (hRing : ring.WellFormed cols) :
    ring.Aligned where
  slots_le := hRing.slots_le
  size_le_slots := hRing.size_le_slots
  size_le_head := hRing.size_le_head
  growing := hRing.growing

theorem Aligned.wellFormed
    (hRing : ring.Aligned)
    (hLines : ∀ line ∈ ring.slots, line.WellFormed cols) :
    ring.WellFormed cols where
  lines := hLines
  slots_le := hRing.slots_le
  size_le_slots := hRing.size_le_slots
  size_le_head := hRing.size_le_head
  growing := hRing.growing

theorem WellFormed.size_le_capacity
    (hRing : ring.WellFormed cols) :
    ring.size ≤ ring.capacity :=
  hRing.aligned.size_le_capacity

theorem WellFormed.of_get?_eq_some
    (hRing : ring.WellFormed cols)
    {age : Nat}
    {line : Line}
    (hLine : ring.get? age = some line) :
    line.WellFormed cols :=
  hRing.lines line (mem_slots_of_get?_eq_some hLine)

end

theorem wellFormed_empty
    (cols capacity : Nat) :
    (empty capacity).WellFormed cols :=
  (aligned_empty capacity).wellFormed (by simp [empty])

------------------------------------------------------------
-- The Retained Lines
------------------------------------------------------------

/- The lines that a ring retains, the newest in front. -/
def retained
    (ring : Scrollback) : List Line :=
  (List.range ring.size).filterMap ring.get?

/- Collecting values that all exist keeps their places. -/
private theorem getElem?_filterMap_range
    {α : Type}
    {value? : Nat → Option α}
    {n : Nat}
    (hAll : ∀ i, i < n → ∃ value, value? i = some value)
    (i : Nat) :
    ((List.range n).filterMap value?)[i]? =
        (if i < n then value? i else none) ∧
      ((List.range n).filterMap value?).length = n := by
  induction n generalizing i with
  | zero => simp
  | succ n hPrefix =>
      have hBefore :
          ∀ j, j < n → ∃ value, value? j = some value :=
        fun j hj => hAll j (by omega)
      rcases hAll n (by omega) with ⟨last, hLast⟩
      have hLength := (hPrefix hBefore 0).2
      have hGet := (hPrefix hBefore i).1
      rw [List.range_succ, List.filterMap_append]
      simp only [List.filterMap_cons, hLast,
        List.filterMap_nil, List.length_append, hLength,
        List.getElem?_append, hGet]
      refine ⟨?_, rfl⟩
      rcases Nat.lt_trichotomy i n with hLt | hEq | hGt
      · simp [hLt, Nat.lt_succ_of_lt hLt]
      · subst hEq
        simp [hLast]
      · simp only [show ¬i < n by omega,
          show ¬i < n + 1 by omega, if_false]
        exact List.getElem?_eq_none
          (by simp only [List.length_singleton]; omega)

section

variable {cols : Nat} {ring : Scrollback}

theorem Aligned.getElem?_retained
    (hRing : ring.Aligned)
    (age : Nat) :
    ring.retained[age]? = ring.get? age := by
  rw [retained,
    (getElem?_filterMap_range
      (fun _ => hRing.exists_get?_eq_some) age).1]
  split
  · rfl
  · rw [get?, if_neg ‹_›]

theorem Aligned.length_retained
    (hRing : ring.Aligned) :
    ring.retained.length = ring.size :=
  (getElem?_filterMap_range
    (fun _ => hRing.exists_get?_eq_some) 0).2

theorem WellFormed.getElem?_retained
    (hRing : ring.WellFormed cols)
    (age : Nat) :
    ring.retained[age]? = ring.get? age :=
  hRing.aligned.getElem?_retained age

theorem WellFormed.length_retained
    (hRing : ring.WellFormed cols) :
    ring.retained.length = ring.size :=
  hRing.aligned.length_retained

theorem WellFormed.of_mem_retained
    (hRing : ring.WellFormed cols)
    {line : Line}
    (hLine : line ∈ ring.retained) :
    line.WellFormed cols := by
  rcases List.mem_filterMap.mp hLine with
    ⟨age, hAge, hGet⟩
  exact hRing.of_get?_eq_some hGet

end

/- The list from the oldest to the newest line. -/
theorem toList_eq_reverse_retained
    (ring : Scrollback) :
    ring.toList = ring.retained.reverse := by
  rw [toList, retained, List.filterMap_reverse]

------------------------------------------------------------
-- Adding a Line
------------------------------------------------------------

/-
  Less than a turn back, the ring is at another slot.
-/
private theorem sub_mod_ne_mod
    {capacity head age : Nat}
    (hPositive : 0 < age)
    (hTurn : age < capacity)
    (hAge : age ≤ head) :
    (head - age) % capacity ≠ head % capacity := by
  intro hSame
  have hZero := Nat.sub_mod_eq_zero_of_mod_eq hSame.symm
  rw [Nat.sub_sub_self hAge, Nat.mod_eq_of_lt hTurn] at hZero
  omega

section

variable {ring : Scrollback}

theorem Aligned.push
    (hRing : ring.Aligned)
    (line : Line)
    (blank : Cell) :
    (ring.push line blank).1.Aligned := by
  have hSlots := hRing.slots_le
  have hSize := hRing.size_le_slots
  have hHead := hRing.size_le_head
  unfold Scrollback.push
  split
  · exact hRing
  · split
    · rename_i hGrowing
      have hSizes := hRing.growing hGrowing
      refine ⟨?_, ?_, ?_, ?_⟩
      · rw [Array.size_push]
        exact hGrowing
      · simp only [Array.size_push]
        omega
      · simp only
        omega
      · simp only [Array.size_push]
        omega
    · rename_i hFull
      refine ⟨?_, ?_, ?_, ?_⟩
      · simpa using hSlots
      · simp only [Array.size_setIfInBounds]
        omega
      · simp only
        omega
      · intro hGrowing
        rw [Array.size_setIfInBounds] at hGrowing
        exact absurd hGrowing hFull

theorem mem_slots_push
    {line other : Line}
    {blank : Cell}
    (hMem : other ∈ (ring.push line blank).1.slots) :
    other ∈ ring.slots ∨ other = line := by
  unfold Scrollback.push at hMem
  split at hMem
  · exact .inl hMem
  · split at hMem
    · exact Array.mem_push.mp hMem
    · exact Array.mem_or_eq_of_mem_setIfInBounds hMem

/- A new line takes the first place, and the others follow. -/
theorem Aligned.get?_push
    (hRing : ring.Aligned)
    (hCapacity : 0 < ring.capacity)
    (line : Line)
    (blank : Cell)
    (age : Nat) :
    (ring.push line blank).1.get? age =
      if age = 0 then
        some line
      else if age < ring.capacity then
        ring.get? (age - 1)
      else
        none := by
  have hSlots := hRing.slots_le
  have hSize := hRing.size_le_slots
  have hHead := hRing.size_le_head
  unfold Scrollback.push
  rw [if_neg (by omega)]
  split
  · rename_i hGrowing
    have hSizes := hRing.growing hGrowing
    have hSlot :
        (ring.head - age) % ring.capacity =
          ring.head - age :=
      Nat.mod_eq_of_lt (by omega)
    simp only [get?, slot, Nat.add_sub_cancel, hSlot,
      Array.getElem?_push]
    by_cases hNewest : age = 0
    · simp [hNewest, hSizes, Nat.ne_of_gt hCapacity]
    · have hBefore :
          ring.head - 1 - (age - 1) = ring.head - age := by
        omega
      rw [hBefore, hSlot]
      grind
  · rename_i hFull
    have hMod := Nat.mod_lt ring.head hCapacity
    simp only [get?, slot, Nat.add_sub_cancel,
      Array.getElem?_setIfInBounds]
    by_cases hNewest : age = 0
    · subst hNewest
      rw [Nat.sub_zero, if_pos (by omega), if_pos rfl,
        if_pos (by omega), if_pos rfl]
    · have hBefore :
          ring.head - 1 - (age - 1) = ring.head - age := by
        omega
      rw [hBefore]
      by_cases hAge : age < min (ring.size + 1) ring.capacity
      · have hOther :
            ring.head % ring.capacity ≠
              (ring.head - age) % ring.capacity :=
          (sub_mod_ne_mod (by omega) (by omega)
            (by omega)).symm
        rw [if_pos hAge, if_neg hOther, if_neg hNewest,
          if_pos (by omega), if_pos (by omega)]
      · rw [if_neg hAge, if_neg hNewest]
        grind

theorem Aligned.retained_push
    (hRing : ring.Aligned)
    (line : Line)
    (blank : Cell) :
    (ring.push line blank).1.retained =
      (line :: ring.retained).take ring.capacity := by
  apply List.ext_getElem?
  intro age
  rw [(hRing.push line blank).getElem?_retained,
    List.getElem?_take]
  rcases Nat.eq_zero_or_pos ring.capacity with hNone | hRoom
  · have hSize := hRing.size_le_capacity
    simp [Scrollback.push, hNone, get?,
      show ¬age < ring.size by omega]
  · rw [hRing.get?_push hRoom]
    cases age with
    | zero => simp [hRoom]
    | succ age =>
        simp [hRing.getElem?_retained]

/-
  The line given in return is a blank one, and as wide as the
  slots of the ring.
-/
theorem snd_push
    {cols : Nat}
    (hWidths : ∀ old ∈ ring.slots, old.width = cols)
    {line : Line}
    (hWidth : line.width = cols)
    (blank : Cell) :
    (ring.push line blank).2 = .ofBlank cols blank := by
  unfold Scrollback.push
  split
  · rw [Line.fill, hWidth]
  · split
    · rw [Line.fill, hWidth]
    · unfold Line.fill
      dsimp only
      cases hSlot : ring.slots[ring.head % ring.capacity]? with
      | none => rw [Option.getD_none, hWidth]
      | some old =>
          rw [Option.getD_some,
            hWidths old (Array.mem_of_getElem? hSlot)]

@[simp] theorem capacity_push
    (ring : Scrollback)
    (line : Line)
    (blank : Cell) :
    (ring.push line blank).1.capacity = ring.capacity := by
  unfold Scrollback.push
  split
  · rfl
  · split <;> rfl

theorem head_push
    (hCapacity : 0 < ring.capacity)
    (line : Line)
    (blank : Cell) :
    (ring.push line blank).1.head = ring.head + 1 := by
  unfold Scrollback.push
  rw [if_neg (Nat.ne_of_gt hCapacity)]
  split <;> rfl

theorem WellFormed.push
    {cols : Nat}
    (hRing : ring.WellFormed cols)
    {line : Line}
    (hLine : line.WellFormed cols)
    (blank : Cell) :
    (ring.push line blank).1.WellFormed cols := by
  refine (hRing.aligned.push line blank).wellFormed ?_
  intro other hMem
  rcases mem_slots_push hMem with hOld | hNew
  · exact hRing.lines other hOld
  · exact hNew ▸ hLine

end

------------------------------------------------------------
-- Taking Out a Line
------------------------------------------------------------

section

variable {ring next : Scrollback} {line newest : Line}

/- The ring once its newest line is out. -/
def withoutNewest
    (ring : Scrollback)
    (line : Line) : Scrollback :=
  { ring with
    slots :=
      if ring.slots.size < ring.capacity then
        ring.slots.pop
      else
        ring.slots.setIfInBounds (ring.slot 0) line
    head := ring.head - 1
    size := ring.size - 1 }

theorem eq_withoutNewest_of_pop?
    (hPop : ring.pop? line = some (next, newest)) :
    next = ring.withoutNewest line := by
  unfold pop? at hPop
  unfold withoutNewest
  split at hPop
  · cases hPop
  · split at hPop
    · rename_i hGrowing
      rcases Option.map_eq_some_iff.mp hPop with
        ⟨_, _, hNext⟩
      rw [if_pos hGrowing]
      exact (Prod.mk.inj hNext).1.symm
    · rename_i hFull
      rcases Option.map_eq_some_iff.mp hPop with
        ⟨_, _, hNext⟩
      rw [if_neg hFull]
      exact (Prod.mk.inj hNext).1.symm

/- While the ring grows, the newest line is in the last slot. -/
theorem Aligned.back?_slots
    (hRing : ring.Aligned)
    (hGrowing : ring.slots.size < ring.capacity)
    (hSome : 0 < ring.size) :
    ring.slots.back? = ring.get? 0 := by
  have hSizes := hRing.growing hGrowing
  have hSlot : ring.slot 0 = ring.slots.size - 1 := by
    unfold slot
    rw [Nat.mod_eq_of_lt (by omega), hSizes.2]
    rfl
  rw [get?, if_pos hSome, hSlot]
  exact Array.back?_eq_getElem?

/- Either way, it is the newest line that is taken out. -/
theorem Aligned.pop?_eq
    (hRing : ring.Aligned)
    (line : Line) :
    ring.pop? line =
      (ring.get? 0).map (ring.withoutNewest line, ·) := by
  unfold Scrollback.pop? withoutNewest
  by_cases hEmpty : ring.size = 0
  · have hNone : ring.get? 0 = none := if_neg (by omega)
    rw [if_pos hEmpty, hNone]
    rfl
  · have hSome : 0 < ring.size := Nat.pos_of_ne_zero hEmpty
    rw [if_neg hEmpty]
    split
    · rename_i hGrowing
      rw [hRing.back?_slots hGrowing hSome]
    · rw [get?, if_pos hSome]

theorem Aligned.get?_zero_of_pop?
    (hRing : ring.Aligned)
    (hPop : ring.pop? line = some (next, newest)) :
    ring.get? 0 = some newest := by
  rw [hRing.pop?_eq] at hPop
  rcases Option.map_eq_some_iff.mp hPop with ⟨_, hGet, hEq⟩
  rw [hGet, (Prod.mk.inj hEq).2]

theorem Aligned.pop?_eq_none_iff
    (hRing : ring.Aligned)
    (line : Line) :
    ring.pop? line = none ↔ ring.size = 0 := by
  rw [hRing.pop?_eq, Option.map_eq_none_iff]
  constructor
  · intro hNone
    rcases Nat.eq_zero_or_pos ring.size with hEmpty | hSome
    · exact hEmpty
    · rcases hRing.exists_get?_eq_some hSome with
        ⟨newest, hNewest⟩
      rw [hNewest] at hNone
      cases hNone
  · intro hEmpty
    rw [get?, if_neg (by omega)]

theorem Aligned.pop?
    (hRing : ring.Aligned)
    (hPop : ring.pop? line = some (next, newest)) :
    next.Aligned := by
  have hSlots := hRing.slots_le
  have hSize := hRing.size_le_slots
  have hHead := hRing.size_le_head
  have hGrowing := hRing.growing
  have hSome : ring.size ≠ 0 := fun hEmpty => by
    rw [(hRing.pop?_eq_none_iff line).mpr hEmpty] at hPop
    cases hPop
  rw [eq_withoutNewest_of_pop? hPop]
  unfold withoutNewest
  refine ⟨?_, ?_, ?_, ?_⟩
  · simp only
    split
    · rw [Array.size_pop]
      omega
    · rw [Array.size_setIfInBounds]
      omega
  · simp only
    split
    · rw [Array.size_pop]
      omega
    · rw [Array.size_setIfInBounds]
      omega
  · simp only
    omega
  · simp only
    split
    · rw [Array.size_pop]
      omega
    · rw [Array.size_setIfInBounds]
      omega

theorem mem_slots_pop?
    (hPop : ring.pop? line = some (next, newest))
    {other : Line}
    (hMem : other ∈ next.slots) :
    other ∈ ring.slots ∨ other = line := by
  rw [eq_withoutNewest_of_pop? hPop] at hMem
  unfold withoutNewest at hMem
  dsimp only at hMem
  split at hMem
  · left
    exact
      Array.mem_toList_iff.mp
        (List.dropLast_subset _
          (Array.mem_toList_iff.mpr hMem))
  · exact Array.mem_or_eq_of_mem_setIfInBounds hMem

/- Taking out the newest line leaves the ones before it. -/
theorem Aligned.get?_pop?
    (hRing : ring.Aligned)
    (hPop : ring.pop? line = some (next, newest))
    (age : Nat) :
    next.get? age = ring.get? (age + 1) := by
  have hSlots := hRing.slots_le
  have hSize := hRing.size_le_slots
  have hHead := hRing.size_le_head
  have hBefore :
      ring.head - 1 - 1 - age =
        ring.head - 1 - (age + 1) := by
    omega
  rw [eq_withoutNewest_of_pop? hPop]
  simp only [withoutNewest, get?, slot, hBefore]
  by_cases hAge : age + 1 < ring.size
  · rw [if_pos (by omega), if_pos hAge]
    split
    · rename_i hGrowing
      have hSizes := hRing.growing hGrowing
      have hSlot :
          (ring.head - 1 - (age + 1)) % ring.capacity =
            ring.head - 1 - (age + 1) :=
        Nat.mod_eq_of_lt (by omega)
      rw [hSlot, Array.getElem?_pop, if_pos (by omega)]
    · have hOther :
          (ring.head - 1 - 0) % ring.capacity ≠
            (ring.head - 1 - (age + 1)) % ring.capacity :=
        (sub_mod_ne_mod (by omega) (by omega)
          (by omega)).symm
      rw [Array.getElem?_setIfInBounds, if_neg hOther]
  · rw [if_neg (by omega), if_neg hAge]

theorem Aligned.retained_eq_cons
    (hRing : ring.Aligned)
    (hPop : ring.pop? line = some (next, newest)) :
    ring.retained = newest :: next.retained := by
  have hNext := hRing.pop? hPop
  apply List.ext_getElem?
  intro age
  rw [hRing.getElem?_retained]
  cases age with
  | zero => exact hRing.get?_zero_of_pop? hPop
  | succ age =>
      rw [List.getElem?_cons_succ, hNext.getElem?_retained,
        hRing.get?_pop? hPop]

theorem capacity_pop?
    (hPop : ring.pop? line = some (next, newest)) :
    next.capacity = ring.capacity := by
  rw [eq_withoutNewest_of_pop? hPop]
  rfl

theorem WellFormed.pop?
    {cols : Nat}
    (hRing : ring.WellFormed cols)
    (hLine : line.WellFormed cols)
    (hPop : ring.pop? line = some (next, newest)) :
    next.WellFormed cols := by
  refine (hRing.aligned.pop? hPop).wellFormed ?_
  intro other hMem
  rcases mem_slots_pop? hPop hMem with hOld | hGiven
  · exact hRing.lines other hOld
  · exact hGiven ▸ hLine

end

------------------------------------------------------------
-- Several Lines at Once
------------------------------------------------------------

section

variable {cols : Nat}

@[simp] theorem capacity_pushAll
    (ring : Scrollback)
    (blank : Cell)
    (lines : List Line) :
    (ring.pushAll blank lines).1.capacity =
      ring.capacity := by
  induction lines generalizing ring with
  | nil => rfl
  | cons line lines hLines =>
      exact (hLines _).trans (capacity_push ring line blank)

theorem head_pushAll
    {ring : Scrollback}
    (hCapacity : 0 < ring.capacity)
    (blank : Cell)
    (lines : List Line) :
    (ring.pushAll blank lines).1.head =
      ring.head + lines.length := by
  induction lines generalizing ring with
  | nil => rfl
  | cons line lines hLines =>
      have hNext :
          0 < (ring.push line blank).1.capacity := by
        rw [capacity_push]
        exact hCapacity
      refine (hLines hNext).trans ?_
      rw [head_push hCapacity, List.length_cons]
      omega

/- The lines of a ring after several are those and its own. -/
theorem mem_slots_pushAll
    {ring : Scrollback}
    {blank : Cell}
    {lines : List Line}
    {other : Line}
    (hMem : other ∈ (ring.pushAll blank lines).1.slots) :
    other ∈ ring.slots ∨ other ∈ lines := by
  induction lines generalizing ring with
  | nil => exact .inl hMem
  | cons line lines hRest =>
      rcases hRest hMem with hPushed | hLater
      · rcases mem_slots_push hPushed with hOld | hNew
        · exact .inl hOld
        · exact .inr (hNew ▸ List.mem_cons_self)
      · exact .inr (List.mem_cons_of_mem _ hLater)

theorem Aligned.pushAll
    {ring : Scrollback}
    (hRing : ring.Aligned)
    (blank : Cell)
    (lines : List Line) :
    (ring.pushAll blank lines).1.Aligned ∧
      (ring.pushAll blank lines).1.retained =
        (lines.reverse ++ ring.retained).take
          ring.capacity := by
  induction lines generalizing ring with
  | nil =>
      refine ⟨hRing, ?_⟩
      rw [List.reverse_nil, List.nil_append,
        List.take_of_length_le]
      · rfl
      · rw [hRing.length_retained]
        exact hRing.size_le_capacity
  | cons line lines hRest =>
      rcases hRest (hRing.push line blank) with
        ⟨hLast, hRetained⟩
      refine ⟨hLast, hRetained.trans ?_⟩
      -- What a first cut drops, the second would as well.
      rw [capacity_push, hRing.retained_push,
        List.reverse_cons, List.append_assoc,
        List.singleton_append, List.take_append,
        List.take_take, Nat.min_eq_left (Nat.sub_le _ _),
        ← List.take_append]

/- The line given in return is blank, whatever its width. -/
theorem exists_snd_push_eq
    (ring : Scrollback)
    (line : Line)
    (blank : Cell) :
    ∃ width, (ring.push line blank).2 = .ofBlank width blank := by
  unfold Scrollback.push
  split
  · exact ⟨_, rfl⟩
  · split <;> exact ⟨_, rfl⟩

theorem exists_ofBlank_of_mem_pushAll
    {ring : Scrollback}
    {blank : Cell}
    {lines : List Line}
    {recycled : Line}
    (hMem : recycled ∈ (ring.pushAll blank lines).2) :
    ∃ width, recycled = .ofBlank width blank := by
  induction lines generalizing ring with
  | nil => cases hMem
  | cons line lines hRest =>
      rcases List.mem_cons.mp hMem with hFirst | hLater
      · rw [hFirst]
        exact exists_snd_push_eq ring line blank
      · exact hRest hLater

theorem length_snd_pushAll
    (ring : Scrollback)
    (blank : Cell)
    (lines : List Line) :
    (ring.pushAll blank lines).2.length = lines.length := by
  induction lines generalizing ring with
  | nil => rfl
  | cons line lines hRest => exact congrArg (· + 1) (hRest _)

/- Where all lines have one width, so have those. -/
theorem snd_pushAll
    {ring : Scrollback}
    (hWidths : ∀ old ∈ ring.slots, old.width = cols)
    {lines : List Line}
    (hLines : ∀ line ∈ lines, line.width = cols)
    (blank : Cell) :
    (ring.pushAll blank lines).2 =
      List.replicate lines.length (.ofBlank cols blank) := by
  induction lines generalizing ring with
  | nil => rfl
  | cons line lines hRest =>
      have hWidth := hLines line List.mem_cons_self
      have hOthers : ∀ other ∈ lines, other.width = cols :=
        fun other hMem =>
          hLines other (List.mem_cons_of_mem _ hMem)
      have hPushed :
          ∀ old ∈ (ring.push line blank).1.slots,
            old.width = cols := by
        intro old hMem
        rcases mem_slots_push hMem with hOld | rfl
        · exact hWidths old hOld
        · exact hWidth
      show
        (ring.push line blank).2 ::
            ((ring.push line blank).1.pushAll blank
              lines).2 = _
      rw [snd_push hWidths hWidth, hRest hPushed hOthers]
      rfl

theorem WellFormed.pushAll
    {ring : Scrollback}
    (hRing : ring.WellFormed cols)
    {lines : List Line}
    (hLines : ∀ line ∈ lines, line.WellFormed cols)
    (blank : Cell) :
    (ring.pushAll blank lines).1.WellFormed cols ∧
      (ring.pushAll blank lines).1.retained =
        (lines.reverse ++ ring.retained).take
          ring.capacity ∧
      (ring.pushAll blank lines).2 =
        List.replicate lines.length
          (.ofBlank cols blank) := by
  rcases hRing.aligned.pushAll blank lines with
    ⟨hAligned, hRetained⟩
  refine ⟨hAligned.wellFormed ?_, hRetained, ?_⟩
  · intro other hMem
    rcases mem_slots_pushAll hMem with hOld | hNew
    · exact hRing.lines other hOld
    · exact hLines other hNew
  · exact
      snd_pushAll
        (fun old hOld => (hRing.lines old hOld).width_eq)
        (fun line hLine => (hLines line hLine).width_eq)
        blank

theorem mem_slots_popInto
    {ring : Scrollback}
    {blank : Cell}
    {lines : List Line}
    {other : Line}
    (hMem : other ∈ (ring.popInto blank lines).1.slots) :
    other ∈ ring.slots ∨ other ∈ lines := by
  induction lines generalizing ring with
  | nil => exact .inl hMem
  | cons line lines hRest =>
      unfold Scrollback.popInto at hMem
      cases hPop : ring.pop? line with
      | some popped =>
          rw [hPop] at hMem
          rcases hRest hMem with hNext | hLater
          · rcases mem_slots_pop? hPop hNext with hOld | rfl
            · exact .inl hOld
            · exact .inr List.mem_cons_self
          · exact .inr (List.mem_cons_of_mem _ hLater)
      | none =>
          rw [hPop] at hMem
          rcases hRest hMem with hOld | hLater
          · exact .inl hOld
          · exact .inr (List.mem_cons_of_mem _ hLater)

/-
  The newest lines come back, and the lines for which there
  are none are filled.
-/
theorem Aligned.popInto
    {ring : Scrollback}
    (hRing : ring.Aligned)
    (blank : Cell)
    (lines : List Line) :
    (ring.popInto blank lines).1.Aligned ∧
      (ring.popInto blank lines).1.retained =
        ring.retained.drop lines.length ∧
      (ring.popInto blank lines).2 =
        ring.retained.take lines.length ++
          (lines.drop ring.retained.length).map
            (·.fill blank) := by
  induction lines generalizing ring with
  | nil => exact ⟨hRing, rfl, by simp [Scrollback.popInto]⟩
  | cons line lines hRest =>
      unfold Scrollback.popInto
      cases hPop : ring.pop? line with
      | some popped =>
          rcases popped with ⟨next, newest⟩
          rcases hRest (hRing.pop? hPop) with
            ⟨hLast, hRetained, hEntering⟩
          have hCons := hRing.retained_eq_cons hPop
          refine ⟨hLast, ?_, ?_⟩
          · simp only [hRetained, hCons, List.length_cons,
              List.drop_succ_cons]
          · simp [hEntering, hCons]
      | none =>
          rcases hRest hRing with
            ⟨hLast, hRetained, hEntering⟩
          have hEmpty : ring.retained = [] := by
            apply List.eq_nil_of_length_eq_zero
            rw [hRing.length_retained]
            exact (hRing.pop?_eq_none_iff line).mp hPop
          refine ⟨hLast, ?_, ?_⟩
          · simp only [hRetained, hEmpty, List.drop_nil]
          · simp [hEntering, hEmpty]

theorem WellFormed.popInto
    {ring : Scrollback}
    (hRing : ring.WellFormed cols)
    {lines : List Line}
    (hLines : ∀ line ∈ lines, line.WellFormed cols)
    (blank : Cell) :
    (ring.popInto blank lines).1.WellFormed cols ∧
      (ring.popInto blank lines).1.retained =
        ring.retained.drop lines.length ∧
      (ring.popInto blank lines).2 =
        ring.retained.take lines.length ++
          List.replicate (lines.length - ring.retained.length)
            (.ofBlank cols blank) := by
  rcases hRing.aligned.popInto blank lines with
    ⟨hAligned, hRetained, hEntering⟩
  refine ⟨hAligned.wellFormed ?_, hRetained, ?_⟩
  · intro other hMem
    rcases mem_slots_popInto hMem with hOld | hGiven
    · exact hRing.lines other hOld
    · exact hLines other hGiven
  · have hWidths :
        ∀ line ∈ lines.drop ring.retained.length,
          line.width = cols :=
      fun line hMem =>
        (hLines line (List.mem_of_mem_drop hMem)).width_eq
    rw [hEntering, Line.map_fill_eq_replicate hWidths,
      List.length_drop]

theorem capacity_popInto
    (ring : Scrollback)
    (blank : Cell)
    (lines : List Line) :
    (ring.popInto blank lines).1.capacity =
      ring.capacity := by
  induction lines generalizing ring with
  | nil => rfl
  | cons line lines hRest =>
      unfold Scrollback.popInto
      cases hPop : ring.pop? line with
      | some popped =>
          exact (hRest popped.1).trans (capacity_pop? hPop)
      | none => exact hRest ring

end

------------------------------------------------------------
-- All Lines at Once
------------------------------------------------------------

theorem Aligned.resizeCols
    {ring : Scrollback}
    (hRing : ring.Aligned)
    (cols : Nat)
    (blank : Cell) :
    (ring.resizeCols cols blank).Aligned where
  slots_le := by
    simpa [Scrollback.resizeCols] using hRing.slots_le
  size_le_slots := by
    simpa [Scrollback.resizeCols] using hRing.size_le_slots
  size_le_head := hRing.size_le_head
  growing := by
    simpa [Scrollback.resizeCols] using hRing.growing

theorem WellFormed.resizeCols
    {cols : Nat}
    {ring : Scrollback}
    (hRing : ring.WellFormed cols)
    (cols' : Nat)
    {blank : Cell}
    (hBlank : blank.IsPlain) :
    (ring.resizeCols cols' blank).WellFormed cols' := by
  refine (hRing.aligned.resizeCols cols' blank).wellFormed ?_
  intro line hLine
  rcases Array.mem_map.mp hLine with ⟨old, hOld, hEq⟩
  exact hEq ▸ (hRing.lines old hOld).resize cols' hBlank

theorem retained_resizeCols
    (ring : Scrollback)
    (cols : Nat)
    (blank : Cell) :
    (ring.resizeCols cols blank).retained =
      ring.retained.map (·.resize cols blank) := by
  have hGet :
      (ring.resizeCols cols blank).get? =
        fun age =>
          (ring.get? age).map (·.resize cols blank) := by
    funext age
    unfold get?
    show (if age < ring.size then
      (ring.slots.map (·.resize cols blank))[ring.slot age]?
    else
      none) = _
    split
    · exact Array.getElem?_map
    · rfl
  unfold retained
  rw [hGet, List.map_filterMap]
  rfl

end Scrollback

end VideoTerminal
