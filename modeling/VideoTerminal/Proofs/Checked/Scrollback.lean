import VideoTerminal.Proofs.Checked.Operations
import VideoTerminal.Proofs.Scrollback

/-
  The ring of history lines by operations that can fault.  In
  a ring whose counts fit its slots none of them does.

  Main declarations:
    * `Scrollback.Aligned.getChecked_eq`
    * `Scrollback.Aligned.pushChecked_eq`
    * `Scrollback.Aligned.popChecked_eq`
    * `Scrollback.Aligned.pushAllChecked_eq`
    * `Scrollback.Aligned.popIntoChecked_eq`
    * `Scrollback.Aligned.toListChecked_eq`
-/

namespace VideoTerminal

namespace Scrollback

------------------------------------------------------------
-- Reading
------------------------------------------------------------

/- The slot of the line that is `age` steps from the newest. -/
def slotChecked
    (ring : Scrollback)
    (age : Nat) : Option Nat := do
  let newest ← Checked.sub ring.head 1
  let count ← Checked.sub newest age
  Checked.rem count ring.capacity

/- The line that is `age` steps from the newest. -/
def getChecked
    (ring : Scrollback)
    (age : Nat) : Option (Option Line) := do
  if age < ring.size then
    let slot ← ring.slotChecked age
    return ring.slots[slot]?
  else
    return none

/- The lines from the oldest to the newest. -/
def toListChecked
    (ring : Scrollback) : Option (List Line) := do
  let lines ←
    (List.range ring.size).reverse.mapM ring.getChecked
  return lines.filterMap id

------------------------------------------------------------
-- Adding and Removing Lines
------------------------------------------------------------

/- Retain a line as the newest. -/
def pushChecked
    (blank : Cell)
    (ring : Scrollback)
    (line : Line) : Option (Scrollback × Line) := do
  if ring.capacity = 0 then
    return (ring, line.fill blank)
  else if ring.slots.size < ring.capacity then
    some
      ({ ring with
          slots := ring.slots.push line
          head := ring.head + 1
          size := min (ring.size + 1) ring.capacity },
        .ofBlank line.width blank)
  else
    let slot ← Checked.rem ring.head ring.capacity
    let old ← ring.slots[slot]?
    some
      ({ ring with
          slots := ring.slots.setIfInBounds slot line
          head := ring.head + 1
          size := min (ring.size + 1) ring.capacity },
        old.fill blank)

/- Take out the newest line. -/
def popChecked
    (ring : Scrollback)
    (line : Line) : Option (Option (Scrollback × Line)) := do
  if ring.size = 0 then
    return none
  else if ring.slots.size < ring.capacity then
    match ring.slots.back? with
    | none => return none
    | some newest =>
      let head ← Checked.sub ring.head 1
      let size ← Checked.sub ring.size 1
      some <| some
        ({ ring with
            slots := ring.slots.pop
            head := head
            size := size },
          newest)
  else
    let slot ← ring.slotChecked 0
    let newest ← ring.slots[slot]?
    let head ← Checked.sub ring.head 1
    let size ← Checked.sub ring.size 1
    some <| some
      ({ ring with
          slots := ring.slots.setIfInBounds slot line
          head := head
          size := size },
        newest)

/-
  Replace a line by the newest one, or by a blank one.  The
  state is the ring and the number of lines taken from it.
-/
def restoreChecked
    (blank : Cell)
    (state : Scrollback × Nat)
    (line : Line) : Option ((Scrollback × Nat) × Line) := do
  match ← state.1.popChecked line with
  | some (ring, newest) =>
    return ((ring, state.2 + 1), newest)
  | none => return (state, line.fill blank)

section

variable {ring : Scrollback}
  (hRing : ring.Aligned)

include hRing

theorem Aligned.slotChecked_eq
    {age : Nat}
    (hAge : age < ring.size) :
    ring.slotChecked age = some (ring.slot age) := by
  have hHead := hRing.size_le_head
  have hCapacity := hRing.size_le_capacity
  unfold slotChecked slot
  rw [Checked.sub_eq (show 1 ≤ ring.head by omega)]
  refine (Checked.bind_eq (Checked.sub_eq (by omega))).trans ?_
  exact Checked.rem_eq _ (by omega)

theorem Aligned.getChecked_eq
    (age : Nat) :
    ring.getChecked age = some (ring.get? age) := by
  unfold getChecked get?
  split
  · rename_i hAge
    rw [hRing.slotChecked_eq hAge]
    rfl
  · rfl

theorem Aligned.toListChecked_eq :
    ring.toListChecked = some ring.toList := by
  unfold toListChecked toList
  rw [Checked.mapM_eq fun age _ => hRing.getChecked_eq age]
  simp [List.filterMap_map]

theorem Aligned.pushChecked_eq
    (line : Line)
    (blank : Cell) :
    ring.pushChecked blank line =
      some (ring.push line blank) := by
  have hSlots := hRing.slots_le
  unfold pushChecked Scrollback.push
  split
  · rfl
  · rename_i hCapacity
    split
    · rfl
    · rename_i hFull
      have hPos : 0 < ring.capacity := by omega
      have hSlot :
          ring.head % ring.capacity < ring.slots.size := by
        have hMod := Nat.mod_lt ring.head hPos
        omega
      rw [Checked.rem_eq _ hPos]
      refine
        (Checked.bind_eq
          (Array.getElem?_eq_getElem hSlot)).trans ?_
      dsimp only
      rw [Array.getElem?_eq_getElem hSlot]
      rfl

theorem Aligned.popChecked_eq
    (line : Line) :
    ring.popChecked line = some (ring.pop? line) := by
  have hHead := hRing.size_le_head
  unfold popChecked
  split
  · rename_i hEmpty
    rw [(hRing.pop?_eq_none_iff line).mpr hEmpty]
    rfl
  · rename_i hNot
    have hSome : 0 < ring.size := Nat.pos_of_ne_zero hNot
    rcases hRing.exists_get?_eq_some hSome with
      ⟨newest, hNewest⟩
    have hHeadSub := Checked.sub_eq (show 1 ≤ ring.head by omega)
    have hSizeSub := Checked.sub_eq (show 1 ≤ ring.size by omega)
    rw [hRing.pop?_eq, hNewest]
    unfold Scrollback.withoutNewest
    by_cases hGrowing : ring.slots.size < ring.capacity
    · rw [if_pos hGrowing, if_pos hGrowing,
        hRing.back?_slots hGrowing hSome, hNewest]
      dsimp only
      rw [hHeadSub, hSizeSub]
      rfl
    · have hSlot : ring.slots[ring.slot 0]? = some newest := by
        rw [get?, if_pos hSome] at hNewest
        exact hNewest
      rw [if_neg hGrowing, if_neg hGrowing,
        hRing.slotChecked_eq hSome, hHeadSub, hSizeSub]
      exact Checked.bind_eq hSlot

end

------------------------------------------------------------
-- Several Lines at Once
------------------------------------------------------------

section

variable {ring : Scrollback}

theorem Aligned.pushAllChecked_eq
    (hRing : ring.Aligned)
    (blank : Cell)
    (lines : List Line) :
    Checked.sweep (pushChecked blank) ring lines =
      some (ring.pushAll blank lines) := by
  induction lines generalizing ring with
  | nil => rfl
  | cons line lines hRest =>
      unfold Checked.sweep
      rw [hRing.pushChecked_eq]
      refine
        (Checked.bind_eq
          (hRest (hRing.push line blank))).trans ?_
      rfl

theorem size_pop?
    {ring next : Scrollback}
    {line newest : Line}
    (hPop : ring.pop? line = some (next, newest)) :
    next.size = ring.size - 1 := by
  rw [eq_withoutNewest_of_pop? hPop]
  rfl

theorem Aligned.popIntoChecked_eq
    (hRing : ring.Aligned)
    (blank : Cell)
    (restored : Nat)
    (lines : List Line) :
    Checked.sweep (restoreChecked blank) (ring, restored)
        lines =
      some
        (((ring.popInto blank lines).1,
            restored + min lines.length ring.size),
          (ring.popInto blank lines).2) := by
  induction lines generalizing ring restored with
  | nil => simp [Checked.sweep, Scrollback.popInto]
  | cons line lines hRest =>
      unfold Checked.sweep Scrollback.popInto restoreChecked
      rw [hRing.popChecked_eq]
      cases hPop : ring.pop? line with
      | none =>
          have hEmpty := (hRing.pop?_eq_none_iff line).mp hPop
          refine
            (Checked.bind_eq (hRest hRing restored)).trans ?_
          simp [hEmpty]
      | some popped =>
          have hSome : ring.size ≠ 0 := by
            intro hEmpty
            rw [(hRing.pop?_eq_none_iff line).mpr hEmpty]
              at hPop
            cases hPop
          have hSize := size_pop? hPop
          have hCount :
              restored + 1 + min lines.length popped.1.size =
                restored +
                  min (lines.length + 1) ring.size := by
            omega
          refine
            (Checked.bind_eq
              (hRest (hRing.pop? hPop) (restored + 1))).trans ?_
          rw [hCount]
          rfl

end

end Scrollback

end VideoTerminal
