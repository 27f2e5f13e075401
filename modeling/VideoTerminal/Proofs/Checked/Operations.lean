import Mathlib.Algebra.Group.Int.Defs
import Mathlib.Algebra.Group.Nat.Defs
import Mathlib.Data.List.Basic

/-
  The operations of a machine that not all operands admit.
  Where an operation is not defined it faults, and the result
  is `none`.

  Main declarations:
    * `Checked.sub`
    * `Checked.rem`
    * `Checked.shiftLeft`
    * `Checked.clamp`
    * `Checked.unsigned`
    * `Checked.signed`
    * `Checked.slice`
    * `Checked.rotateLeft`
    * `Checked.sweep`
    * `Checked.updateEach`
-/

namespace VideoTerminal

namespace Checked

------------------------------------------------------------
-- Numbers
------------------------------------------------------------

/- The difference of unsigned numbers, which is not negative. -/
def sub
    (m n : Nat) : Option Nat :=
  if n ≤ m then some (m - n) else none

/- The remainder by a number other than zero. -/
def rem
    (m n : Nat) : Option Nat :=
  if 0 < n then some (m % n) else none

/- A word shifted to the left, by less than its width. -/
def shiftLeft
    (width word n : Nat) : Option Nat :=
  if n < width then
    some (word * 2 ^ n % 2 ^ width)
  else
    none

/- The number nearest to another between limits in order. -/
def clamp
    (n low high : Nat) : Option Nat :=
  if low ≤ high then some (max low (min n high)) else none

/- A number that an unsigned word of a width has room for. -/
def unsigned
    (width : Nat)
    (n : Int) : Option Nat :=
  if 0 ≤ n ∧ n < 2 ^ width then some n.toNat else none

/- A number that a signed word of a width has room for. -/
def signed
    (width : Nat)
    (n : Int) : Option Int :=
  if -2 ^ (width - 1) ≤ n ∧ n < 2 ^ (width - 1) then
    some n
  else
    none

/- What follows an operation that does not fault. -/
theorem bind_eq
    {α β : Type}
    {result : Option α}
    {value : α}
    {next : α → Option β}
    (hResult : result = some value) :
    result.bind next = next value :=
  hResult ▸ rfl

theorem sub_eq
    {m n : Nat}
    (hLe : n ≤ m) :
    sub m n = some (m - n) :=
  if_pos hLe

theorem rem_eq
    {n : Nat}
    (m : Nat)
    (hPos : 0 < n) :
    rem m n = some (m % n) :=
  if_pos hPos

theorem shiftLeft_eq
    {width n : Nat}
    (word : Nat)
    (hLt : n < width) :
    shiftLeft width word n =
      some (word * 2 ^ n % 2 ^ width) :=
  if_pos hLt

theorem clamp_eq
    {low high : Nat}
    (n : Nat)
    (hLe : low ≤ high) :
    clamp n low high = some (max low (min n high)) :=
  if_pos hLe

theorem unsigned_eq
    {width n : Nat}
    (hRoom : n < 2 ^ width) :
    unsigned width n = some n :=
  if_pos ⟨Int.natCast_nonneg n, by exact_mod_cast hRoom⟩

theorem signed_eq
    {width : Nat}
    {n : Int}
    (hRoom : -2 ^ (width - 1) ≤ n ∧ n < 2 ^ (width - 1)) :
    signed width n = some n :=
  if_pos hRoom

------------------------------------------------------------
-- Sequences of Items
------------------------------------------------------------

section

variable {α β σ : Type}

/- The item with an index, which is less than their number. -/
def get
    (items : List α)
    (i : Nat) : Option α :=
  items[i]?

/- Replace the item with an index. -/
def set
    (items : List α)
    (i : Nat)
    (item : α) : Option (List α) :=
  if i < items.length then some (items.set i item) else none

/- The entry of an array with an index. -/
def getEntry
    {size : Nat}
    (entries : Vector α size)
    (i : Nat) : Option α :=
  entries[i]?

/- Replace the entry of an array with an index. -/
def setEntry
    {size : Nat}
    (entries : Vector α size)
    (i : Nat)
    (entry : α) : Option (Vector α size) :=
  if hLt : i < size then
    some (entries.set i entry)
  else
    none

/- The items from one index up to, not including, another. -/
def slice
    (items : List α)
    (start stop : Nat) : Option (List α) :=
  if start ≤ stop ∧ stop ≤ items.length then
    some ((items.take stop).drop start)
  else
    none

/- Change the items from one index up to another in place. -/
def onSlice
    (items : List α)
    (start stop : Nat)
    (change : List α → Option (List α)) :
    Option (List α) := do
  let part ← slice items start stop
  let changed ← change part
  return items.take start ++ changed ++ items.drop stop

/- Move the first `n` items to the end. -/
def rotateLeft
    (items : List α)
    (n : Nat) : Option (List α) :=
  if n ≤ items.length then
    some (items.drop n ++ items.take n)
  else
    none

/- Move the last `n` items to the front. -/
def rotateRight
    (items : List α)
    (n : Nat) : Option (List α) := do
  let first ← sub items.length n
  rotateLeft items first

/- What is left when the items before an index are removed. -/
def drain
    (items : List α)
    (stop : Nat) : Option (List α) :=
  if stop ≤ items.length then some (items.drop stop) else none

/- Replace every item. -/
def fill
    (items : List α)
    (item : α) : Option (List α) :=
  some (List.replicate items.length item)

theorem get_eq
    {items : List α}
    {i : Nat}
    (hLt : i < items.length) :
    get items i = some items[i] :=
  List.getElem?_eq_getElem hLt

theorem getEntry_eq
    {size : Nat}
    (entries : Vector α size)
    {i : Nat}
    (hLt : i < size) :
    getEntry entries i = some entries[i] :=
  Vector.getElem?_eq_getElem hLt

theorem setEntry_eq
    {size : Nat}
    (entries : Vector α size)
    {i : Nat}
    (entry : α)
    (hLt : i < size) :
    setEntry entries i entry = some (entries.set i entry) :=
  dif_pos hLt

theorem set_eq
    {items : List α}
    {i : Nat}
    (item : α)
    (hLt : i < items.length) :
    set items i item = some (items.set i item) :=
  if_pos hLt

theorem slice_eq
    {items : List α}
    {start stop : Nat}
    (hStart : start ≤ stop)
    (hStop : stop ≤ items.length) :
    slice items start stop =
      some ((items.take stop).drop start) :=
  if_pos ⟨hStart, hStop⟩

theorem drain_eq
    {items : List α}
    {stop : Nat}
    (hStop : stop ≤ items.length) :
    drain items stop = some (items.drop stop) :=
  if_pos hStop

/- A list around the items with some indices. -/
theorem take_slice_drop
    (items : List α)
    (start n : Nat) :
    items.take start ++
        (items.take (start + n)).drop start ++
        items.drop (start + n) =
      items := by
  have hFirst :
      items.take start =
        (items.take (start + n)).take start := by
    rw [List.take_take, Nat.min_eq_left (by omega)]
  rw [hFirst, List.take_append_drop, List.take_append_drop]

/- The items from one index on, cut at another. -/
theorem slice_append_drop
    (items : List α)
    {start stop : Nat}
    (hOrder : start ≤ stop) :
    (items.take stop).drop start ++ items.drop stop =
      items.drop start := by
  have hAround := take_slice_drop items start (stop - start)
  rw [Nat.add_sub_cancel' hOrder, List.append_assoc] at hAround
  exact
    List.append_cancel_left
      (hAround.trans (List.take_append_drop start items).symm)

/- A list in which the items with some indices are changed. -/
theorem slice_map_eq_mapIdx
    (items : List α)
    (start n : Nat)
    (f : α → α) :
    items.take start ++
        ((items.take (start + n)).drop start).map f ++
        items.drop (start + n) =
      items.mapIdx fun i item =>
        if start ≤ i ∧ i < start + n then f item else item := by
  apply List.ext_getElem?
  intro i
  simp only [List.getElem?_append, List.length_append,
    List.length_take, List.length_map, List.length_drop,
    List.getElem?_take, List.getElem?_map, List.getElem?_drop,
    List.getElem?_mapIdx]
  grind

/- The slice between the items before and after it. -/
theorem onSlice_append
    (before part after : List α)
    (change : List α → Option (List α)) :
    onSlice (before ++ part ++ after) before.length
        (before.length + part.length) change =
      (change part).map (before ++ · ++ after) := by
  have hLength :
      before.length + part.length =
        (before ++ part).length := by
    rw [List.length_append]
  unfold onSlice
  rw [slice_eq (Nat.le_add_right _ _)
      (by simp only [List.length_append]; omega),
    hLength, List.take_left, List.drop_left, List.drop_left,
    List.append_assoc, List.take_left]
  simp only [Option.bind_eq_bind, Option.bind_some]
  cases change part with
  | none => rfl
  | some changed => rfl

theorem rotateLeft_append
    (first last : List α) :
    rotateLeft (first ++ last) first.length =
      some (last ++ first) := by
  unfold rotateLeft
  rw [if_pos (by simp), List.drop_left, List.take_left]

theorem rotateRight_append
    (first last : List α) :
    rotateRight (first ++ last) last.length =
      some (last ++ first) := by
  unfold rotateRight
  rw [sub_eq (by simp), List.length_append,
    Nat.add_sub_cancel]
  exact rotateLeft_append first last

------------------------------------------------------------
-- Loops
------------------------------------------------------------

/- Change items one after the other together with a state. -/
def sweep
    (step : σ → α → Option (σ × α)) :
    σ → List α → Option (σ × List α)
  | state, [] => some (state, [])
  | state, item :: items => do
    let (state, item) ← step state item
    let (state, items) ← sweep step state items
    return (state, item :: items)

/- The same for items by their indices. -/
def updateEach
    (step : σ → α → Option (σ × α)) :
    σ → List α → List Nat → Option (σ × List α)
  | state, items, [] => some (state, items)
  | state, items, i :: rest => do
    let item ← get items i
    let (state, item) ← step state item
    let items ← set items i item
    updateEach step state items rest

/- An item between those before and after it. -/
theorem get_append
    (before after : List α)
    (item : α) :
    get (before ++ item :: after) before.length =
      some item := by
  unfold get
  simp

theorem set_append
    (before after : List α)
    (old item : α) :
    set (before ++ old :: after) before.length item =
      some (before ++ item :: after) := by
  unfold set
  rw [if_pos (by simp), List.set_append_right _ _ (by simp),
    Nat.sub_self, List.set_cons_zero]

theorem updateEach_ascending
    (step : σ → α → Option (σ × α))
    (state : σ)
    (before part after : List α) :
    updateEach step state (before ++ part ++ after)
        (List.range' before.length part.length) =
      (sweep step state part).map fun swept =>
        (swept.1, before ++ swept.2 ++ after) := by
  induction part generalizing state before with
  | nil => rfl
  | cons item part hRest =>
      have hItems :
          before ++ item :: part ++ after =
            before ++ item :: (part ++ after) := by
        simp
      rw [hItems, List.length_cons, List.range'_succ]
      unfold updateEach sweep
      rw [get_append]
      simp only [Option.bind_eq_bind, Option.bind_some]
      cases step state item with
      | none => rfl
      | some stepped =>
          have hNext :=
            hRest stepped.1 (before ++ [stepped.2])
          rw [List.length_append] at hNext
          simp only [List.append_assoc, List.cons_append,
            List.nil_append, List.length_singleton] at hNext
          simp only [Option.bind_some, set_append]
          rw [hNext]
          cases sweep step stepped.1 part with
          | none => rfl
          | some swept => simp

theorem updateEach_descending
    (step : σ → α → Option (σ × α))
    (state : σ)
    (before part after : List α) :
    updateEach step state (before ++ part.reverse ++ after)
        (List.range' before.length part.length).reverse =
      (sweep step state part).map fun swept =>
        (swept.1, before ++ swept.2.reverse ++ after) := by
  induction part generalizing state after with
  | nil => rfl
  | cons item part hRest =>
      have hItems :
          before ++ (item :: part).reverse ++ after =
            (before ++ part.reverse) ++ item :: after := by
        simp
      have hLength :
          before.length + part.length =
            (before ++ part.reverse).length := by
        simp
      rw [hItems, List.length_cons, List.range'_concat,
        List.reverse_append, List.reverse_singleton,
        List.singleton_append, Nat.one_mul, hLength]
      unfold updateEach sweep
      rw [get_append]
      simp only [Option.bind_eq_bind, Option.bind_some]
      cases step state item with
      | none => rfl
      | some stepped =>
          simp only [Option.bind_some, set_append]
          rw [hRest stepped.1 (stepped.2 :: after)]
          cases sweep step stepped.1 part with
          | none => rfl
          | some swept => simp

theorem length_of_sweep
    {step : σ → α → Option (σ × α)}
    {state : σ}
    {items : List α}
    {swept : σ × List α}
    (hSwept : sweep step state items = some swept) :
    swept.2.length = items.length := by
  induction items generalizing state swept with
  | nil =>
      cases hSwept
      rfl
  | cons item items hRest =>
      unfold sweep at hSwept
      simp only [Option.bind_eq_bind, Option.bind_eq_some_iff]
        at hSwept
      rcases hSwept with ⟨_, _, rest, hSwept, hResult⟩
      cases hResult
      exact congrArg (· + 1) (hRest hSwept)

/- Changing the items with some indices in ascending order. -/
theorem updateEach_range'_eq
    {step : σ → α → Option (σ × α)}
    {state : σ}
    {items : List α}
    {start n : Nat}
    {swept : σ × List α}
    (hRoom : start + n ≤ items.length)
    (hSwept :
      sweep step state ((items.take (start + n)).drop start) =
        some swept) :
    updateEach step state items (List.range' start n) =
      some
        (swept.1,
          items.take start ++ swept.2 ++
            items.drop (start + n)) := by
  have hEach :=
    updateEach_ascending step state (items.take start)
      ((items.take (start + n)).drop start)
      (items.drop (start + n))
  have hBefore : (items.take start).length = start := by
    rw [List.length_take]
    omega
  have hPart :
      ((items.take (start + n)).drop start).length = n := by
    rw [List.length_drop, List.length_take]
    omega
  rw [take_slice_drop, hBefore, hPart, hSwept] at hEach
  exact hEach

/- A step that does not depend on the state. -/
theorem sweep_eq
    {step : σ → α → Option (σ × α)}
    {state : σ}
    {g : α → α}
    {items : List α}
    (hEach :
      ∀ item ∈ items, step state item = some (state, g item)) :
    sweep step state items = some (state, items.map g) := by
  induction items with
  | nil => rfl
  | cons item items hRest =>
      unfold sweep
      rw [hEach item List.mem_cons_self]
      simp only [Option.bind_eq_bind, Option.bind_some]
      rw [hRest fun other hMem =>
        hEach other (List.mem_cons_of_mem _ hMem)]
      rfl

theorem mapM_eq
    {f : α → Option β}
    {g : α → β}
    {items : List α}
    (hEach : ∀ item ∈ items, f item = some (g item)) :
    items.mapM f = some (items.map g) := by
  induction items with
  | nil => rfl
  | cons item items hRest =>
      rw [List.mapM_cons, hEach item List.mem_cons_self,
        hRest fun other hMem =>
          hEach other (List.mem_cons_of_mem _ hMem)]
      rfl

/- A step that keeps an invariant and does not fault under it. -/
theorem foldlM_eq
    (invariant : σ → Prop)
    {step : σ → α → Option σ}
    {f : σ → α → σ}
    (hStep :
      ∀ state item,
        invariant state →
          step state item = some (f state item))
    (hKeeps :
      ∀ state item,
        invariant state → invariant (f state item))
    {state : σ}
    (hState : invariant state)
    (items : List α) :
    items.foldlM step state = some (items.foldl f state) := by
  induction items generalizing state with
  | nil => rfl
  | cons item items hRest =>
      rw [List.foldlM_cons, List.foldl_cons]
      refine (bind_eq (hStep state item hState)).trans ?_
      exact hRest (hKeeps state item hState)

/-
  A step that does not fault next to one that cannot, and that
  keeps a relation with it.
-/
theorem foldlM_follows
    {τ : Type*}
    (keeps : σ → τ → Prop)
    {step : σ → α → Option σ}
    {f : τ → α → τ}
    (hStep :
      ∀ {state followed},
        keeps state followed →
          ∀ item,
            ∃ next,
              step state item = some next ∧
                keeps next (f followed item))
    {state : σ}
    {followed : τ}
    (hState : keeps state followed)
    (items : List α) :
    ∃ last,
      items.foldlM step state = some last ∧
        keeps last (items.foldl f followed) := by
  induction items generalizing state followed with
  | nil => exact ⟨state, rfl, hState⟩
  | cons item items hRest =>
      rcases hStep hState item with ⟨next, hNext, hKeeps⟩
      rcases hRest hKeeps with ⟨last, hLast, hKept⟩
      rw [List.foldlM_cons, List.foldl_cons]
      exact ⟨last, (bind_eq hNext).trans hLast, hKept⟩

/- All items, read by their indices. -/
theorem mapM_get_eq
    (items : List α) :
    (List.range items.length).mapM (get items) =
      some items := by
  have hEach :
      ∀ before : List α,
        (List.range' before.length items.length).mapM
            (get (before ++ items)) =
          some items := by
    induction items with
    | nil =>
        intro before
        rfl
    | cons item items hRest =>
        intro before
        have hLater := hRest (before ++ [item])
        rw [List.append_assoc, List.length_append] at hLater
        rw [List.length_cons, List.range'_succ,
          List.mapM_cons, get_append]
        refine (bind_eq hLater).trans ?_
        rfl
  rw [List.range_eq_range']
  exact hEach []

end

end Checked

end VideoTerminal
