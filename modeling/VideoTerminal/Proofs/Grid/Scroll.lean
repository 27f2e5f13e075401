import VideoTerminal.Grid.Scroll
import VideoTerminal.Proofs.Grid.Edit

/-
  What scrolling does to the lines of a screen and to its
  history: the lines of the region move, and those that enter
  it are blank or come back from the history.

  Main declarations:
    * `Grid.movedUp`
    * `Grid.movedDown`
    * `Grid.Scrolls`
    * `Grid.exchangeUp`
    * `Grid.exchangeDown`
    * `Grid.scrollUp_eq`
    * `Grid.scrollDown_eq`
    * `Grid.scrolls_scrollUp`
    * `Grid.scrolls_scrollDown`
    * `Grid.WellFormed.scrollRegion`
-/

namespace VideoTerminal

namespace Grid

------------------------------------------------------------
-- Lines That Move
------------------------------------------------------------

/-
  The lines after those of the rows `origin` to `bottom` have
  moved up by `n`.
-/
def movedUp
    (lines : List Line)
    (origin bottom : Nat)
    (n : Nat)
    (entering : List Line) : List Line :=
  lines.take origin ++
    (lines.take (bottom + 1)).drop (origin + n) ++
    entering ++ lines.drop (bottom + 1)

/-
  The lines after those of the rows `origin` to `bottom` have
  moved down by `n`.
-/
def movedDown
    (lines : List Line)
    (origin bottom : Nat)
    (n : Nat)
    (entering : List Line) : List Line :=
  lines.take origin ++ entering ++
    (lines.take (bottom + 1 - n)).drop origin ++
    lines.drop (bottom + 1)

section

variable {lines entering : List Line}
  {origin bottom n : Nat}

theorem getElem?_movedUp
    (hBottom : bottom < lines.length)
    (hRoom : origin + n ≤ bottom + 1)
    (hEntering : entering.length = n)
    (row : Nat) :
    (movedUp lines origin bottom n entering)[row]? =
      if origin ≤ row ∧ row ≤ bottom then
        if row + n ≤ bottom then
          lines[row + n]?
        else
          entering[row + n - (bottom + 1)]?
      else
        lines[row]? := by
  unfold movedUp
  simp only [List.getElem?_append, List.length_append,
    List.length_take, List.length_drop, List.getElem?_take,
    List.getElem?_drop, hEntering]
  grind

theorem getElem?_movedDown
    (hBottom : bottom < lines.length)
    (hRoom : origin + n ≤ bottom + 1)
    (hEntering : entering.length = n)
    (row : Nat) :
    (movedDown lines origin bottom n entering)[row]? =
      if origin ≤ row ∧ row ≤ bottom then
        if origin + n ≤ row then
          lines[row - n]?
        else
          entering[row - origin]?
      else
        lines[row]? := by
  unfold movedDown
  simp only [List.getElem?_append, List.length_append,
    List.length_take, List.length_drop, List.getElem?_take,
    List.getElem?_drop, hEntering]
  grind

theorem length_movedUp
    (hBottom : bottom < lines.length)
    (hRoom : origin + n ≤ bottom + 1)
    (hEntering : entering.length = n) :
    (movedUp lines origin bottom n entering).length =
      lines.length := by
  unfold movedUp
  simp only [List.length_append, List.length_take,
    List.length_drop, hEntering]
  omega

theorem length_movedDown
    (hBottom : bottom < lines.length)
    (hRoom : origin + n ≤ bottom + 1)
    (hEntering : entering.length = n) :
    (movedDown lines origin bottom n entering).length =
      lines.length := by
  unfold movedDown
  simp only [List.length_append, List.length_take,
    List.length_drop, hEntering]
  omega

theorem mem_movedUp
    {line : Line}
    (hMem : line ∈ movedUp lines origin bottom n entering) :
    line ∈ lines ∨ line ∈ entering := by
  simp only [movedUp, List.mem_append] at hMem
  rcases hMem with ((hTop | hMoved) | hNew) | hBelow
  · exact Or.inl (List.mem_of_mem_take hTop)
  · exact
      Or.inl
        (List.mem_of_mem_take (List.mem_of_mem_drop hMoved))
  · exact Or.inr hNew
  · exact Or.inl (List.mem_of_mem_drop hBelow)

theorem mem_movedDown
    {line : Line}
    (hMem :
      line ∈ movedDown lines origin bottom n entering) :
    line ∈ lines ∨ line ∈ entering := by
  simp only [movedDown, List.mem_append] at hMem
  rcases hMem with ((hTop | hNew) | hMoved) | hBelow
  · exact Or.inl (List.mem_of_mem_take hTop)
  · exact Or.inr hNew
  · exact
      Or.inl
        (List.mem_of_mem_take (List.mem_of_mem_drop hMoved))
  · exact Or.inl (List.mem_of_mem_drop hBelow)

end

------------------------------------------------------------
-- Screens That Scroll
------------------------------------------------------------

/-
  One screen comes from another by exchanging its lines and
  its history.  The view stays within the history.
-/
structure Scrolls
    (grid scrolled : Grid)
    (lines : List Line)
    (ring : Scrollback) : Prop where
  cols_eq : scrolled.cols = grid.cols
  lines_eq : scrolled.lines = lines
  scrollback_eq : scrolled.scrollback = ring
  dirty_length : scrolled.dirty.length = grid.dirty.length
  view_le : scrolled.viewOffset ≤ ring.size

theorem Scrolls.wellFormed
    {cols rows capacity : Nat}
    {grid scrolled : Grid}
    {lines : List Line}
    {ring : Scrollback}
    (hScrolls : grid.Scrolls scrolled lines ring)
    (hGrid : grid.WellFormed cols rows capacity)
    (hLength : lines.length = rows)
    (hLines : ∀ line ∈ lines, line.WellFormed cols)
    (hRing : ring.WellFormed cols)
    (hCapacity : ring.capacity = capacity) :
    scrolled.WellFormed cols rows capacity where
  cols_eq := hScrolls.cols_eq.trans hGrid.cols_eq
  rows_eq :=
    (congrArg List.length hScrolls.lines_eq).trans hLength
  lines := hScrolls.lines_eq.symm ▸ hLines
  history := hScrolls.scrollback_eq.symm ▸ hRing
  capacity_eq := hScrolls.scrollback_eq.symm ▸ hCapacity
  dirty_length :=
    hScrolls.dirty_length.trans hGrid.dirty_length
  view_le := hScrolls.scrollback_eq.symm ▸ hScrolls.view_le

------------------------------------------------------------
-- What Scrolling Does
------------------------------------------------------------

/-
  What becomes of the lines that leave a region at its top:
  the history afterwards, and the lines that enter below.
-/
def exchangeUp
    (grid : Grid)
    (origin bottom n : Nat)
    (retain : Bool)
    (blank : Cell) : Scrollback × List Line :=
  let leaving := grid.slice origin (origin + n)
  if grid.usesHistory origin bottom retain then
    grid.scrollback.pushAll blank leaving
  else
    (grid.scrollback, leaving.map (·.fill blank))

/-
  What becomes of the lines that leave a region at its bottom:
  the history afterwards, and the lines that enter above, the
  lowest in front.
-/
def exchangeDown
    (grid : Grid)
    (origin bottom n : Nat)
    (retain : Bool)
    (blank : Cell) : Scrollback × List Line :=
  let leaving :=
    (grid.slice (bottom + 1 - n) (bottom + 1)).reverse
  if grid.usesHistory origin bottom retain then
    grid.scrollback.popInto blank leaving
  else
    (grid.scrollback, leaving.map (·.fill blank))

/-
  What both directions of scrolling end with.  All rows are
  marked where the view moves, and else those of the region.
-/
def marking
    (grid moved : Grid)
    (exchanged origin bottom view : Nat) : Grid :=
  if 0 < exchanged ∧ 0 < grid.viewOffset then
    markAllDirty { moved with viewOffset := view }
  else
    moved.markDirtyRange origin bottom

section

variable {grid : Grid} {origin bottom n m : Nat}

theorem lines_marking
    {moved : Grid}
    {exchanged view : Nat} :
    (grid.marking moved exchanged origin bottom view).lines =
      moved.lines := by
  unfold marking
  split <;> rfl

theorem scrollback_marking
    {moved : Grid}
    {exchanged view : Nat} :
    (grid.marking moved exchanged origin bottom
      view).scrollback = moved.scrollback := by
  unfold marking
  split <;> rfl

/- A view that does not move is still within the history. -/
theorem scrolls_marking
    {lines : List Line}
    {ring : Scrollback}
    {exchanged view : Nat}
    (hMoving : view ≤ ring.size)
    (hStill :
      exchanged = 0 ∨ grid.viewOffset = 0 →
        grid.viewOffset ≤ ring.size) :
    grid.Scrolls
      (grid.marking
        { grid with lines := lines, scrollback := ring }
        exchanged origin bottom view)
      lines ring := by
  unfold marking
  split
  · exact
      { cols_eq := rfl
        lines_eq := rfl
        scrollback_eq := rfl
        dirty_length := List.length_replicate
        view_le := hMoving }
  · rename_i hView
    exact
      { cols_eq := rfl
        lines_eq := rfl
        scrollback_eq := rfl
        dirty_length := List.length_mapIdx
        view_le := hStill (by omega) }

/- Scrolling up within the screen, by some lines. -/
theorem scrollUp_eq
    (hBottom : bottom < grid.rows)
    (hCount : min n (bottom + 1 - origin) = m)
    (hSome : 0 < m)
    (retain : Bool)
    (blank : Cell) :
    grid.scrollUp origin bottom n retain blank =
      let exchange :=
        grid.exchangeUp origin bottom m retain blank
      let exchanged :=
        if grid.usesHistory origin bottom retain then m else 0
      (grid.marking
          { grid with
            lines :=
              movedUp grid.lines origin bottom m exchange.2
            scrollback := exchange.1 }
          exchanged origin bottom
          (min (grid.viewOffset + exchanged) exchange.1.size),
        exchanged) := by
  have hLast : min bottom (grid.rows - 1) = bottom := by omega
  unfold scrollUp exchangeUp marking
  dsimp only
  rw [hLast, hCount, if_neg (Nat.ne_of_gt hSome)]
  cases grid.usesHistory origin bottom retain with
  | false => rfl
  | true => exact (apply_ite (·, m) _ _ _).symm

/- Scrolling down within the screen, by some lines. -/
theorem scrollDown_eq
    (hBottom : bottom < grid.rows)
    (hCount : min n (bottom + 1 - origin) = m)
    (hSome : 0 < m)
    (retain : Bool)
    (blank : Cell) :
    grid.scrollDown origin bottom n retain blank =
      let exchange :=
        grid.exchangeDown origin bottom m retain blank
      let exchanged :=
        if grid.usesHistory origin bottom retain then
          min m grid.scrollback.size
        else
          0
      (grid.marking
          { grid with
            lines :=
              movedDown grid.lines origin bottom m
                exchange.2.reverse
            scrollback := exchange.1 }
          exchanged origin bottom
          (grid.viewOffset - exchanged),
        exchanged) := by
  have hLast : min bottom (grid.rows - 1) = bottom := by omega
  unfold scrollDown exchangeDown marking
  dsimp only
  rw [hLast, hCount, if_neg (Nat.ne_of_gt hSome)]
  cases grid.usesHistory origin bottom retain with
  | false => rfl
  | true => exact (apply_ite (·, _) _ _ _).symm

end

section

variable {cols rows capacity : Nat} {grid : Grid}
  {origin bottom n : Nat}

theorem length_slice
    (hBottom : bottom ≤ grid.rows) :
    (grid.slice origin bottom).length = bottom - origin := by
  unfold rows at hBottom
  unfold slice
  rw [List.length_drop, List.length_take,
    Nat.min_eq_left hBottom]

/- The rows that leave a region at its bottom. -/
theorem length_leaving
    (hBottom : bottom < grid.rows)
    (hRoom : n ≤ bottom + 1) :
    (grid.slice (bottom + 1 - n) (bottom + 1)).length = n := by
  rw [length_slice hBottom]
  omega

theorem WellFormed.forall_mem_slice
    (hGrid : grid.WellFormed cols rows capacity)
    (first past : Nat) :
    ∀ line ∈ grid.slice first past, line.WellFormed cols := by
  intro line hLine
  exact
    hGrid.lines line
      (List.mem_of_mem_take (List.mem_of_mem_drop hLine))

theorem WellFormed.forall_mem_slice_reverse
    (hGrid : grid.WellFormed cols rows capacity)
    (first past : Nat) :
    ∀ line ∈ (grid.slice first past).reverse,
      line.WellFormed cols := by
  intro line hLine
  exact
    hGrid.forall_mem_slice first past line
      (List.mem_reverse.mp hLine)

theorem map_fill_eq_replicate
    {lines : List Line}
    (hLines : ∀ line ∈ lines, line.WellFormed cols)
    (blank : Cell) :
    lines.map (·.fill blank) =
      List.replicate lines.length (.ofBlank cols blank) :=
  Line.map_fill_eq_replicate
    (fun line hLine => (hLines line hLine).width_eq) blank

theorem WellFormed.lt_length
    (hGrid : grid.WellFormed cols rows capacity)
    {row : Nat}
    (hRow : row < rows) :
    row < grid.lines.length := by
  rw [← hGrid.rows_eq] at hRow
  exact hRow

theorem usesHistory_iff
    {grid : Grid}
    {origin bottom : Nat}
    {retain : Bool} :
    grid.usesHistory origin bottom retain ↔
      retain ∧ origin = 0 ∧ bottom + 1 = grid.rows ∧
        0 < grid.scrollback.capacity := by
  unfold usesHistory
  simp only [Bool.and_eq_true, beq_iff_eq,
    decide_eq_true_eq, and_assoc]

/- Lines of the screen go to its history. -/
theorem WellFormed.pushAll_slice
    (hGrid : grid.WellFormed cols rows capacity)
    (hRoom : origin + n ≤ rows)
    (blank : Cell) :
    (grid.scrollback.pushAll blank
        (grid.slice origin (origin + n))).1.WellFormed cols ∧
      (grid.scrollback.pushAll blank
          (grid.slice origin (origin + n))).1.retained =
        ((grid.slice origin (origin + n)).reverse ++
          grid.scrollback.retained).take
            grid.scrollback.capacity ∧
      (grid.scrollback.pushAll blank
          (grid.slice origin (origin + n))).2 =
        List.replicate n (.ofBlank cols blank) := by
  rcases hGrid.history.pushAll
      (hGrid.forall_mem_slice origin (origin + n)) blank with
    ⟨hRing, hRetained, hRecycled⟩
  rw [length_slice (by rw [hGrid.rows_eq]; exact hRoom),
    Nat.add_sub_cancel_left] at hRecycled
  exact ⟨hRing, hRetained, hRecycled⟩

/- Lines of the history come back for others of the screen. -/
theorem WellFormed.popInto_slice
    (hGrid : grid.WellFormed cols rows capacity)
    (hBottom : bottom < rows)
    (hRoom : n ≤ bottom + 1)
    (blank : Cell) :
    (grid.scrollback.popInto blank
        (grid.slice (bottom + 1 - n)
          (bottom + 1)).reverse).1.WellFormed cols ∧
      (grid.scrollback.popInto blank
          (grid.slice (bottom + 1 - n)
            (bottom + 1)).reverse).1.retained =
        grid.scrollback.retained.drop n ∧
      (grid.scrollback.popInto blank
          (grid.slice (bottom + 1 - n)
            (bottom + 1)).reverse).2 =
        grid.scrollback.retained.take n ++
          List.replicate (n - grid.scrollback.size)
            (.ofBlank cols blank) := by
  have hLength :
      (grid.slice (bottom + 1 - n)
        (bottom + 1)).reverse.length = n :=
    (List.length_reverse).trans
      (length_leaving (hGrid.rows_eq ▸ hBottom) hRoom)
  rcases hGrid.history.popInto
      (hGrid.forall_mem_slice_reverse (bottom + 1 - n)
        (bottom + 1))
      blank with
    ⟨hRing, hRetained, hEntering⟩
  rw [hLength] at hRetained
  rw [hLength, hGrid.history.length_retained] at hEntering
  exact ⟨hRing, hRetained, hEntering⟩

/-
  The lines that enter at the top when lines move down, and
  those of the history are `used` for it or not.
-/
def returning
    (grid : Grid)
    (cols n : Nat)
    (used : Bool)
    (blank : Cell) : List Line :=
  if used then
    (grid.scrollback.retained.take n ++
      List.replicate (n - grid.scrollback.size)
        (Line.ofBlank cols blank)).reverse
  else
    List.replicate n (.ofBlank cols blank)

theorem WellFormed.length_returning
    (hGrid : grid.WellFormed cols rows capacity)
    (n : Nat)
    (used : Bool)
    (blank : Cell) :
    (grid.returning cols n used blank).length = n := by
  have hRetained := hGrid.history.length_retained
  unfold returning
  split
  · simp only [List.length_reverse, List.length_append,
      List.length_take, List.length_replicate]
    omega
  · exact List.length_replicate

theorem WellFormed.of_mem_returning
    (hGrid : grid.WellFormed cols rows capacity)
    {n : Nat}
    {used : Bool}
    {blank : Cell}
    (hBlank : blank.IsPlain)
    {line : Line}
    (hLine : line ∈ grid.returning cols n used blank) :
    line.WellFormed cols := by
  have hFresh := Line.wellFormed_ofBlank cols hBlank
  unfold returning at hLine
  split at hLine
  · rcases List.mem_append.mp (List.mem_reverse.mp hLine) with
      hBack | hNew
    · exact
        hGrid.history.of_mem_retained
          (List.mem_of_mem_take hBack)
    · exact (List.eq_of_mem_replicate hNew) ▸ hFresh
  · exact (List.eq_of_mem_replicate hLine) ▸ hFresh

/- The lines that enter below are blank ones. -/
theorem WellFormed.exchangeUp_eq
    (hGrid : grid.WellFormed cols rows capacity)
    (hRoom : origin + n ≤ rows)
    (bottom : Nat)
    (retain : Bool)
    (blank : Cell) :
    grid.exchangeUp origin bottom n retain blank =
      (if grid.usesHistory origin bottom retain then
          (grid.scrollback.pushAll blank
            (grid.slice origin (origin + n))).1
        else
          grid.scrollback,
        List.replicate n (.ofBlank cols blank)) := by
  unfold exchangeUp
  dsimp only
  split
  · rw [← (hGrid.pushAll_slice hRoom blank).2.2]
  · rw [map_fill_eq_replicate
        (hGrid.forall_mem_slice origin (origin + n)) blank,
      length_slice (by rw [hGrid.rows_eq]; exact hRoom),
      Nat.add_sub_cancel_left]

/- The lines that enter above come back, or are blank ones. -/
theorem WellFormed.exchangeDown_eq
    (hGrid : grid.WellFormed cols rows capacity)
    (hBottom : bottom < rows)
    (hRoom : n ≤ bottom + 1)
    (origin : Nat)
    (retain : Bool)
    (blank : Cell) :
    grid.exchangeDown origin bottom n retain blank =
      (if grid.usesHistory origin bottom retain then
          (grid.scrollback.popInto blank
            (grid.slice (bottom + 1 - n)
              (bottom + 1)).reverse).1
        else
          grid.scrollback,
        (grid.returning cols n
          (grid.usesHistory origin bottom retain)
          blank).reverse) := by
  have hBottomRow : bottom < grid.rows :=
    hGrid.rows_eq.symm ▸ hBottom
  unfold exchangeDown returning
  dsimp only
  split
  · rw [List.reverse_reverse,
      ← (hGrid.popInto_slice hBottom hRoom blank).2.2]
  · rw [map_fill_eq_replicate
        (hGrid.forall_mem_slice_reverse (bottom + 1 - n)
          (bottom + 1))
        blank,
      List.length_reverse, length_leaving hBottomRow hRoom,
      List.reverse_replicate]

/-
  Scrolling up moves the lines of the region, and the top ones
  go to the history if the screen exchanges lines with it.
-/
theorem scrolls_scrollUp
    (hGrid : grid.WellFormed cols rows capacity)
    (hBottom : bottom < rows)
    (hSome : 0 < n)
    (hRoom : origin + n ≤ bottom + 1)
    (retain : Bool)
    (blank : Cell) :
    grid.Scrolls
        (grid.scrollUp origin bottom n retain blank).1
        (movedUp grid.lines origin bottom n
          (List.replicate n (.ofBlank cols blank)))
        (if grid.usesHistory origin bottom retain then
          (grid.scrollback.pushAll blank
            (grid.slice origin (origin + n))).1
        else
          grid.scrollback) ∧
      (grid.scrollUp origin bottom n retain blank).2 =
        (if grid.usesHistory origin bottom retain then
          n
        else
          0) := by
  have hBottomRow : bottom < grid.rows :=
    hGrid.rows_eq.symm ▸ hBottom
  rw [scrollUp_eq hBottomRow (by omega) hSome,
    hGrid.exchangeUp_eq (by omega)]
  refine ⟨scrolls_marking (Nat.min_le_right _ _) ?_, rfl⟩
  intro hStill
  split at hStill
  · rcases hStill with hNone | hView
    · exact absurd hNone (Nat.ne_of_gt hSome)
    · exact hView ▸ Nat.zero_le _
  · rename_i hUnused
    rw [if_neg hUnused]
    exact hGrid.view_le

/-
  Scrolling down moves the lines of the region, and the newest
  of the history come back if the screen exchanges lines with
  it.
-/
theorem scrolls_scrollDown
    (hGrid : grid.WellFormed cols rows capacity)
    (hBottom : bottom < rows)
    (hSome : 0 < n)
    (hRoom : origin + n ≤ bottom + 1)
    (retain : Bool)
    (blank : Cell) :
    grid.Scrolls
        (grid.scrollDown origin bottom n retain blank).1
        (movedDown grid.lines origin bottom n
          (grid.returning cols n
            (grid.usesHistory origin bottom retain) blank))
        (if grid.usesHistory origin bottom retain then
          (grid.scrollback.popInto blank
            (grid.slice (bottom + 1 - n)
              (bottom + 1)).reverse).1
        else
          grid.scrollback) ∧
      (grid.scrollDown origin bottom n retain blank).2 =
        (if grid.usesHistory origin bottom retain then
          min n grid.scrollback.size
        else
          0) := by
  have hView := hGrid.view_le
  have hBottomRow : bottom < grid.rows :=
    hGrid.rows_eq.symm ▸ hBottom
  rcases hGrid.popInto_slice hBottom
      (show n ≤ bottom + 1 by omega) blank with
    ⟨hRing, hRetained, _⟩
  have hSize := congrArg List.length hRetained
  rw [hRing.length_retained, List.length_drop,
    hGrid.history.length_retained] at hSize
  rw [scrollDown_eq hBottomRow (by omega) hSome,
    hGrid.exchangeDown_eq hBottom (by omega)]
  dsimp only
  rw [List.reverse_reverse]
  refine ⟨scrolls_marking ?_ ?_, rfl⟩
  · split
    · rw [hSize]
      omega
    · omega
  · split
    · rw [hSize]
      omega
    · exact fun _ => hView

theorem WellFormed.scrollRegion
    (hGrid : grid.WellFormed cols rows capacity)
    (hBottom : bottom < rows)
    (hSome : 0 < n)
    (hRoom : origin + n ≤ bottom + 1)
    (direction : ScrollDirection)
    (retain : Bool)
    {blank : Cell}
    (hBlank : blank.IsPlain) :
    (grid.scrollRegion origin bottom n direction retain
      blank).1.WellFormed cols rows capacity := by
  have hBottomLine := hGrid.lt_length hBottom
  have hFresh := Line.wellFormed_ofBlank cols hBlank
  unfold Grid.scrollRegion
  cases direction with
  | up =>
      have hWithin : origin + n ≤ rows := by omega
      apply
        (scrolls_scrollUp hGrid hBottom hSome hRoom retain
          blank).1.wellFormed hGrid
      · exact
          (length_movedUp hBottomLine hRoom
            List.length_replicate).trans hGrid.rows_eq
      · intro line hLine
        rcases mem_movedUp hLine with hOld | hNew
        · exact hGrid.lines line hOld
        · exact (List.eq_of_mem_replicate hNew) ▸ hFresh
      · split
        · exact (hGrid.pushAll_slice hWithin blank).1
        · exact hGrid.history
      · split
        · rw [Scrollback.capacity_pushAll]
          exact hGrid.capacity_eq
        · exact hGrid.capacity_eq
  | down =>
      have hWithin : n ≤ bottom + 1 := by omega
      apply
        (scrolls_scrollDown hGrid hBottom hSome hRoom retain
          blank).1.wellFormed hGrid
      · exact
          (length_movedDown hBottomLine hRoom
            (hGrid.length_returning n _ blank)).trans
              hGrid.rows_eq
      · intro line hLine
        rcases mem_movedDown hLine with hOld | hNew
        · exact hGrid.lines line hOld
        · exact hGrid.of_mem_returning hBlank hNew
      · split
        · exact (hGrid.popInto_slice hBottom hWithin blank).1
        · exact hGrid.history
      · split
        · rw [Scrollback.capacity_popInto]
          exact hGrid.capacity_eq
        · exact hGrid.capacity_eq

end

end Grid

end VideoTerminal
