import VideoTerminal.Grid.Edit
import VideoTerminal.Grid.Resize
import VideoTerminal.Proofs.Grid.Follow

/-
  A changed row in view is marked as changed.  Drawing marks
  the rows that it draws in, and scrolling marks the rows of
  the region, or all of them where it moves the view.

  Main declarations:
    * `Grid.Flags`
    * `Grid.Flags.trans`
    * `Grid.Draws`
    * `Grid.Draws.flags`
    * `Grid.draws_eraseRect`
    * `Grid.Remarks`
    * `Grid.WellFormed.flags_scrollRegion`
-/

namespace VideoTerminal

namespace Grid

------------------------------------------------------------
-- Rows in View
------------------------------------------------------------

section

variable {grid : Grid} {y : Nat}

/- A row in view shows a line of the screen or its history. -/
theorem visibleLine?_of_lt
    (hRow : y < grid.rows) :
    grid.visibleLine? y =
      grid.lineAt? ((y : Int) - grid.viewOffset) := by
  unfold visibleLine?
  rw [if_neg (Nat.not_le.mpr hRow)]
  split
  · rename_i hAbove
    have hAge :
        (y : Int) - grid.viewOffset =
          Int.negSucc (grid.viewOffset - 1 - y) := by
      omega
    rw [hAge]
    rfl
  · rename_i hBelow
    rw [lineAt?_of_nonneg grid (by omega), Int.toNat_sub]
    rfl

theorem lt_rows_of_visibleLine?
    {line : Line}
    (hLine : grid.visibleLine? y = some line) :
    y < grid.rows := by
  unfold visibleLine? at hLine
  split at hLine
  · cases hLine
  · rename_i hRow
    exact Nat.not_le.mp hRow

end

------------------------------------------------------------
-- Marks
------------------------------------------------------------

/- Every row of a whole screen has a mark. -/
theorem WellFormed.rows_le_dirty
    {cols rows capacity : Nat}
    {grid : Grid}
    (hGrid : grid.WellFormed cols rows capacity) :
    grid.rows ≤ grid.dirty.length :=
  Nat.le_of_eq
    (hGrid.rows_eq.trans hGrid.dirty_length.symm)

section

variable (grid : Grid) (y : Nat)

theorem isDirty_markDirty
    (row : Nat) :
    (grid.markDirty row).isDirty y ↔
      grid.isDirty y ∨
        (y = row + grid.viewOffset ∧
          y < grid.dirty.length) := by
  unfold markDirty isDirty
  rw [List.getElem?_set]
  grind

theorem isDirty_markDirtyRange
    (top bottom : Nat) :
    (grid.markDirtyRange top bottom).isDirty y ↔
      grid.isDirty y ∨
        (y < grid.dirty.length ∧
          top + grid.viewOffset ≤ y ∧
          y ≤
            min bottom (grid.rows - 1) + grid.viewOffset) := by
  unfold markDirtyRange isDirty
  rw [List.getElem?_mapIdx]
  grind

theorem isDirty_markAllDirty :
    grid.markAllDirty.isDirty y ↔ y < grid.dirty.length := by
  unfold markAllDirty isDirty
  rw [List.getElem?_replicate]
  grind

end

------------------------------------------------------------
-- Flagged Changes
------------------------------------------------------------

/-
  Every row in view of one screen is marked as changed, or it
  shows the line that it shows on another screen and is
  unmarked there as well.
-/
def Flags
    (grid after : Grid) : Prop :=
  ∀ y line,
    after.visibleLine? y = some line →
      after.isDirty y ∨
        (grid.visibleLine? y = some line ∧ ¬grid.isDirty y)

/- Every row in view is marked as changed. -/
def AllDirty
    (grid : Grid) : Prop :=
  ∀ y, y < grid.rows → grid.isDirty y

theorem Flags.refl
    (grid : Grid) :
    grid.Flags grid := by
  intro y line hLine
  by_cases hDirty : grid.isDirty y
  · exact Or.inl hDirty
  · exact Or.inr ⟨hLine, hDirty⟩

theorem Flags.trans
    {grid between after : Grid}
    (hFirst : grid.Flags between)
    (hSecond : between.Flags after) :
    grid.Flags after := by
  intro y line hLine
  rcases hSecond y line hLine with hDirty | ⟨hSame, hClean⟩
  · exact Or.inl hDirty
  · rcases hFirst y line hSame with hDirty | hBefore
    · exact absurd hDirty hClean
    · exact Or.inr hBefore

theorem AllDirty.flags
    {after : Grid}
    (hAll : after.AllDirty)
    (grid : Grid) :
    grid.Flags after := by
  intro y line hLine
  exact Or.inl (hAll y (lt_rows_of_visibleLine? hLine))

theorem allDirty_of_marked
    {grid : Grid}
    (hLength : grid.rows ≤ grid.dirty.length) :
    grid.markAllDirty.AllDirty := by
  intro y hRow
  have hIn : y < grid.rows := hRow
  rw [isDirty_markAllDirty]
  exact Nat.lt_of_lt_of_le hIn hLength

/-
  While the view does not move, it is enough to compare the
  lines at the same rows.
-/
theorem flags_of_lineAt?
    {grid after : Grid}
    (hRows : after.rows = grid.rows)
    (hView : after.viewOffset = grid.viewOffset)
    (hKeeps : ∀ y, grid.isDirty y → after.isDirty y)
    (hMarks :
      ∀ y,
        y < grid.rows →
          ¬after.isDirty y →
            after.lineAt? ((y : Int) - grid.viewOffset) =
              grid.lineAt? ((y : Int) - grid.viewOffset)) :
    grid.Flags after := by
  intro y line hLine
  have hRow := lt_rows_of_visibleLine? hLine
  by_cases hDirty : after.isDirty y
  · exact Or.inl hDirty
  · refine Or.inr ⟨?_, mt (hKeeps y) hDirty⟩
    rw [visibleLine?_of_lt hRow, hView] at hLine
    rw [hRows] at hRow
    rw [visibleLine?_of_lt hRow, ← hMarks y hRow hDirty]
    exact hLine

------------------------------------------------------------
-- Drawing
------------------------------------------------------------

/-
  Lines of the screen are changed, and only those of rows that
  are marked as changed wherever they are in view.
-/
structure Draws
    (grid drawn : Grid) : Prop where
  rows_eq : drawn.rows = grid.rows
  scrollback_eq : drawn.scrollback = grid.scrollback
  view_eq : drawn.viewOffset = grid.viewOffset
  dirty_length : drawn.dirty.length = grid.dirty.length
  keeps : ∀ y, grid.isDirty y → drawn.isDirty y
  marks :
    ∀ row,
      drawn.line? row ≠ grid.line? row →
        row + grid.viewOffset < grid.dirty.length →
          drawn.isDirty (row + grid.viewOffset)

namespace Draws

variable {grid drawn last : Grid}

theorem refl
    (grid : Grid) :
    grid.Draws grid where
  rows_eq := rfl
  scrollback_eq := rfl
  view_eq := rfl
  dirty_length := rfl
  keeps := fun _ hDirty => hDirty
  marks := fun _ hChanged => absurd rfl hChanged

theorem trans
    (hFirst : grid.Draws drawn)
    (hSecond : drawn.Draws last) :
    grid.Draws last where
  rows_eq := hSecond.rows_eq.trans hFirst.rows_eq
  scrollback_eq :=
    hSecond.scrollback_eq.trans hFirst.scrollback_eq
  view_eq := hSecond.view_eq.trans hFirst.view_eq
  dirty_length :=
    hSecond.dirty_length.trans hFirst.dirty_length
  keeps := fun y hDirty =>
    hSecond.keeps y (hFirst.keeps y hDirty)
  marks := by
    intro row hChanged hIn
    by_cases hSame : drawn.line? row = grid.line? row
    · rw [← hSame] at hChanged
      rw [← hFirst.view_eq, ← hFirst.dirty_length] at hIn
      rw [← hFirst.view_eq]
      exact hSecond.marks row hChanged hIn
    · exact hSecond.keeps _ (hFirst.marks row hSame hIn)

theorem flags
    (hDraws : grid.Draws drawn)
    (hLength : grid.rows ≤ grid.dirty.length) :
    grid.Flags drawn := by
  apply
    flags_of_lineAt? hDraws.rows_eq hDraws.view_eq
      hDraws.keeps
  intro y hRow hClean
  rcases Int.lt_or_le ((y : Int) - grid.viewOffset) 0 with
    hHistory | hScreen
  · exact lineAt?_congr_of_neg hDraws.scrollback_eq hHistory
  · have hOffset :
        y - grid.viewOffset + grid.viewOffset = y := by
      omega
    rw [lineAt?_of_nonneg drawn hScreen,
      lineAt?_of_nonneg grid hScreen, Int.toNat_sub]
    by_cases hSame :
        drawn.line? (y - grid.viewOffset) =
          grid.line? (y - grid.viewOffset)
    · exact hSame
    · have hMarked := hDraws.marks _ hSame
      rw [hOffset] at hMarked
      exact absurd (hMarked (by omega)) hClean

end Draws

section

variable (grid : Grid)

theorem draws_markAllDirty :
    grid.Draws grid.markAllDirty where
  rows_eq := rfl
  scrollback_eq := rfl
  view_eq := rfl
  dirty_length := List.length_replicate
  keeps := by
    intro y hDirty
    rw [isDirty_markAllDirty]
    unfold isDirty at hDirty
    grind
  marks := fun _ hChanged => absurd rfl hChanged

theorem draws_markDirty
    (row : Nat) :
    grid.Draws (grid.markDirty row) where
  rows_eq := rfl
  scrollback_eq := rfl
  view_eq := rfl
  dirty_length := List.length_set
  keeps := by
    intro y hDirty
    rw [isDirty_markDirty]
    exact Or.inl hDirty
  marks := fun _ hChanged => absurd rfl hChanged

theorem draws_modifyLine
    (row : Nat)
    (change : Line → Line) :
    grid.Draws (grid.modifyLine row change) where
  rows_eq := List.length_modify ..
  scrollback_eq := rfl
  view_eq := rfl
  dirty_length := List.length_set
  keeps := (grid.draws_markDirty row).keeps
  marks := by
    intro y hChanged hIn
    refine (isDirty_markDirty grid _ row).mpr (Or.inr ?_)
    by_cases hRow : y = row
    · subst hRow
      exact ⟨rfl, hIn⟩
    · refine absurd ?_ hChanged
      unfold modifyLine line?
      rw [List.getElem?_modify]
      simp only [Ne.symm hRow, if_false]
      exact Option.map_id'

theorem draws_clear
    (blank : Cell) :
    grid.Draws (grid.clear blank) where
  rows_eq := List.length_map _
  scrollback_eq := rfl
  view_eq := rfl
  dirty_length := List.length_replicate
  keeps := (draws_markAllDirty grid).keeps
  marks := by
    intro row _ hIn
    exact (isDirty_markAllDirty grid _).mpr hIn

theorem draws_eraseRect
    (x₁ y₁ x₂ y₂ : Nat)
    (blank : Cell) :
    grid.Draws (grid.eraseRect x₁ y₁ x₂ y₂ blank) := by
  unfold eraseRect
  dsimp only
  split
  · exact Draws.refl grid
  · exact
      { rows_eq := List.length_mapIdx
        scrollback_eq := rfl
        view_eq := rfl
        dirty_length := List.length_mapIdx
        keeps := by
          intro y hDirty
          exact
            (isDirty_markDirtyRange grid y _ _).mpr
              (Or.inl hDirty)
        marks := by
          intro row hChanged hIn
          refine
            (isDirty_markDirtyRange grid _ _ _).mpr
              (Or.inr ⟨hIn, ?_⟩)
          by_cases hInside :
              min y₁ y₂ ≤ row ∧
                row ≤ min (max y₁ y₂) (grid.rows - 1)
          · omega
          · refine absurd ?_ hChanged
            simp only [line?, List.getElem?_mapIdx, hInside,
              if_false]
            exact Option.map_id' }

end

------------------------------------------------------------
-- Scrolling
------------------------------------------------------------

section

variable {cols rows capacity origin bottom n : Nat}
  {grid : Grid}

/-
  Lines outside of the region stay, unless the history is in
  use, and then there are none.
-/
private theorem flags_marking
    (hGrid : grid.WellFormed cols rows capacity)
    (hBottom : bottom < rows)
    {moved : Grid}
    (hDirty : moved.dirty = grid.dirty)
    (hView : moved.viewOffset = grid.viewOffset)
    {exchanged view : Nat}
    {delta : Int}
    (hCarries :
      grid.Carries
        (grid.marking moved exchanged origin bottom view)
        exchanged origin bottom delta) :
    grid.Flags
      (grid.marking moved exchanged origin bottom view) := by
  have hLength := hGrid.dirty_length
  have hGridRows := hGrid.rows_eq
  have hRows : moved.rows = grid.rows := by
    have hSame := hCarries.rows_eq
    unfold Grid.rows at hSame ⊢
    rw [lines_marking] at hSame
    exact hSame
  unfold marking at hCarries ⊢
  split at hCarries
  · rename_i hMoves
    rw [if_pos hMoves]
    apply AllDirty.flags
    apply allDirty_of_marked
    show moved.rows ≤ moved.dirty.length
    rw [hRows, hDirty]
    exact hGrid.rows_le_dirty
  · rename_i hStill
    rw [if_neg hStill]
    refine
      flags_of_lineAt? hCarries.rows_eq hView ?_ ?_
    · intro y hOld
      refine (isDirty_markDirtyRange moved y _ _).mpr ?_
      unfold isDirty at hOld ⊢
      rw [hDirty]
      exact Or.inl hOld
    · intro y hRow hClean
      have hUnmarked :=
        mt (isDirty_markDirtyRange moved y origin bottom).mpr
          hClean
      rw [hRows, hView, hDirty] at hUnmarked
      rcases Nat.eq_zero_or_pos exchanged with
        hNone | hExchanged
      · exact hCarries.outside hNone _ (by omega)
      · -- The region is the whole screen, and all marked.
        have hWhole := (hCarries.history hExchanged).1
        omega

theorem WellFormed.flags_scrollRegion
    (hGrid : grid.WellFormed cols rows capacity)
    (hBottom : bottom < rows)
    (hSome : 0 < n)
    (hRoom : origin + n ≤ bottom + 1)
    (direction : ScrollDirection)
    (retain : Bool)
    (blank : Cell) :
    grid.Flags
      (grid.scrollRegion origin bottom n direction retain
        blank).1 := by
  have hBottomRow : bottom < grid.rows :=
    hGrid.rows_eq.symm ▸ hBottom
  unfold Grid.scrollRegion
  cases direction with
  | up =>
      have hCarries :=
        hGrid.carries_scrollUp hBottom hSome hRoom retain
          blank
      rw [scrollUp_eq hBottomRow (by omega) hSome]
        at hCarries ⊢
      dsimp only at hCarries ⊢
      refine flags_marking hGrid hBottom ?_ ?_ hCarries
      · rfl
      · rfl
  | down =>
      have hCarries :=
        hGrid.carries_scrollDown hBottom hSome hRoom retain
          blank
      rw [scrollDown_eq hBottomRow (by omega) hSome]
        at hCarries ⊢
      dsimp only at hCarries ⊢
      refine flags_marking hGrid hBottom ?_ ?_ hCarries
      · rfl
      · rfl

end

------------------------------------------------------------
-- The View and the Size
------------------------------------------------------------

section

variable {grid : Grid}

/- A view that moves is drawn anew. -/
theorem flags_setViewOffset
    (hLength : grid.rows ≤ grid.dirty.length)
    (offset : Nat) :
    grid.Flags (grid.setViewOffset offset) := by
  unfold setViewOffset
  dsimp only
  split
  · exact Flags.refl grid
  · apply AllDirty.flags
    exact allDirty_of_marked hLength

/- A history that is not in view is cleared unseen. -/
theorem flags_clearScrollback
    (hLength : grid.rows ≤ grid.dirty.length) :
    grid.Flags grid.clearScrollback := by
  unfold clearScrollback
  dsimp only
  split
  · apply AllDirty.flags
    exact allDirty_of_marked hLength
  · rename_i hNone
    apply flags_of_lineAt?
    · rfl
    · rfl
    · exact fun _ hDirty => hDirty
    · intro y _ _
      have hRow : 0 ≤ (y : Int) - grid.viewOffset := by omega
      rw [lineAt?_of_nonneg _ hRow, lineAt?_of_nonneg _ hRow]

theorem allDirty_clear
    (hLength : grid.rows ≤ grid.dirty.length)
    (blank : Cell) :
    (grid.clear blank).AllDirty := by
  apply allDirty_of_marked
  unfold rows
  rw [List.length_map]
  exact hLength

theorem allDirty_resize
    (grid : Grid)
    (cols rows cursorRow : Nat)
    (retain : Bool)
    (blank : Cell) :
    (grid.resize cols rows cursorRow retain
      blank).1.AllDirty := by
  intro y hRow
  unfold resize resizeRows Grid.rows at hRow
  simp only [List.length_append, List.length_take,
    List.length_replicate] at hRow
  show ((List.replicate rows true)[y]?.getD false) = true
  rw [List.getElem?_replicate, if_pos (by omega)]
  rfl

end

end Grid

end VideoTerminal
