import Mathlib.Data.List.DropRight
import VideoTerminal.Grid.Resize
import VideoTerminal.Proofs.Grid.Edit

/-
  Screens stay well-formed when their size changes, when the
  view of the history moves, and when the history is cleared.
  A change of size keeps the line of the row that it is
  anchored to on the screen, and all lines above it.

  Main declarations:
    * `Grid.WellFormed.resize`
    * `Grid.Resized`
    * `Grid.WellFormed.toList_resize`
    * `Grid.WellFormed.resized_resize`
    * `Grid.WellFormed.setViewOffset`
    * `Grid.WellFormed.clearScrollback`
-/

namespace VideoTerminal

namespace Grid

section

variable {cols rows capacity : Nat} {grid : Grid}

------------------------------------------------------------
-- Size
------------------------------------------------------------

theorem WellFormed.resizeCols
    (hGrid : grid.WellFormed cols rows capacity)
    (cols' : Nat)
    {blank : Cell}
    (hBlank : blank.IsPlain) :
    (grid.resizeCols cols' blank).WellFormed cols' rows
      capacity := by
  unfold Grid.resizeCols
  split
  · rename_i hSame
    rw [hSame, hGrid.cols_eq]
    exact hGrid
  · exact
      { cols_eq := rfl
        rows_eq := (List.length_map _).trans hGrid.rows_eq
        lines := by
          intro line hLine
          rcases List.mem_map.mp hLine with
            ⟨old, hOld, hEq⟩
          exact hEq ▸ (hGrid.lines old hOld).resize cols' hBlank
        history := hGrid.history.resizeCols cols' hBlank
        capacity_eq := hGrid.capacity_eq
        dirty_length := hGrid.dirty_length
        view_le := hGrid.view_le }

theorem WellFormed.resizeRows
    (hGrid : grid.WellFormed cols rows capacity)
    (rows' cursorRow : Nat)
    (retain : Bool)
    {blank : Cell}
    (hBlank : blank.IsPlain) :
    (grid.resizeRows rows' cursorRow retain
      blank).1.WellFormed cols rows' capacity := by
  unfold Grid.resizeRows
  dsimp only
  have hLeaving :
      ∀ line ∈
          grid.lines.take
            (min (cursorRow + 1 - rows') grid.rows),
        line.WellFormed cols :=
    fun line hLine =>
      hGrid.lines line (List.mem_of_mem_take hLine)
  have hPushed := hGrid.history.pushAll hLeaving blank
  refine
    { cols_eq := hGrid.cols_eq
      rows_eq := ?_
      lines := ?_
      history := ?_
      capacity_eq := ?_
      dirty_length := List.length_replicate
      view_le := Nat.min_le_right _ _ }
  · unfold Grid.rows
    simp only [List.length_append, List.length_take,
      List.length_drop, List.length_replicate]
    omega
  · intro line hLine
    rcases List.mem_append.mp hLine with hKept | hNew
    · exact
        hGrid.lines line
          (List.mem_of_mem_drop (List.mem_of_mem_take hKept))
    · rw [List.eq_of_mem_replicate hNew, hGrid.cols_eq]
      exact Line.wellFormed_ofBlank cols hBlank
  · simp only
    split
    · exact hPushed.1
    · exact hGrid.history
  · simp only
    split
    · rw [Scrollback.capacity_pushAll]
      exact hGrid.capacity_eq
    · exact hGrid.capacity_eq

theorem WellFormed.resize
    (hGrid : grid.WellFormed cols rows capacity)
    (cols' rows' cursorRow : Nat)
    (retain : Bool)
    {blank : Cell}
    (hBlank : blank.IsPlain) :
    (grid.resize cols' rows' cursorRow retain
      blank).1.WellFormed cols' rows' capacity :=
  (hGrid.resizeCols cols' hBlank).resizeRows rows' cursorRow
    retain hBlank

------------------------------------------------------------
-- The View and the History
------------------------------------------------------------

theorem WellFormed.markAllDirty
    (hGrid : grid.WellFormed cols rows capacity) :
    grid.markAllDirty.WellFormed cols rows capacity :=
  (edits_markAllDirty grid).wellFormed hGrid
    fun _ _ hLine => hLine

theorem WellFormed.markDirty
    (hGrid : grid.WellFormed cols rows capacity)
    (row : Nat) :
    (grid.markDirty row).WellFormed cols rows capacity :=
  (edits_markDirty grid row).wellFormed hGrid
    fun _ _ hLine => hLine

theorem WellFormed.markClean
    (hGrid : grid.WellFormed cols rows capacity) :
    grid.markClean.WellFormed cols rows capacity :=
  (edits_markClean grid).wellFormed hGrid
    fun _ _ hLine => hLine

theorem WellFormed.setViewOffset
    (hGrid : grid.WellFormed cols rows capacity)
    (offset : Nat) :
    (grid.setViewOffset offset).WellFormed cols rows
      capacity := by
  unfold Grid.setViewOffset
  dsimp only
  split
  · exact hGrid
  · apply WellFormed.markAllDirty
    exact { hGrid with view_le := Nat.min_le_right _ _ }

/- Clearing the history leaves the screen as it is. -/
theorem cols_clearScrollback
    (grid : Grid) :
    grid.clearScrollback.cols = grid.cols := by
  unfold Grid.clearScrollback
  dsimp only
  split <;> rfl

theorem lines_clearScrollback
    (grid : Grid) :
    grid.clearScrollback.lines = grid.lines := by
  unfold Grid.clearScrollback
  dsimp only
  split <;> rfl

theorem scrollback_clearScrollback
    (grid : Grid) :
    grid.clearScrollback.scrollback =
      grid.scrollback.clear := by
  unfold Grid.clearScrollback
  dsimp only
  split <;> rfl

theorem WellFormed.clearScrollback
    (hGrid : grid.WellFormed cols rows capacity) :
    grid.clearScrollback.WellFormed cols rows capacity := by
  have hEmpty :=
    Scrollback.wellFormed_empty cols grid.scrollback.capacity
  unfold Grid.clearScrollback
  dsimp only
  split
  · apply WellFormed.markAllDirty
    exact
      { hGrid with
        history := hEmpty
        capacity_eq := hGrid.capacity_eq
        view_le := Nat.le_refl _ }
  · rename_i hView
    exact
      { hGrid with
        history := hEmpty
        capacity_eq := hGrid.capacity_eq
        view_le := Nat.le_of_not_lt hView }

------------------------------------------------------------
-- Filling
------------------------------------------------------------

theorem WellFormed.clear
    (hGrid : grid.WellFormed cols rows capacity)
    {blank : Cell}
    (hBlank : blank.IsPlain) :
    (grid.clear blank).WellFormed cols rows capacity :=
  (edits_clear grid blank).wellFormed hGrid
    fun _ _ hLine => hLine.fill hBlank

end

------------------------------------------------------------
-- What a Change of Size Keeps
------------------------------------------------------------

/-
  What becomes of a screen whose size changes: the lines that
  would push the anchor row off the bottom leave at the top,
  and every other line is cut or padded where it is.
-/
structure Resized
    (cols rows anchor : Nat)
    (blank : Cell)
    (grid after : Grid) : Prop where
  cols_eq : after.cols = cols
  rows_eq : after.rows = rows
  lines_eq :
    after.lines =
      ((grid.lines.drop (anchor + 1 - rows)).map
          (Line.resize · cols blank) ++
        List.replicate rows (Line.ofBlank cols blank)).take
          rows
  anchored :
    ∃ line,
      grid.line? anchor = some line ∧
        after.line? (anchor - (anchor + 1 - rows)) =
          some (line.resize cols blank)

/- The change that each line undergoes with the width. -/
def refit
    (grid : Grid)
    (cols : Nat)
    (blank : Cell) : Line → Line :=
  if cols = grid.cols then id else (·.resize cols blank)

theorem lines_resizeCols
    (grid : Grid)
    (cols : Nat)
    (blank : Cell) :
    (grid.resizeCols cols blank).lines =
      grid.lines.map (grid.refit cols blank) := by
  unfold resizeCols refit
  split
  · exact (List.map_id _).symm
  · rfl

theorem retained_resizeCols
    (grid : Grid)
    (cols : Nat)
    (blank : Cell) :
    (grid.resizeCols cols blank).scrollback.retained =
      grid.scrollback.retained.map
        (grid.refit cols blank) := by
  unfold resizeCols refit
  split
  · exact (List.map_id _).symm
  · exact Scrollback.retained_resizeCols _ cols blank

section

variable {cols rows capacity : Nat} {grid : Grid}
  (hGrid : grid.WellFormed cols rows capacity)

include hGrid

/- Lines of the same width stay as they are. -/
theorem WellFormed.map_refit
    (cols' : Nat)
    (blank : Cell)
    {lines : List Line}
    (hLines : ∀ line ∈ lines, line.width = cols) :
    lines.map (grid.refit cols' blank) =
      lines.map (·.resize cols' blank) := by
  apply List.map_congr_left
  intro line hLine
  unfold refit
  split
  · rename_i hSame
    have hWidth : cols' = line.width :=
      hSame.trans
        (hGrid.cols_eq.trans (hLines line hLine).symm)
    unfold Line.resize
    rw [if_pos hWidth]
    rfl
  · rfl

/- The lines that leave at the top go to the history. -/
theorem WellFormed.retained_resize
    (cols' rows' cursorRow : Nat)
    {blank : Cell}
    (hBlank : blank.IsPlain) :
    (grid.resize cols' rows' cursorRow true
        blank).1.scrollback.retained =
      (((grid.lines.map (grid.refit cols' blank)).take
          (min (cursorRow + 1 - rows') grid.rows)).reverse ++
        grid.scrollback.retained.map
          (grid.refit cols' blank)).take capacity := by
  have hFitted := hGrid.resizeCols cols' hBlank
  have hRows :
      (grid.resizeCols cols' blank).rows = grid.rows :=
    hFitted.rows_eq.trans hGrid.rows_eq.symm
  have hLeaving :
      ∀ line ∈
          (grid.resizeCols cols' blank).lines.take
            (min (cursorRow + 1 - rows')
              (grid.resizeCols cols' blank).rows),
        line.WellFormed cols' :=
    fun line hLine =>
      hFitted.lines line (List.mem_of_mem_take hLine)
  have hPushed :=
    (hFitted.history.pushAll hLeaving blank).2.1
  rw [hFitted.capacity_eq, retained_resizeCols] at hPushed
  rw [← hRows, ← lines_resizeCols]
  exact hPushed

/- As many lines leave as the anchor row is too low. -/
theorem WellFormed.shift_resize
    {anchor : Nat}
    (hAnchor : anchor < rows)
    (cols' rows' : Nat)
    (retain : Bool)
    {blank : Cell}
    (hBlank : blank.IsPlain) :
    (grid.resize cols' rows' anchor retain blank).2 =
      anchor + 1 - rows' := by
  have hRows := (hGrid.resizeCols cols' hBlank).rows_eq
  show min _ _ = _
  omega

/- The newest lines of those that there are stay. -/
theorem WellFormed.toList_resize
    {anchor : Nat}
    (hAnchor : anchor < rows)
    (cols' rows' : Nat)
    {blank : Cell}
    (hBlank : blank.IsPlain) :
    (grid.resize cols' rows' anchor true
        blank).1.scrollback.toList =
      ((grid.scrollback.toList ++
          grid.lines.take (anchor + 1 - rows')).map
        (·.resize cols' blank)).rtake capacity := by
  have hShift : min (anchor + 1 - rows') grid.rows =
      anchor + 1 - rows' := by
    have hRows := hGrid.rows_eq
    omega
  have hWidths :
      ∀ line ∈ grid.lines, line.width = cols :=
    fun line hLine => (hGrid.lines line hLine).width_eq
  have hRetained :
      ∀ line ∈ grid.scrollback.retained, line.width = cols :=
    fun line hLine =>
      (hGrid.history.of_mem_retained hLine).width_eq
  rw [Scrollback.toList_eq_reverse_retained,
    Scrollback.toList_eq_reverse_retained,
    hGrid.retained_resize cols' rows' anchor hBlank, hShift,
    hGrid.map_refit cols' blank hWidths,
    hGrid.map_refit cols' blank hRetained,
    List.rtake_eq_reverse_take_reverse]
  simp only [List.map_append, List.map_reverse,
    List.map_take, List.reverse_append, List.reverse_reverse]

/- The anchor row stays on the screen. -/
theorem WellFormed.resized_resize
    {anchor : Nat}
    (hAnchor : anchor < rows)
    (cols' : Nat)
    {rows' : Nat}
    (hRows : 0 < rows')
    (retain : Bool)
    {blank : Cell}
    (hBlank : blank.IsPlain) :
    grid.Resized cols' rows' anchor blank
      (grid.resize cols' rows' anchor retain blank).1 := by
  have hAfter := hGrid.resize cols' rows' anchor retain hBlank
  have hLength : grid.lines.length = rows := hGrid.rows_eq
  have hShift :
      min (anchor + 1 - rows')
          (grid.resizeCols cols' blank).rows =
        anchor + 1 - rows' :=
    hGrid.shift_resize hAnchor cols' rows' retain hBlank
  have hLines :
      (grid.resize cols' rows' anchor retain
          blank).1.lines =
        ((grid.lines.drop (anchor + 1 - rows')).map
            (Line.resize · cols' blank) ++
          List.replicate rows' (Line.ofBlank cols' blank)).take
            rows' := by
    have hWidths :
        ∀ line ∈ grid.lines, line.width = cols :=
      fun line hLine => (hGrid.lines line hLine).width_eq
    unfold Grid.resize Grid.resizeRows
    dsimp only
    rw [hShift, lines_resizeCols,
      hGrid.map_refit cols' blank hWidths,
      (hGrid.resizeCols cols' hBlank).cols_eq,
      List.map_drop, List.take_append, List.take_replicate,
      List.length_take]
    congr 2
    omega
  refine ⟨hAfter.cols_eq, hAfter.rows_eq, hLines, ?_⟩
  rcases hGrid.exists_line?_eq_some hAnchor with
    ⟨line, hLine⟩
  refine ⟨line, hLine, ?_⟩
  have hAbove : anchor - (anchor + 1 - rows') < rows' := by
    omega
  have hBelow :
      anchor + 1 - rows' + (anchor - (anchor + 1 - rows')) =
        anchor := by
    omega
  unfold Grid.line? at hLine ⊢
  rw [hLines, List.getElem?_take_of_lt hAbove,
    List.getElem?_append_left
      (by
        rw [List.length_map, List.length_drop]
        omega),
    List.getElem?_map, List.getElem?_drop, hBelow, hLine]
  rfl

end

end Grid

end VideoTerminal
