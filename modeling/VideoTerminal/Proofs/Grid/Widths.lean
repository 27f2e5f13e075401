import VideoTerminal.Proofs.Grid.InsertDelete
import VideoTerminal.Proofs.Grid.Resize

/-
  Changes of width one after the other.  A width in between
  leaves no trace unless it is less than both the width before
  and the width after.  If it is, then what it has cut off
  comes back blank, and the rest of the line is as it was.

  Main declarations:
    * `Line.fitting`
    * `Line.Paired.resize_eq`
    * `Line.Paired.resize_resize`
    * `Line.ComposesWidths`
    * `Line.composesWidths_of_paired`
    * `Grid.WellFormed.resizeCols_resizeCols`
-/

namespace VideoTerminal

namespace Line

------------------------------------------------------------
-- The Same Width
------------------------------------------------------------

theorem setWrapped_isWrapped
    (line : Line) :
    line.setWrapped line.isWrapped = line := by
  apply ext_get?
  intro col
  rw [get?_setWrapped]
  split
  · rename_i hLast
    cases hCell : line.get? col with
    | none => rfl
    | some cell =>
        have hMark : line.isWrapped = cell.wrapped := by
          rw [isWrapped_eq_markAt, ← hLast,
            Nat.add_sub_cancel,
            markAt_of_get?_eq_some hCell]
        rw [Option.map_some, hMark]
        rfl
  · rfl

theorem resize_of_width_eq
    {line : Line}
    {cols : Nat}
    (hSame : line.width = cols)
    (blank : Cell) :
    line.resize cols blank = line :=
  if_pos hSame.symm

------------------------------------------------------------
-- Cells in Another Width
------------------------------------------------------------

/- What a change of width does to the cells. -/
def fitting
    (cols : Nat)
    (blank : Cell)
    (line : Line) : Line :=
  blankWideAtEnd
    ⟨line.cells.take cols ++
      List.replicate (cols - line.width) blank⟩
    blank

theorem width_fitting
    (cols : Nat)
    (blank : Cell)
    (line : Line) :
    (line.fitting cols blank).width = cols := by
  unfold fitting
  rw [width_blankWideAtEnd, width_cutOrExtended]

theorem unwrapped_fitting
    {line : Line}
    {blank : Cell}
    (hLine : ∀ cell ∈ line.cells, cell.wrapped = false)
    (hBlank : blank.wrapped = false)
    (cols : Nat) :
    ∀ cell ∈ (line.fitting cols blank).cells,
      cell.wrapped = false := by
  intro cell hCell
  rcases mem_cells_cutOrExtended hCell with hOld | rfl
  · exact hLine cell hOld
  · exact hBlank

section

variable {line : Line} {blank : Cell}
  (hBlank : blank.IsPlain)

include hBlank

theorem get?_fitting
    (cols col : Nat) :
    (line.fitting cols blank).get? col =
      if cols ≤ col then
        none
      else if col + 1 = cols ∧ line.isWideAt col then
        some blank
      else if col < line.width then
        line.get? col
      else
        some blank := by
  have hPlain := hBlank.wide_eq
  have hBeyond :
      line.width ≤ col → line.get? col = none :=
    get?_eq_none_of_width_le
  unfold fitting
  rw [get?_blankWideAtEnd, width_cutOrExtended]
  unfold isWideAt
  rw [get?_cutOrExtended]
  grind

variable (hLine : line.Paired)

include hLine

theorem Paired.fitting
    (cols : Nat) :
    (line.fitting cols blank).Paired :=
  (hLine.cutOrExtended cols hBlank).blankWideAtEnd hBlank

/-
  The last cell of the width in between is cut off again or
  was there before, unless both the others are larger.
-/
theorem Paired.fitting_fitting
    {between last : Nat}
    (hEnough : min line.width last ≤ between) :
    (line.fitting between blank).fitting last blank =
      line.fitting last blank := by
  have hPlain := hBlank.wide_eq
  apply ext_get?
  intro col
  have hEnd :
      line.width ≤ col + 1 → line.isWideAt col = false :=
    hLine.not_isWideAt_last
  simp only [isWideAt] at hEnd
  simp only [get?_fitting hBlank, width_fitting, isWideAt]
  grind

theorem Paired.fitting_width :
    line.fitting line.width blank = line := by
  apply ext_get?
  intro col
  have hEnd :
      line.width ≤ col + 1 → line.isWideAt col = false :=
    hLine.not_isWideAt_last
  have hBeyond :
      line.width ≤ col → line.get? col = none :=
    get?_eq_none_of_width_le
  rw [get?_fitting hBlank]
  grind

/- The width that a line already has is no exception. -/
theorem Paired.resize_eq
    (cols : Nat) :
    line.resize cols blank =
      line.keepingWrap (Line.fitting cols blank) := by
  unfold resize
  split
  · rename_i hSame
    have hUnmarked :=
      (hLine.setWrapped false).fitting_width hBlank
    rw [width_setWrapped] at hUnmarked
    rw [hSame, keepingWrap, hUnmarked, setWrapped_setWrapped,
      setWrapped_isWrapped]
  · rfl

theorem Paired.resize
    (cols : Nat) :
    (line.resize cols blank).Paired := by
  rw [hLine.resize_eq hBlank]
  apply Paired.setWrapped
  exact (hLine.setWrapped false).fitting hBlank cols

variable (hWraps : line.WrapsAtEnd)

include hWraps

theorem Paired.wrapsAtEnd_resize
    (cols : Nat) :
    (line.resize cols blank).WrapsAtEnd := by
  rw [hLine.resize_eq hBlank]
  exact
    wrapsAtEnd_keepingWrap
      (unwrapped_fitting hWraps.unwrapped hBlank.wrapped_eq
        cols)

/- The mark is taken along from one width to the next. -/
theorem Paired.resize_resize_eq
    {between : Nat}
    (hSome : 0 < between)
    (last : Nat) :
    (line.resize between blank).resize last blank =
      line.keepingWrap
        (Line.fitting last blank ∘
          Line.fitting between blank) := by
  have hBetween := hLine.resize hBlank between
  rw [hBetween.resize_eq hBlank, hLine.resize_eq hBlank,
    keepingWrap_keepingWrap]
  · exact
      unwrapped_fitting hWraps.unwrapped hBlank.wrapped_eq
        between
  · rw [width_fitting]
    exact hSome

/-
  It makes no difference whether a width is taken on directly
  or by way of another that has room for what is left.
-/
theorem Paired.resize_resize
    {between last : Nat}
    (hEnough : min line.width last ≤ between) :
    (line.resize between blank).resize last blank =
      line.resize last blank := by
  rcases Nat.eq_zero_or_pos between with rfl | hSome
  · -- Nothing is left, or nothing was there before.
    rcases Nat.min_eq_zero_iff.mp (Nat.le_zero.mp hEnough) with
      hNone | rfl
    · rw [resize_of_width_eq hNone]
    · rw [resize_of_width_eq (width_resize _ _ _)]
  · rw [hLine.resize_resize_eq hBlank hWraps hSome,
      hLine.resize_eq hBlank]
    unfold keepingWrap
    rw [Function.comp_apply,
      (hLine.setWrapped false).fitting_fitting hBlank]
    rw [width_setWrapped]
    exact hEnough

------------------------------------------------------------
-- There and Back
------------------------------------------------------------

omit hLine hWraps in
/- What has been cut off comes back blank. -/
theorem get?_fitting_fitting_width
    {cols : Nat}
    (hCut : cols < line.width)
    (col : Nat) :
    ((line.fitting cols blank).fitting line.width
        blank).get? col =
      if line.width ≤ col then
        none
      else if cols ≤ col then
        some blank
      else if col + 1 = cols ∧ line.isWideAt col then
        some blank
      else
        line.get? col := by
  have hPlain := hBlank.wide_eq
  simp only [get?_fitting hBlank, width_fitting, isWideAt]
  grind

/-
  A line that is cut and extended again keeps the columns that
  were left of it, and the mark.
-/
theorem Paired.restores_resize
    {cols : Nat}
    (hSome : 0 < cols)
    (hCut : cols < line.width) :
    Restores (line.width - cols) blank line
      ((line.resize cols blank).resize line.width blank) := by
  have hWidth := width_setWrapped line false
  have hUnmarkedCut :
      cols < (line.setWrapped false).width :=
    hWidth.symm ▸ hCut
  have hCells := get?_fitting_fitting_width hBlank hUnmarkedCut
  have hUnwrapped :=
    unwrapped_fitting
      (unwrapped_fitting hWraps.unwrapped hBlank.wrapped_eq
        cols)
      hBlank.wrapped_eq line.width
  have hMarked :=
    hLine.resize_resize_eq hBlank hWraps hSome line.width
  rw [hWidth] at hCells
  exact
    { width_eq := width_resize _ _ _
      kept := by
        intro col hCol
        have hInner : col + 1 < line.width := by omega
        have hLeft : col < cols := by omega
        have hEnd :
            col + (line.width - cols) + 1 = line.width ↔
              col + 1 = cols := by
          omega
        have hWide :
            (line.setWrapped false).isWideAt col =
              line.isWideAt col :=
          markAt_wide_setWrapped _ _ _
        rw [hMarked, keepingWrap,
          get?_setWrapped_of_inner
            ((width_fitting _ _ _).symm ▸ hInner),
          Function.comp_apply, hCells, if_neg (by omega),
          if_neg (by omega), hWide,
          get?_setWrapped_of_inner hInner]
        simp only [hEnd]
      filled := by
        intro col hCol hInside
        rw [hMarked, setWrapped_false_keepingWrap hUnwrapped,
          Function.comp_apply, hCells, if_neg (by omega),
          if_pos (by omega)]
      isWrapped_eq := by
        rw [hMarked]
        apply isWrapped_setWrapped
        rw [Function.comp_apply, width_fitting]
        omega
      wrapsAtEnd := by
        rw [hMarked]
        exact wrapsAtEnd_keepingWrap hUnwrapped
      paired :=
        (hLine.resize hBlank cols).resize hBlank line.width }

end

------------------------------------------------------------
-- Lines That Compose Widths
------------------------------------------------------------

/-
  Widths that are taken on one after the other, all smaller or
  all larger, come to the last of them.  On the way back from
  a smaller one, what was left is there again.
-/
structure ComposesWidths
    (blank : Cell)
    (line : Line) : Prop where
  narrowing :
    ∀ between last,
      last ≤ between →
        between ≤ line.width →
          (line.resize between blank).resize last blank =
            line.resize last blank
  widening :
    ∀ between last,
      line.width ≤ between →
        between ≤ last →
          (line.resize between blank).resize last blank =
            line.resize last blank
  back :
    ∀ cols,
      0 < cols →
        cols < line.width →
          Restores (line.width - cols) blank line
            ((line.resize cols blank).resize line.width
              blank)
  paired : ∀ cols, (line.resize cols blank).Paired
  wrapsAtEnd : ∀ cols, (line.resize cols blank).WrapsAtEnd

theorem composesWidths_of_paired
    {line : Line}
    (hLine : line.Paired)
    (hWraps : line.WrapsAtEnd)
    {blank : Cell}
    (hBlank : blank.IsPlain) :
    line.ComposesWidths blank where
  narrowing := fun _ _ hLast _ =>
    hLine.resize_resize hBlank hWraps
      (Nat.le_trans (Nat.min_le_right _ _) hLast)
  widening := fun _ _ hBetween _ =>
    hLine.resize_resize hBlank hWraps
      (Nat.le_trans (Nat.min_le_left _ _) hBetween)
  back := fun _ hSome hCut =>
    hLine.restores_resize hBlank hWraps hSome hCut
  paired := hLine.resize hBlank
  wrapsAtEnd := hLine.wrapsAtEnd_resize hBlank hWraps

/- The cut goes through the first of two wide characters. -/
theorem composesWidths_twoWide :
    ((Grid.twoWide.resize 4 .default).resize 2 .default =
        Grid.twoWide.resize 2 .default ∧
      Restores 3 .default Grid.twoWide
        ((Grid.twoWide.resize 2 .default).resize 5 .default)) ∧
      Grid.twoWide.ComposesWidths .default := by
  have hWidths : Grid.twoWide.ComposesWidths .default :=
    composesWidths_of_paired Grid.wellFormed_twoWide.paired
      Grid.wellFormed_twoWide.wrapsAtEnd
      (Cell.isPlain_blank _ _)
  exact
    ⟨⟨hWidths.narrowing 4 2 (by decide) (by decide),
      hWidths.back 2 (by decide) (by decide)⟩, hWidths⟩

/-
  A width in between that is less than both the others does
  leave a trace.
-/
example :
    (Grid.twoWide.resize 2 .default).resize 4 .default ≠
      Grid.twoWide.resize 4 .default := by
  decide

end Line

------------------------------------------------------------
-- Screens and Their History
------------------------------------------------------------

section

variable {cols between last : Nat} {blank : Cell}
  (hBlank : blank.IsPlain)
  (hEnough : min cols last ≤ between)

include hBlank hEnough

theorem Line.WellFormed.resize_resize
    {line : Line}
    (hLine : line.WellFormed cols) :
    (line.resize between blank).resize last blank =
      line.resize last blank :=
  hLine.paired.resize_resize hBlank hLine.wrapsAtEnd
    (hLine.width_eq.symm ▸ hEnough)

theorem Scrollback.WellFormed.resizeCols_resizeCols
    {ring : Scrollback}
    (hRing : ring.WellFormed cols) :
    (ring.resizeCols between blank).resizeCols last blank =
      ring.resizeCols last blank := by
  unfold Scrollback.resizeCols
  dsimp only
  rw [Array.map_map]
  congr 1
  apply Array.map_congr_left
  intro line hLine
  exact (hRing.lines line hLine).resize_resize hBlank hEnough

end

namespace Grid

section

variable {cols rows capacity : Nat} {grid : Grid}
  (hGrid : grid.WellFormed cols rows capacity)

include hGrid

/- The width that a screen already has is no exception. -/
theorem WellFormed.resizeCols_eq
    (cols' : Nat)
    (blank : Cell) :
    grid.resizeCols cols' blank =
      { grid with
        cols := cols'
        lines := grid.lines.map (·.resize cols' blank)
        scrollback :=
          grid.scrollback.resizeCols cols' blank } := by
  unfold Grid.resizeCols
  split
  · rename_i hSame
    have hKept :
        ∀ line : Line,
          line.WellFormed cols →
            line.resize cols' blank = line := by
      intro line hLine
      apply Line.resize_of_width_eq
      rw [hLine.width_eq, hSame, hGrid.cols_eq]
    have hLines :
        grid.lines.map (·.resize cols' blank) =
          grid.lines :=
      (List.map_congr_left fun line hLine =>
        hKept line (hGrid.lines line hLine)).trans
          (List.map_id' _)
    have hSlots :
        grid.scrollback.slots.map (·.resize cols' blank) =
          grid.scrollback.slots :=
      (Array.map_congr_left fun line hLine =>
        hKept line (hGrid.history.lines line hLine)).trans
          (Array.map_id' _)
    rw [Scrollback.resizeCols, hLines, hSlots, hSame]
  · rfl

theorem WellFormed.resizeCols_resizeCols
    {blank : Cell}
    (hBlank : blank.IsPlain)
    {between last : Nat}
    (hEnough : min cols last ≤ between) :
    (grid.resizeCols between blank).resizeCols last blank =
      grid.resizeCols last blank := by
  have hBetween := hGrid.resizeCols between hBlank
  rw [hBetween.resizeCols_eq, hGrid.resizeCols_eq,
    hGrid.resizeCols_eq]
  dsimp only
  rw [hGrid.history.resizeCols_resizeCols hBlank hEnough,
    List.map_map]
  congr 1
  apply List.map_congr_left
  intro line hLine
  exact
    (hGrid.lines line hLine).resize_resize hBlank hEnough

end

end Grid

end VideoTerminal
