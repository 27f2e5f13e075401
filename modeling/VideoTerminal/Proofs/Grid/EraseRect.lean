import VideoTerminal.Proofs.Grid.Dirty
import VideoTerminal.Proofs.Grid.InsertDelete

/-
  Rectangles that are erased.  The corners may come in any
  order and may lie beyond the screen.  The cells between them
  become blank, and so does the other half of a wide character
  that an edge of the rectangle goes through.  Nothing else
  changes.

  Main declarations:
    * `Grid.InRect`
    * `Grid.CutAtLeft`
    * `Grid.CutAtRight`
    * `Grid.ErasesRect`
    * `Grid.get?_eraseRect`
    * `Grid.erasesRect_eraseRect`
-/

namespace VideoTerminal

namespace Grid

------------------------------------------------------------
-- Rectangles
------------------------------------------------------------

/- A number lies between two others in either order. -/
def Between
    (a b n : Nat) : Prop :=
  min a b ≤ n ∧ n ≤ max a b

instance
    (a b n : Nat) :
    Decidable (Between a b n) :=
  inferInstanceAs (Decidable (_ ∧ _))

/- A position lies between two opposite corners. -/
def InRect
    (x₁ y₁ x₂ y₂ col row : Nat) : Prop :=
  Between x₁ x₂ col ∧ Between y₁ y₂ row

instance
    (x₁ y₁ x₂ y₂ col row : Nat) :
    Decidable (InRect x₁ y₁ x₂ y₂ col row) :=
  inferInstanceAs (Decidable (_ ∧ _))

/- The cell at a position exists and carries a mark. -/
def markAt
    (grid : Grid)
    (mark : Cell → Bool)
    (col row : Nat) : Bool :=
  (grid.get? col row).any mark

/-
  A first half just left of a rectangle, which its second half
  is in.
-/
def CutAtLeft
    (grid : Grid)
    (x₁ y₁ x₂ y₂ col row : Nat) : Prop :=
  col + 1 = min x₁ x₂ ∧ Between y₁ y₂ row ∧
    grid.markAt Cell.wide col row

instance
    (grid : Grid)
    (x₁ y₁ x₂ y₂ col row : Nat) :
    Decidable (grid.CutAtLeft x₁ y₁ x₂ y₂ col row) :=
  inferInstanceAs (Decidable (_ ∧ _))

/-
  A second half just right of a rectangle, which its first
  half is in.
-/
def CutAtRight
    (grid : Grid)
    (x₁ y₁ x₂ y₂ col row : Nat) : Prop :=
  col = max x₁ x₂ + 1 ∧ Between y₁ y₂ row ∧
    grid.markAt Cell.placeholder col row

instance
    (grid : Grid)
    (x₁ y₁ x₂ y₂ col row : Nat) :
    Decidable (grid.CutAtRight x₁ y₁ x₂ y₂ col row) :=
  inferInstanceAs (Decidable (_ ∧ _))

/-
  One screen comes from another by erasing what lies between
  two opposite corners, and the halves of wide characters that
  would be left alone on either side.
-/
structure ErasesRect
    (x₁ y₁ x₂ y₂ : Nat)
    (blank : Cell)
    (grid erased : Grid) : Prop where
  cols_eq : erased.cols = grid.cols
  rows_eq : erased.rows = grid.rows
  scrollback_eq : erased.scrollback = grid.scrollback
  view_eq : erased.viewOffset = grid.viewOffset
  filled :
    ∀ col row,
      InRect x₁ y₁ x₂ y₂ col row →
        col < grid.cols →
          row < grid.rows →
            erased.get? col row = some blank
  lead :
    ∀ col row,
      grid.CutAtLeft x₁ y₁ x₂ y₂ col row →
        erased.get? col row = some blank
  second :
    ∀ col row,
      grid.CutAtRight x₁ y₁ x₂ y₂ col row →
        erased.get? col row = some blank
  kept :
    ∀ col row,
      ¬InRect x₁ y₁ x₂ y₂ col row →
        ¬grid.CutAtLeft x₁ y₁ x₂ y₂ col row →
          ¬grid.CutAtRight x₁ y₁ x₂ y₂ col row →
            erased.get? col row = grid.get? col row
  marked :
    ∀ y,
      erased.isDirty y →
        grid.isDirty y ∨
          ∃ row,
            y = row + grid.viewOffset ∧
              row < grid.rows ∧ Between y₁ y₂ row
  rectangular : erased.Rectangular
  paired : ∀ line ∈ erased.lines, line.Paired
  outside :
    grid.cols ≤ min x₁ x₂ ∨ grid.rows ≤ min y₁ y₂ →
      erased = grid

------------------------------------------------------------
-- Lines of a Rectangle
------------------------------------------------------------

section

variable {line : Line} {x₁ x₂ : Nat} {blank : Cell}

theorem width_eraseColumns
    (cols x₁ x₂ : Nat)
    (blank : Cell)
    (line : Line) :
    (eraseColumns cols x₁ x₂ blank line).width =
      line.width := by
  unfold eraseColumns
  split
  · exact Line.width_eraseSpan _ _ _ _
  · rfl

variable (hLine : line.Paired)

include hLine

/-
  The clamp at the right edge is of no consequence, because
  there are no cells behind it.
-/
theorem get?_eraseColumns
    (x₁ x₂ : Nat)
    (blank : Cell)
    (col : Nat) :
    (eraseColumns line.width x₁ x₂ blank line).get? col =
      if Between x₁ x₂ col ∨
          (col + 1 = min x₁ x₂ ∧ line.isWideAt col) ∨
          (col = max x₁ x₂ + 1 ∧
            line.isPlaceholderAt col) then
        (line.get? col).map fun _ => blank
      else
        line.get? col := by
  rcases Nat.lt_or_ge col line.width with hInside | hBeyond
  · obtain ⟨cell, hCell⟩ := Line.exists_get?_eq_some hInside
    have hWide := hLine.wide_eq col
    have hNext :
        line.width ≤ col + 1 →
          line.isPlaceholderAt (col + 1) = false :=
      fun hEnd => Line.markAt_eq_false_of_width_le hEnd _
    unfold eraseColumns Between
    split
    · rw [Line.get?_eraseSpan line (by omega), hCell]
      grind
    · grind
  · rw [Line.get?_eq_none_of_width_le hBeyond,
      Line.get?_eq_none_of_width_le]
    · simp
    · rw [width_eraseColumns]
      exact hBeyond

theorem paired_eraseColumns
    (cols x₁ x₂ : Nat)
    (hBlank : blank.IsPlain) :
    (eraseColumns cols x₁ x₂ blank line).Paired := by
  unfold eraseColumns
  split
  · exact hLine.eraseSpan (by omega) hBlank
  · exact hLine

end

------------------------------------------------------------
-- Cells of a Rectangle
------------------------------------------------------------

section

variable {grid : Grid} {row : Nat} {line : Line}

theorem get?_of_line?_eq_some
    (hRow : grid.line? row = some line)
    (col : Nat) :
    grid.get? col row = line.get? col := by
  unfold get?
  rw [hRow]
  rfl

theorem get?_of_line?_eq_none
    (hRow : grid.line? row = none)
    (col : Nat) :
    grid.get? col row = none := by
  unfold get?
  rw [hRow]
  rfl

theorem markAt_of_line?_eq_some
    (hRow : grid.line? row = some line)
    (mark : Cell → Bool)
    (col : Nat) :
    grid.markAt mark col row = line.markAt mark col := by
  unfold markAt Line.markAt
  rw [get?_of_line?_eq_some hRow]

theorem exists_get?_of_markAt
    {mark : Cell → Bool}
    {col : Nat}
    (hMark : grid.markAt mark col row) :
    ∃ cell, grid.get? col row = some cell := by
  rcases (Option.any_eq_true _ _).mp hMark with ⟨cell, hCell, _⟩
  exact ⟨cell, hCell⟩

theorem inRows_of_between
    {y₁ y₂ y : Nat}
    (hInside : Between y₁ y₂ y)
    (change : Line → Line) :
    inRows (min y₁ y₂) (max y₁ y₂) change y = change := by
  funext line
  exact if_pos hInside

theorem inRows_of_not_between
    {y₁ y₂ y : Nat}
    (hOutside : ¬Between y₁ y₂ y)
    (change : Line → Line) :
    inRows (min y₁ y₂) (max y₁ y₂) change y = id := by
  funext line
  exact if_neg hOutside

variable (hGrid : grid.Rectangular)

include hGrid

theorem Rectangular.width_eq
    (hRow : grid.line? row = some line) :
    line.width = grid.cols :=
  hGrid line (List.mem_of_getElem? hRow)

theorem Rectangular.exists_get?
    {col : Nat}
    (hCol : col < grid.cols)
    (hRow : row < grid.rows) :
    ∃ cell, grid.get? col row = some cell := by
  have hLine : grid.line? row = some grid.lines[row] :=
    List.getElem?_eq_getElem hRow
  rw [get?_of_line?_eq_some hLine]
  apply Line.exists_get?_eq_some
  rw [hGrid.width_eq hLine]
  exact hCol

variable (hPaired : ∀ line ∈ grid.lines, line.Paired)

include hPaired

/- Which cells are erased, and that all others are kept. -/
theorem get?_eraseRect
    (x₁ y₁ x₂ y₂ : Nat)
    (blank : Cell)
    (col row : Nat) :
    (grid.eraseRect x₁ y₁ x₂ y₂ blank).get? col row =
      if InRect x₁ y₁ x₂ y₂ col row ∨
          grid.CutAtLeft x₁ y₁ x₂ y₂ col row ∨
          grid.CutAtRight x₁ y₁ x₂ y₂ col row then
        (grid.get? col row).map fun _ => blank
      else
        grid.get? col row := by
  have hErased :=
    (edits_eraseRect grid x₁ y₁ x₂ y₂ blank).line?_eq row
  cases hRow : grid.line? row with
  | none =>
      rw [hRow] at hErased
      rw [get?_of_line?_eq_none hErased,
        get?_of_line?_eq_none hRow]
      simp
  | some line =>
      have hLine : line.Paired :=
        hPaired line (List.mem_of_getElem? hRow)
      rw [hRow, ← hGrid.width_eq hRow] at hErased
      rw [get?_of_line?_eq_some hErased,
        get?_of_line?_eq_some hRow]
      simp only [InRect, CutAtLeft, CutAtRight,
        markAt_of_line?_eq_some hRow]
      by_cases hInside : Between y₁ y₂ row
      · rw [inRows_of_between hInside,
          get?_eraseColumns hLine]
        simp only [hInside, and_true, true_and]
        rfl
      · rw [inRows_of_not_between hInside]
        simp only [hInside, and_false, false_and, or_self,
          if_false]
        rfl

/- Erased rows keep their width and their pairs. -/
theorem paired_eraseRect
    (x₁ y₁ x₂ y₂ : Nat)
    {blank : Cell}
    (hBlank : blank.IsPlain) :
    ∀ line ∈ (grid.eraseRect x₁ y₁ x₂ y₂ blank).lines,
      line.width = grid.cols ∧ line.Paired := by
  intro line hMem
  rw [(edits_eraseRect grid x₁ y₁ x₂ y₂ blank).lines_eq]
    at hMem
  rcases List.mem_mapIdx.mp hMem with ⟨y, hY, hEq⟩
  have hOld := hPaired _ (List.getElem_mem hY)
  have hWidth := hGrid _ (List.getElem_mem hY)
  rw [← hEq]
  unfold inRows
  split
  · exact
      ⟨(width_eraseColumns _ _ _ _ _).trans hWidth,
        paired_eraseColumns hOld _ _ _ hBlank⟩
  · exact ⟨hWidth, hOld⟩

end

------------------------------------------------------------
-- Rectangles That Are Erased
------------------------------------------------------------

section

variable (grid : Grid) (x₁ y₁ x₂ y₂ : Nat) (blank : Cell)

theorem eraseRect_of_outside
    (hOutside :
      grid.cols ≤ min x₁ x₂ ∨ grid.rows ≤ min y₁ y₂) :
    grid.eraseRect x₁ y₁ x₂ y₂ blank = grid := by
  unfold eraseRect
  dsimp only
  rw [if_pos]
  omega

/- No row beside the rectangle is recorded as changed. -/
theorem isDirty_of_isDirty_eraseRect
    {y : Nat}
    (hDirty : (grid.eraseRect x₁ y₁ x₂ y₂ blank).isDirty y) :
    grid.isDirty y ∨
      ∃ row,
        y = row + grid.viewOffset ∧
          row < grid.rows ∧ Between y₁ y₂ row := by
  unfold eraseRect at hDirty
  dsimp only at hDirty
  split at hDirty
  · exact Or.inl hDirty
  · rcases (isDirty_markDirtyRange grid y _ _).mp hDirty with
      hOld | ⟨_, hFirst, hLast⟩
    · exact Or.inl hOld
    · refine Or.inr ⟨y - grid.viewOffset, ?_⟩
      unfold Between
      omega

end

/-
  Whatever the corners are, erasing between them touches
  nothing but what lies between them and the characters that
  reach into it.
-/
theorem erasesRect_eraseRect
    {grid : Grid}
    (hGrid : grid.Rectangular)
    (hPaired : ∀ line ∈ grid.lines, line.Paired)
    (x₁ y₁ x₂ y₂ : Nat)
    {blank : Cell}
    (hBlank : blank.IsPlain) :
    grid.ErasesRect x₁ y₁ x₂ y₂ blank
      (grid.eraseRect x₁ y₁ x₂ y₂ blank) := by
  have hEdits := edits_eraseRect grid x₁ y₁ x₂ y₂ blank
  have hCells :=
    get?_eraseRect hGrid hPaired x₁ y₁ x₂ y₂ blank
  have hRows :=
    paired_eraseRect hGrid hPaired x₁ y₁ x₂ y₂ hBlank
  have hErased :
      ∀ {col row : Nat} {cell : Cell},
        grid.get? col row = some cell →
          InRect x₁ y₁ x₂ y₂ col row ∨
              grid.CutAtLeft x₁ y₁ x₂ y₂ col row ∨
              grid.CutAtRight x₁ y₁ x₂ y₂ col row →
            (grid.eraseRect x₁ y₁ x₂ y₂ blank).get? col row =
              some blank := by
    intro col row cell hCell hReached
    rw [hCells, if_pos hReached, hCell]
    rfl
  exact
    { cols_eq := hEdits.cols_eq
      rows_eq := hEdits.rows_eq
      scrollback_eq := hEdits.scrollback_eq
      view_eq := hEdits.view_eq
      filled := by
        intro col row hInside hCol hRow
        rcases hGrid.exists_get? hCol hRow with
          ⟨cell, hCell⟩
        exact hErased hCell (Or.inl hInside)
      lead := by
        intro col row hCut
        rcases exists_get?_of_markAt hCut.2.2 with
          ⟨cell, hCell⟩
        exact hErased hCell (Or.inr (Or.inl hCut))
      second := by
        intro col row hCut
        rcases exists_get?_of_markAt hCut.2.2 with
          ⟨cell, hCell⟩
        exact hErased hCell (Or.inr (Or.inr hCut))
      kept := by
        intro col row hOutside hLeft hRight
        rw [hCells, if_neg]
        rintro (hInside | hCut | hCut)
        · exact hOutside hInside
        · exact hLeft hCut
        · exact hRight hCut
      marked := fun _ hDirty =>
        isDirty_of_isDirty_eraseRect grid x₁ y₁ x₂ y₂ blank
          hDirty
      rectangular := by
        intro line hLine
        rw [hEdits.cols_eq]
        exact (hRows line hLine).1
      paired := fun line hLine => (hRows line hLine).2
      outside := eraseRect_of_outside grid x₁ y₁ x₂ y₂ blank }

/-
  Both edges go through a wide character, the corners come in
  reverse, and one of them lies below the screen.
-/
theorem erasesRect_twoWideRow :
    twoWideRow.ErasesRect 3 7 2 0 .default
      (twoWideRow.eraseRect 3 7 2 0 .default) := by
  have hOnly :
      ∀ line ∈ twoWideRow.lines, line = twoWide :=
    fun _ hLine => List.mem_singleton.mp hLine
  apply erasesRect_eraseRect
  · intro line hLine
    rw [hOnly line hLine]
    exact wellFormed_twoWide.width_eq
  · intro line hLine
    rw [hOnly line hLine]
    exact wellFormed_twoWide.paired
  · exact Cell.isPlain_blank _ _

end Grid

end VideoTerminal
