import VideoTerminal.Proofs.Grid.Edit
import VideoTerminal.Proofs.Line.Layout

/-
  Blanks that are inserted in a line and deleted again.  The
  cells that they push past the right edge are lost, with the
  whole of a wide character that the edge goes through, and
  come back as blanks.  Everything else is as it was.

  Main declarations:
    * `Line.keepingWrap_keepingWrap`
    * `Line.Restores`
    * `Line.deleteCells_insertBlanks_eq`
    * `Line.Paired.restores_deleteCells`
    * `Grid.restores_insertBlanks_deleteCells`
-/

namespace VideoTerminal

namespace Line

------------------------------------------------------------
-- Changes One After the Other
------------------------------------------------------------

/- Only the soft-wrap mark that is set last counts. -/
theorem setWrapped_setWrapped
    (line : Line)
    (on off : Bool) :
    (line.setWrapped on).setWrapped off =
      line.setWrapped off := by
  unfold setWrapped
  rw [width_modify]
  unfold modify
  rw [List.modify_modify_eq]
  rfl

/- Taking the soft-wrap mark off changes nothing without it. -/
theorem setWrapped_false
    {line : Line}
    (hUnwrapped : ∀ cell ∈ line.cells, cell.wrapped = false) :
    line.setWrapped false = line := by
  apply ext_get?
  intro col
  rw [get?_setWrapped]
  split
  · cases hCell : line.get? col with
    | none => rfl
    | some cell =>
        have hOff :=
          hUnwrapped cell (List.mem_of_getElem? hCell)
        rw [Option.map_some, Cell.setWrapped, ← hOff]
  · rfl

/- Apart from the mark, a change does what it does without. -/
theorem setWrapped_false_keepingWrap
    {line : Line}
    {change : Line → Line}
    (hUnwrapped :
      ∀ cell ∈ (change (line.setWrapped false)).cells,
        cell.wrapped = false) :
    (line.keepingWrap change).setWrapped false =
      change (line.setWrapped false) := by
  unfold keepingWrap
  rw [setWrapped_setWrapped, setWrapped_false hUnwrapped]

/-
  The mark need not be put back between two changes if the
  first of them leaves none itself.
-/
theorem keepingWrap_keepingWrap
    {line : Line}
    {first second : Line → Line}
    (hUnwrapped :
      ∀ cell ∈ (first (line.setWrapped false)).cells,
        cell.wrapped = false)
    (hSome : 0 < (first (line.setWrapped false)).width) :
    (line.keepingWrap first).keepingWrap second =
      line.keepingWrap (second ∘ first) := by
  have hFirst := setWrapped_false_keepingWrap hUnwrapped
  have hSame :
      (line.keepingWrap first).isWrapped = line.isWrapped :=
    isWrapped_setWrapped hSome _
  rw [keepingWrap, hFirst, hSame]
  rfl

/- The mark is no matter in front of the last column. -/
theorem get?_setWrapped_of_inner
    {line : Line}
    {col : Nat}
    (hInner : col + 1 < line.width)
    (on : Bool) :
    (line.setWrapped on).get? col = line.get? col := by
  rw [get?_setWrapped, if_neg (Nat.ne_of_lt hInner)]

------------------------------------------------------------
-- Opening and Closing a Gap
------------------------------------------------------------

section

variable {line : Line} {target n : Nat} {blank : Cell}

/- What insertion does to the cells where no pair is split. -/
def opening
    (target n : Nat)
    (blank : Cell)
    (line : Line) : Line :=
  blankWideAtEnd
    ⟨line.cells.take target ++ List.replicate n blank ++
      (line.cells.drop target).take
        (line.width - target - n)⟩
    blank

/- What deletion does to the cells where no pair is split. -/
def closing
    (target n : Nat)
    (blank : Cell)
    (line : Line) : Line :=
  blankPlaceholderAt
    ⟨line.cells.take target ++
      line.cells.drop (target + n) ++
      List.replicate n blank⟩
    target blank

/- Both of them at the same columns. -/
def reopening
    (target n : Nat)
    (blank : Cell)
    (line : Line) : Line :=
  closing target n blank (opening target n blank line)

theorem splitWideAt_of_not_placeholder
    (hWhole : line.isPlaceholderAt target = false) :
    line.splitWideAt target blank = line := by
  unfold splitWideAt
  rw [if_neg]
  rw [hWhole]
  exact fun hSplit => nomatch hSplit.2

theorem isPlaceholderAt_setWrapped
    (hWhole : line.isPlaceholderAt target = false)
    (on : Bool) :
    (line.setWrapped on).isPlaceholderAt target = false :=
  (markAt_placeholder_setWrapped _ _ _).trans hWhole

theorem insertBlanks_eq
    (hWhole : line.isPlaceholderAt target = false)
    (n : Nat)
    (blank : Cell) :
    line.insertBlanks target n blank =
      line.keepingWrap
        (opening target (min n (line.width - target))
          blank) := by
  unfold insertBlanks keepingWrap
  dsimp only
  rw [splitWideAt_of_not_placeholder
    (isPlaceholderAt_setWrapped hWhole false)]
  unfold opening
  rw [width_setWrapped]

theorem deleteCells_eq
    (hWhole : line.isPlaceholderAt target = false)
    (n : Nat)
    (blank : Cell) :
    line.deleteCells target n blank =
      line.keepingWrap
        (closing target (min n (line.width - target))
          blank) := by
  unfold deleteCells keepingWrap
  dsimp only
  rw [splitWideAt_of_not_placeholder
    (isPlaceholderAt_setWrapped hWhole false)]
  rfl

theorem unwrapped_opening
    (hLine : ∀ cell ∈ line.cells, cell.wrapped = false)
    (hBlank : blank.wrapped = false) :
    ∀ cell ∈ (line.opening target n blank).cells,
      cell.wrapped = false := by
  intro cell hCell
  rcases mem_cells_blankWideAtEnd hCell with hMoved | rfl
  · rcases List.mem_append.mp hMoved with hFront | hBack
    · rcases List.mem_append.mp hFront with hOld | hFill
      · exact hLine cell (List.mem_of_mem_take hOld)
      · rw [List.eq_of_mem_replicate hFill]
        exact hBlank
    · have hOld :=
        List.mem_of_mem_drop (List.mem_of_mem_take hBack)
      exact hLine cell hOld
  · exact hBlank

theorem unwrapped_closing
    (hLine : ∀ cell ∈ line.cells, cell.wrapped = false)
    (hBlank : blank.wrapped = false) :
    ∀ cell ∈ (line.closing target n blank).cells,
      cell.wrapped = false := by
  intro cell hCell
  rcases mem_cells_blankPlaceholderAt hCell with
    hMoved | rfl
  · rcases List.mem_append.mp hMoved with hOld | hFill
    · rcases List.mem_append.mp hOld with hFront | hBack
      · exact hLine cell (List.mem_of_mem_take hFront)
      · exact hLine cell (List.mem_of_mem_drop hBack)
    · rw [List.eq_of_mem_replicate hFill]
      exact hBlank
  · exact hBlank

variable (hRoom : target + n ≤ line.width)

include hRoom

theorem width_opening :
    (line.opening target n blank).width = line.width := by
  unfold opening
  rw [width_blankWideAtEnd, width_opened line hRoom]

theorem width_closing :
    (line.closing target n blank).width = line.width := by
  unfold closing
  rw [width_blankPlaceholderAt, width_closed line hRoom]

theorem width_reopening :
    (line.reopening target n blank).width = line.width := by
  have hOpened :
      (line.opening target n blank).width = line.width :=
    width_opening hRoom
  unfold reopening
  rw [width_closing (hOpened.symm ▸ hRoom), hOpened]

variable (hTarget : target < line.width)

include hTarget

theorem get?_opening
    (col : Nat) :
    (line.opening target n blank).get? col =
      if col < target then
        line.get? col
      else if col < target + n then
        some blank
      else if col + 1 = line.width ∧
          line.isWideAt (col - n) then
        some blank
      else if col < line.width then
        line.get? (col - n)
      else
        none := by
  unfold opening
  rw [get?_blankWideAtEnd, width_opened line hRoom]
  unfold isWideAt
  rw [get?_opened line hRoom]
  grind

variable (hWhole : line.isPlaceholderAt target = false)
  (hBlank : blank.IsPlain)

include hWhole hBlank

/- No second half is moved to where the gap begins. -/
theorem isPlaceholderAt_opening :
    (line.opening target n blank).isPlaceholderAt target =
      false := by
  have hPlain := hBlank.placeholder_eq
  unfold isPlaceholderAt at hWhole ⊢
  rw [get?_opening hRoom hTarget]
  grind

variable (hLine : line.Paired)

include hLine

omit hTarget in
theorem Paired.opening :
    (line.opening target n blank).Paired :=
  (hLine.opened hRoom hWhole hBlank).blankWideAtEnd hBlank

theorem Paired.reopening :
    (line.reopening target n blank).Paired := by
  have hOpened :
      (line.opening target n blank).width = line.width :=
    width_opening hRoom
  apply Paired.closed
  · exact hLine.opening hRoom hWhole hBlank
  · rw [hOpened]
    exact hRoom
  · exact
      isPlaceholderAt_opening hRoom hTarget hWhole hBlank
  · exact hBlank

/-
  Closing the gap brings back what is in front of the edge,
  except a wide character that the edge went through.
-/
theorem get?_reopening
    (col : Nat) :
    (line.reopening target n blank).get? col =
      if col + n < line.width then
        if col + n + 1 = line.width ∧ line.isWideAt col then
          some blank
        else
          line.get? col
      else if col < line.width then
        some blank
      else
        none := by
  have hWide := hLine.wide_eq col
  have hPlain := hBlank.placeholder_eq
  have hOpened :
      (line.opening target n blank).width = line.width :=
    width_opening hRoom
  have hOpenedRoom :
      target + n ≤ (line.opening target n blank).width := by
    rw [hOpened]
    exact hRoom
  unfold Line.reopening Line.closing
  rw [get?_blankPlaceholderAt, get?_closed _ hOpenedRoom]
  unfold isWideAt isPlaceholderAt at *
  rw [get?_closed _ hOpenedRoom]
  simp only [get?_opening hRoom hTarget, hOpened]
  unfold isWideAt
  grind

end

------------------------------------------------------------
-- Lines That Are Restored
------------------------------------------------------------

/-
  A line is restored up to its last `n` cells, which are blank
  apart from the soft-wrap mark.  A wide character that would
  reach into them is blank as well.
-/
structure Restores
    (n : Nat)
    (blank : Cell)
    (line restored : Line) : Prop where
  width_eq : restored.width = line.width
  kept :
    ∀ col,
      col + n < line.width →
        restored.get? col =
          if col + n + 1 = line.width ∧ line.isWideAt col then
            some blank
          else
            line.get? col
  filled :
    ∀ col,
      line.width ≤ col + n →
        col < line.width →
          (restored.setWrapped false).get? col = some blank
  isWrapped_eq : restored.isWrapped = line.isWrapped
  wrapsAtEnd : restored.WrapsAtEnd
  paired : restored.Paired

section

variable {line : Line} {target : Nat} {blank : Cell}
  (hTarget : target < line.width)
  (hWhole : line.isPlaceholderAt target = false)
  (hBlank : blank.IsPlain)

include hTarget hWhole hBlank

theorem Paired.insertBlanks
    (hLine : line.Paired)
    (n : Nat) :
    (line.insertBlanks target n blank).Paired := by
  rw [insertBlanks_eq hWhole]
  apply Paired.setWrapped
  apply (hLine.setWrapped false).opening
  · rw [width_setWrapped]
    omega
  · exact isPlaceholderAt_setWrapped hWhole false
  · exact hBlank

variable (hWraps : line.WrapsAtEnd)

include hWraps

/- The two operations change the cells without the mark. -/
theorem deleteCells_insertBlanks_eq
    (n : Nat) :
    (line.insertBlanks target n blank).deleteCells target n
        blank =
      line.keepingWrap
        (reopening target (min n (line.width - target))
          blank) := by
  have hSame := width_setWrapped line false
  have hRoom :
      target + min n (line.width - target) ≤
        (line.setWrapped false).width := by
    omega
  have hOpened :
      ((line.setWrapped false).opening target
          (min n (line.width - target)) blank).width =
        (line.setWrapped false).width :=
    width_opening hRoom
  have hInserted := insertBlanks_eq hWhole n blank
  have hInsertedWidth :
      (line.insertBlanks target n blank).width =
        line.width := by
    rw [hInserted, keepingWrap, width_setWrapped, hOpened,
      hSame]
  have hInsertedWhole :
      (line.insertBlanks target n blank).isPlaceholderAt
        target = false := by
    rw [hInserted]
    apply isPlaceholderAt_setWrapped
    exact
      isPlaceholderAt_opening hRoom (hSame.symm ▸ hTarget)
        (isPlaceholderAt_setWrapped hWhole false) hBlank
  rw [deleteCells_eq hInsertedWhole, hInsertedWidth,
    hInserted, keepingWrap_keepingWrap]
  · rfl
  · exact unwrapped_opening hWraps.unwrapped hBlank.wrapped_eq
  · omega

theorem Paired.restores_deleteCells
    (hLine : line.Paired)
    {n : Nat}
    (hSome : 0 < n) :
    Restores (min n (line.width - target)) blank line
      ((line.insertBlanks target n blank).deleteCells target
        n blank) := by
  have hSame := width_setWrapped line false
  have hFew : 0 < min n (line.width - target) := by omega
  have hRoom :
      target + min n (line.width - target) ≤
        (line.setWrapped false).width := by
    omega
  rw [deleteCells_insertBlanks_eq hTarget hWhole hBlank
    hWraps]
  generalize min n (line.width - target) = m at hFew hRoom
  have hUnmarked := hLine.setWrapped false
  have hUnmarkedTarget :
      target < (line.setWrapped false).width :=
    hSame.symm ▸ hTarget
  have hUnmarkedWhole :=
    isPlaceholderAt_setWrapped hWhole false
  have hWidth :
      ((line.setWrapped false).reopening target m
        blank).width = line.width :=
    (width_reopening hRoom).trans hSame
  have hCells :=
    get?_reopening hRoom hUnmarkedTarget hUnmarkedWhole hBlank
      hUnmarked
  have hUnwrapped :
      ∀ cell ∈
          ((line.setWrapped false).reopening target m
            blank).cells,
        cell.wrapped = false :=
    unwrapped_closing
      (unwrapped_opening hWraps.unwrapped hBlank.wrapped_eq)
      hBlank.wrapped_eq
  rw [hSame] at hCells
  exact
    { width_eq := (width_setWrapped _ _).trans hWidth
      kept := by
        intro col hCol
        have hInner : col + 1 < line.width := by omega
        have hWide :
            (line.setWrapped false).isWideAt col =
              line.isWideAt col :=
          markAt_wide_setWrapped _ _ _
        unfold keepingWrap
        rw [get?_setWrapped_of_inner (hWidth.symm ▸ hInner),
          hCells, if_pos hCol, hWide,
          get?_setWrapped_of_inner hInner]
      filled := by
        intro col hCol hInside
        rw [setWrapped_false_keepingWrap hUnwrapped, hCells,
          if_neg (by omega), if_pos hInside]
      isWrapped_eq := isWrapped_setWrapped (by omega) _
      wrapsAtEnd := wrapsAtEnd_keepingWrap hUnwrapped
      paired :=
        (hUnmarked.reopening hRoom hUnmarkedTarget
          hUnmarkedWhole hBlank).setWrapped _ }

end

end Line

namespace Grid

------------------------------------------------------------
-- Rows That Are Restored
------------------------------------------------------------

/-
  Blanks inserted in a row in front of a character leave its
  wide characters whole, and deleting as many cells restores
  the row but for what the right edge has cut off.
-/
theorem restores_insertBlanks_deleteCells
    {grid : Grid}
    {row col : Nat}
    {line : Line}
    (hRow : grid.line? row = some line)
    (hWidth : line.width = grid.cols)
    (hPaired : line.Paired)
    (hWraps : line.WrapsAtEnd)
    (hCol : col < grid.cols)
    (hWhole : line.isPlaceholderAt col = false)
    {n : Nat}
    (hSome : 0 < n)
    {blank : Cell}
    (hBlank : blank.IsPlain) :
    let opened := grid.insertBlanks col row n blank
    let closed := opened.deleteCells col row n blank
    ∃ inserted restored,
      opened.line? row = some inserted ∧
        closed.line? row = some restored ∧
        inserted.Paired ∧
        line.Restores (min n (grid.cols - col)) blank
          restored := by
  intro opened closed
  have hInside : row < grid.rows :=
    (List.getElem?_eq_some_iff.mp hRow).1
  have hOpened := edits_insertBlanks hCol hInside n blank
  have hClosed :=
    edits_deleteCells (hOpened.cols_eq.symm ▸ hCol)
      (hOpened.rows_eq.symm ▸ hInside) n blank
  have hTarget : col < line.width := hWidth.symm ▸ hCol
  refine
    ⟨line.insertBlanks col n blank,
      (line.insertBlanks col n blank).deleteCells col n blank,
      ?_, ?_, ?_, ?_⟩
  · rw [hOpened.line?_eq, hRow, onRow_self]
    rfl
  · rw [hClosed.line?_eq, hOpened.line?_eq, hRow, onRow_self,
      onRow_self]
    rfl
  · exact
      hPaired.insertBlanks hTarget hWhole hBlank n
  · rw [← hWidth]
    exact
      hPaired.restores_deleteCells hTarget hWhole hBlank
        hWraps hSome

/-
  Two wide characters behind a narrow one, in a row that goes
  on in the next one.
-/
def twoWide : Line :=
  let placeholder := { Cell.default with placeholder := true }
  let first := { Cell.default with char := '世', wide := true }
  let second := { Cell.default with char := '界', wide := true }
  let text :=
    ((Line.ofBlank 5 .default).overwriteWide 1 first
      placeholder).overwriteWide 3 second placeholder
  text.setWrapped true

theorem wellFormed_twoWide :
    twoWide.WellFormed 5 := by
  apply Line.WellFormed.setWrapped
  apply Line.WellFormed.overwriteWide
  apply Line.WellFormed.overwriteWide
  apply Line.wellFormed_ofBlank
  · exact Cell.isPlain_blank _ _
  all_goals decide

def twoWideRow : Grid :=
  { Grid.ofBlank 5 1 0 .default with lines := [twoWide] }

/- The edge cuts off the last cell and what it was half of. -/
theorem restores_twoWide :
    let opened := twoWideRow.insertBlanks 0 0 1 .default
    let closed := opened.deleteCells 0 0 1 .default
    ∃ inserted restored,
      opened.line? 0 = some inserted ∧
        closed.line? 0 = some restored ∧
        inserted.Paired ∧
        twoWide.Restores 1 .default restored :=
  restores_insertBlanks_deleteCells
    (show twoWideRow.line? 0 = some twoWide from rfl)
    wellFormed_twoWide.width_eq wellFormed_twoWide.paired
    wellFormed_twoWide.wrapsAtEnd (by decide) rfl
    (by decide) (Cell.isPlain_blank _ _)

end Grid

end VideoTerminal
