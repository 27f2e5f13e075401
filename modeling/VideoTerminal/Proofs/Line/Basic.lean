import VideoTerminal.Cursor
import VideoTerminal.Line

/-
  Lines cell by cell, and the lines that editing keeps: of a
  fixed width, with every wide character whole, and with the
  soft-wrap mark nowhere but on the last cell.

  Main declarations:
    * `Cell.IsPlain`
    * `Line.Paired`
    * `Line.WellFormed`
    * `Line.WellFormed.keepingWrap`
    * `Line.WellFormed.resize`
-/

namespace VideoTerminal

------------------------------------------------------------
-- Cells Without Layout Marks
------------------------------------------------------------

namespace Cell

/- A cell that takes no part in the layout of its line. -/
structure IsPlain
    (cell : Cell) : Prop where
  wrapped_eq : cell.wrapped = false
  wide_eq : cell.wide = false
  placeholder_eq : cell.placeholder = false

theorem isPlain_blank
    (foreground background : UInt8) :
    (blank foreground background).IsPlain :=
  ⟨rfl, rfl, rfl⟩

end Cell

namespace Pen

theorem isPlain_cell
    (pen : Pen)
    (char : Char) :
    (pen.cell char).IsPlain :=
  ⟨rfl, rfl, rfl⟩

theorem isPlain_blank
    (pen : Pen) :
    pen.blank.IsPlain :=
  Cell.isPlain_blank _ _

end Pen

namespace Line

------------------------------------------------------------
-- Reading After Writing
------------------------------------------------------------

theorem get?_eq_none_of_width_le
    {line : Line}
    {col : Nat}
    (hCol : line.width ≤ col) :
    line.get? col = none := by
  simpa [get?, width] using hCol

theorem exists_get?_eq_some
    {line : Line}
    {col : Nat}
    (hCol : col < line.width) :
    ∃ cell, line.get? col = some cell :=
  ⟨_, List.getElem?_eq_getElem hCol⟩

/- Lines are the same if they are so column by column. -/
theorem ext_get?
    {line other : Line}
    (hSame : ∀ col, line.get? col = other.get? col) :
    line = other :=
  congrArg Line.mk (List.ext_getElem? hSame)

@[simp] theorem width_ofBlank
    (cols : Nat)
    (blank : Cell) :
    (ofBlank cols blank).width = cols := by
  simp [ofBlank, width]

/- Lines of one width that are filled are all the same. -/
theorem map_fill_eq_replicate
    {cols : Nat}
    {lines : List Line}
    (hWidths : ∀ line ∈ lines, line.width = cols)
    (blank : Cell) :
    lines.map (·.fill blank) =
      List.replicate lines.length (ofBlank cols blank) := by
  apply List.eq_replicate_iff.mpr
  refine ⟨List.length_map _, ?_⟩
  intro line hMem
  rcases List.mem_map.mp hMem with ⟨old, hOld, hEq⟩
  rw [← hEq, fill, hWidths old hOld]

@[simp] theorem width_set
    (line : Line)
    (col : Nat)
    (cell : Cell) :
    (line.set col cell).width = line.width := by
  simp [set, width]

@[simp] theorem width_modify
    (line : Line)
    (col : Nat)
    (change : Cell → Cell) :
    (line.modify col change).width = line.width := by
  simp [modify, width]

@[simp] theorem width_setWrapped
    (line : Line)
    (on : Bool) :
    (line.setWrapped on).width = line.width := by
  simp [setWrapped]

@[simp] theorem width_fillSpan
    (line : Line)
    (first last : Nat)
    (blank : Cell) :
    (line.fillSpan first last blank).width = line.width := by
  simp [fillSpan, width]

@[simp] theorem width_blankWideAtEnd
    (line : Line)
    (blank : Cell) :
    (line.blankWideAtEnd blank).width = line.width := by
  unfold blankWideAtEnd
  split
  · simp
  · rfl

@[simp] theorem width_splitWideAt
    (line : Line)
    (col : Nat)
    (blank : Cell) :
    (line.splitWideAt col blank).width = line.width := by
  unfold splitWideAt
  split
  · simp
  · rfl

theorem get?_ofBlank
    (cols : Nat)
    (blank : Cell)
    (col : Nat) :
    (ofBlank cols blank).get? col =
      if col < cols then some blank else none := by
  simp [ofBlank, get?, List.getElem?_replicate]

theorem get?_set
    (line : Line)
    (target col : Nat)
    (cell : Cell) :
    (line.set target cell).get? col =
      if col = target ∧ col < line.width then
        some cell
      else
        line.get? col := by
  simp only [set, get?, width, List.getElem?_set]
  grind

theorem get?_modify
    (line : Line)
    (target col : Nat)
    (change : Cell → Cell) :
    (line.modify target change).get? col =
      if col = target then
        (line.get? col).map change
      else
        line.get? col := by
  simp only [modify, get?, List.getElem?_modify]
  grind

theorem get?_setWrapped
    (line : Line)
    (on : Bool)
    (col : Nat) :
    (line.setWrapped on).get? col =
      if col + 1 = line.width then
        (line.get? col).map (·.setWrapped on)
      else
        line.get? col := by
  unfold setWrapped
  rw [get?_modify]
  by_cases hCol : col < line.width
  · grind
  · rw [get?_eq_none_of_width_le (Nat.le_of_not_lt hCol)]
    simp

theorem get?_fillSpan
    (line : Line)
    (first last col : Nat)
    (blank : Cell) :
    (line.fillSpan first last blank).get? col =
      if first ≤ col ∧ col ≤ last ∧ col < line.width then
        some blank
      else
        line.get? col := by
  simp only [fillSpan, get?, width, List.getElem?_mapIdx]
  by_cases hCol : col < line.cells.length
  · rw [List.getElem?_eq_getElem hCol]
    grind
  · rw [List.getElem?_eq_none (Nat.le_of_not_lt hCol)]
    grind

------------------------------------------------------------
-- Layout Marks
------------------------------------------------------------

/- The cell in a column exists and carries a mark. -/
def markAt
    (line : Line)
    (mark : Cell → Bool)
    (col : Nat) : Bool :=
  (line.get? col).any mark

theorem isWideAt_eq_markAt
    (line : Line)
    (col : Nat) :
    line.isWideAt col = line.markAt Cell.wide col :=
  rfl

theorem isPlaceholderAt_eq_markAt
    (line : Line)
    (col : Nat) :
    line.isPlaceholderAt col =
      line.markAt Cell.placeholder col :=
  rfl

theorem markAt_of_get?_eq_some
    {line : Line}
    {col : Nat}
    {cell : Cell}
    (hCell : line.get? col = some cell)
    (mark : Cell → Bool) :
    line.markAt mark col = mark cell := by
  simp [markAt, hCell]

theorem markAt_eq_false_of_width_le
    {line : Line}
    {col : Nat}
    (hCol : line.width ≤ col)
    (mark : Cell → Bool) :
    line.markAt mark col = false := by
  simp [markAt, get?_eq_none_of_width_le hCol]

theorem markAt_ofBlank
    (cols : Nat)
    (blank : Cell)
    (mark : Cell → Bool)
    (col : Nat) :
    (ofBlank cols blank).markAt mark col =
      (decide (col < cols) && mark blank) := by
  simp only [markAt, get?_ofBlank]
  by_cases hCol : col < cols
  · simp [hCol]
  · simp [hCol]

theorem markAt_set
    (line : Line)
    (target col : Nat)
    (cell : Cell)
    (mark : Cell → Bool) :
    (line.set target cell).markAt mark col =
      if col = target ∧ col < line.width then
        mark cell
      else
        line.markAt mark col := by
  simp only [markAt, get?_set]
  split <;> rfl

theorem markAt_modify_of_keeps
    (line : Line)
    (target col : Nat)
    {change : Cell → Cell}
    {mark : Cell → Bool}
    (hKeeps : ∀ cell, mark (change cell) = mark cell) :
    (line.modify target change).markAt mark col =
      line.markAt mark col := by
  simp only [markAt, get?_modify]
  split
  · cases line.get? col with
    | none => rfl
    | some cell => exact hKeeps cell
  · rfl

theorem markAt_modify_of_clears
    (line : Line)
    (target col : Nat)
    {change : Cell → Cell}
    {mark : Cell → Bool}
    (hClears : ∀ cell, mark (change cell) = false) :
    (line.modify target change).markAt mark col =
      (decide (col ≠ target) && line.markAt mark col) := by
  simp only [markAt, get?_modify]
  split
  · cases line.get? col with
    | none => simp
    | some cell =>
        simp [hClears cell, *]
  · simp [*]

/- The soft-wrap mark is apart from the two others. -/
@[simp] theorem markAt_wide_setWrapped
    (line : Line)
    (on : Bool)
    (col : Nat) :
    (line.setWrapped on).markAt Cell.wide col =
      line.markAt Cell.wide col :=
  line.markAt_modify_of_keeps _ _ fun _ => rfl

@[simp] theorem markAt_placeholder_setWrapped
    (line : Line)
    (on : Bool)
    (col : Nat) :
    (line.setWrapped on).markAt Cell.placeholder col =
      line.markAt Cell.placeholder col :=
  line.markAt_modify_of_keeps _ _ fun _ => rfl

theorem markAt_wrapped_setWrapped
    (line : Line)
    (on : Bool)
    (col : Nat) :
    (line.setWrapped on).markAt Cell.wrapped col =
      if col + 1 = line.width then
        on
      else
        line.markAt Cell.wrapped col := by
  simp only [markAt, get?_setWrapped]
  split
  · rename_i hCol
    have hInside : col < line.width := by omega
    rcases exists_get?_eq_some hInside with ⟨cell, hCell⟩
    simp [hCell, Cell.setWrapped]
  · rfl

/- A mark on some cell of the line. -/
theorem markAt_eq_false_of_forall
    {line : Line}
    {mark : Cell → Bool}
    (hCells : ∀ cell ∈ line.cells, mark cell = false)
    (col : Nat) :
    line.markAt mark col = false := by
  unfold markAt get?
  cases hCell : line.cells[col]? with
  | none => rfl
  | some cell =>
      exact hCells cell (List.mem_of_getElem? hCell)

------------------------------------------------------------
-- Well-Formed Lines
------------------------------------------------------------

/-
  Every wide character has both its halves: a cell is the
  first half exactly if the next cell is the second half of
  it, and no cell is both.
-/
structure Paired
    (line : Line) : Prop where
  wide_eq :
    ∀ col,
      line.isWideAt col = line.isPlaceholderAt (col + 1)
  head_eq : line.isPlaceholderAt 0 = false
  apart :
    ∀ col,
      line.isWideAt col →
        line.isPlaceholderAt col = false

/- The soft-wrap mark is on the last cell if anywhere. -/
def WrapsAtEnd
    (line : Line) : Prop :=
  ∀ col,
    line.markAt Cell.wrapped col → col + 1 = line.width

/- The second half of a wide character shows nothing. -/
def PlaceholdersShowNothing
    (line : Line) : Prop :=
  ∀ cell ∈ line.cells, cell.placeholder → cell.char = ' '

/- A line of a given width as editing leaves it. -/
structure WellFormed
    (cols : Nat)
    (line : Line) : Prop where
  width_eq : line.width = cols
  paired : line.Paired
  wrapsAtEnd : line.WrapsAtEnd
  showNothing : line.PlaceholdersShowNothing


namespace Paired

variable {line : Line}

theorem setWrapped
    (hLine : line.Paired)
    (on : Bool) :
    (line.setWrapped on).Paired := by
  constructor
  · intro col
    simpa [isWideAt_eq_markAt, isPlaceholderAt_eq_markAt]
      using hLine.wide_eq col
  · simpa [isPlaceholderAt_eq_markAt] using hLine.head_eq
  · intro col
    simpa [isWideAt_eq_markAt, isPlaceholderAt_eq_markAt]
      using hLine.apart col

/-
  A first half in the last column would need a next one.
-/
theorem not_isWideAt_last
    (hLine : line.Paired)
    {col : Nat}
    (hCol : line.width ≤ col + 1) :
    line.isWideAt col = false := by
  rw [hLine.wide_eq]
  exact markAt_eq_false_of_width_le hCol _

theorem next_lt_width
    (hLine : line.Paired)
    (col : Nat)
    (hWide : line.isWideAt col) :
    col + 1 < line.width := by
  rcases Nat.lt_or_ge (col + 1) line.width with hLt | hGe
  · exact hLt
  · rw [hLine.not_isWideAt_last hGe] at hWide
    cases hWide

end Paired

theorem paired_ofBlank
    (cols : Nat)
    {blank : Cell}
    (hBlank : blank.IsPlain) :
    (ofBlank cols blank).Paired := by
  constructor
  · intro col
    simp [isWideAt_eq_markAt, isPlaceholderAt_eq_markAt,
      markAt_ofBlank, hBlank.wide_eq, hBlank.placeholder_eq]
  · simp [isPlaceholderAt_eq_markAt, markAt_ofBlank,
      hBlank.placeholder_eq]
  · intro col
    simp [isWideAt_eq_markAt, markAt_ofBlank,
      hBlank.wide_eq]

theorem wellFormed_ofBlank
    (cols : Nat)
    {blank : Cell}
    (hBlank : blank.IsPlain) :
    (ofBlank cols blank).WellFormed cols where
  width_eq := width_ofBlank cols blank
  paired := paired_ofBlank cols hBlank
  wrapsAtEnd := by
    intro col hWrapped
    simp [markAt_ofBlank, hBlank.wrapped_eq] at hWrapped
  showNothing := by
    intro cell hCell hPlaceholder
    have hEq : cell = blank := List.eq_of_mem_replicate hCell
    rw [hEq, hBlank.placeholder_eq] at hPlaceholder
    cases hPlaceholder

namespace WellFormed

variable {cols : Nat} {line : Line}

theorem fill
    (hLine : line.WellFormed cols)
    {blank : Cell}
    (hBlank : blank.IsPlain) :
    (line.fill blank).WellFormed cols := by
  unfold Line.fill
  rw [hLine.width_eq]
  exact wellFormed_ofBlank cols hBlank

end WellFormed

------------------------------------------------------------
-- Keeping the Soft-Wrap Mark Apart
------------------------------------------------------------

theorem mem_cells_set
    {line : Line}
    {col : Nat}
    {cell other : Cell}
    (hMem : other ∈ (line.set col cell).cells) :
    other ∈ line.cells ∨ other = cell :=
  List.mem_or_eq_of_mem_set hMem

theorem mem_cells_splitWideAt
    {line : Line}
    {col : Nat}
    {blank cell : Cell}
    (hMem : cell ∈ (line.splitWideAt col blank).cells) :
    cell ∈ line.cells ∨ cell = blank := by
  unfold splitWideAt at hMem
  split at hMem
  · rcases mem_cells_set hMem with hFirst | hBlank
    · exact mem_cells_set hFirst
    · exact Or.inr hBlank
  · exact Or.inl hMem

theorem mem_cells_blankWideAtEnd
    {line : Line}
    {blank cell : Cell}
    (hMem : cell ∈ (line.blankWideAtEnd blank).cells) :
    cell ∈ line.cells ∨ cell = blank := by
  unfold blankWideAtEnd at hMem
  split at hMem
  · exact mem_cells_set hMem
  · exact Or.inl hMem

/- What a change of one cell does to every cell. -/
theorem forall_mem_cells_setWrapped
    {line : Line}
    {holds : Cell → Prop}
    (on : Bool)
    (hOther : ∀ cell ∈ line.cells, holds cell)
    (hMarked :
      ∀ cell ∈ line.cells, holds (cell.setWrapped on)) :
    ∀ cell ∈ (line.setWrapped on).cells, holds cell := by
  intro cell hCell
  rcases List.mem_iff_getElem?.mp hCell with ⟨col, hCol⟩
  have hGet := get?_setWrapped line on col
  rw [get?, hCol] at hGet
  split at hGet
  · cases hOld : line.get? col with
    | none => simp [hOld] at hGet
    | some old =>
        simp only [hOld, Option.map_some,
          Option.some.injEq] at hGet
        rw [hGet]
        exact hMarked old (List.mem_of_getElem? hOld)
  · exact hOther cell (List.mem_of_getElem? hGet.symm)

theorem WrapsAtEnd.unwrapped
    {line : Line}
    (hLine : line.WrapsAtEnd) :
    ∀ cell ∈ (line.setWrapped false).cells,
      cell.wrapped = false := by
  intro cell hCell
  rcases List.mem_iff_getElem?.mp hCell with ⟨col, hCol⟩
  have hMark :=
    markAt_wrapped_setWrapped line false col
  rw [markAt_of_get?_eq_some hCol] at hMark
  rw [hMark]
  split
  · rfl
  · rename_i hInner
    cases hWrapped : line.markAt Cell.wrapped col with
    | false => rfl
    | true => exact absurd (hLine col hWrapped) hInner

theorem PlaceholdersShowNothing.setWrapped
    {line : Line}
    (hLine : line.PlaceholdersShowNothing)
    (on : Bool) :
    (line.setWrapped on).PlaceholdersShowNothing :=
  forall_mem_cells_setWrapped on hLine hLine

/- The mark is where it is put if the change leaves none. -/
theorem wrapsAtEnd_keepingWrap
    {line : Line}
    {change : Line → Line}
    (hUnwrapped :
      ∀ cell ∈ (change (line.setWrapped false)).cells,
        cell.wrapped = false) :
    (line.keepingWrap change).WrapsAtEnd := by
  intro col hWrapped
  unfold Line.keepingWrap at hWrapped ⊢
  rw [markAt_wrapped_setWrapped] at hWrapped
  rw [width_setWrapped]
  split at hWrapped
  · assumption
  · rw [markAt_eq_false_of_forall hUnwrapped] at hWrapped
    cases hWrapped

/-
  A change that only moves cells and puts in blanks keeps a
  line well-formed if it keeps wide characters whole.
-/
theorem WellFormed.keepingWrap
    {cols cols' : Nat}
    {line : Line}
    {change : Line → Line}
    {blank : Cell}
    (hLine : line.WellFormed cols)
    (hBlank : blank.IsPlain)
    (hWidth : (change (line.setWrapped false)).width = cols')
    (hPaired : (change (line.setWrapped false)).Paired)
    (hCells :
      ∀ cell ∈ (change (line.setWrapped false)).cells,
        cell ∈ (line.setWrapped false).cells ∨
          cell = blank) :
    (line.keepingWrap change).WellFormed cols' where
  width_eq := by
    simpa [Line.keepingWrap] using hWidth
  paired := hPaired.setWrapped _
  wrapsAtEnd := by
    have hUnwrapped :
        ∀ cell ∈ (change (line.setWrapped false)).cells,
          cell.wrapped = false := by
      intro cell hCell
      rcases hCells cell hCell with hOld | hNew
      · exact hLine.wrapsAtEnd.unwrapped cell hOld
      · rw [hNew, hBlank.wrapped_eq]
    exact wrapsAtEnd_keepingWrap hUnwrapped
  showNothing := by
    apply PlaceholdersShowNothing.setWrapped
    intro cell hCell hPlaceholder
    rcases hCells cell hCell with hOld | hNew
    · exact
        hLine.showNothing.setWrapped false cell hOld
          hPlaceholder
    · rw [hNew, hBlank.placeholder_eq] at hPlaceholder
      cases hPlaceholder

------------------------------------------------------------
-- Taking Wide Characters Apart
------------------------------------------------------------

theorem lt_width_of_markAt
    {line : Line}
    {mark : Cell → Bool}
    {col : Nat}
    (hMark : line.markAt mark col) :
    col < line.width := by
  rcases Nat.lt_or_ge col line.width with hLt | hGe
  · exact hLt
  · rw [markAt_eq_false_of_width_le hGe] at hMark
    cases hMark

theorem get?_splitWideAt
    (line : Line)
    (target col : Nat)
    (blank : Cell) :
    (line.splitWideAt target blank).get? col =
      if 0 < target ∧ line.isPlaceholderAt target ∧
          (col = target ∨ col + 1 = target) then
        some blank
      else
        line.get? col := by
  unfold splitWideAt
  split
  · rename_i hSplit
    have hTarget : target < line.width :=
      lt_width_of_markAt hSplit.2
    simp only [get?_set, width_set]
    grind
  · grind

theorem get?_blankWideAtEnd
    (line : Line)
    (blank : Cell)
    (col : Nat) :
    (line.blankWideAtEnd blank).get? col =
      if col + 1 = line.width ∧ line.isWideAt col then
        some blank
      else
        line.get? col := by
  unfold blankWideAtEnd
  split
  · rename_i hWide
    have hWidth : line.width - 1 < line.width :=
      lt_width_of_markAt hWide
    rw [get?_set]
    grind
  · grind

theorem markAt_splitWideAt
    (line : Line)
    (target col : Nat)
    {blank : Cell}
    {mark : Cell → Bool}
    (hBlank : mark blank = false) :
    (line.splitWideAt target blank).markAt mark col =
      (!decide (0 < target ∧ line.isPlaceholderAt target ∧
          (col = target ∨ col + 1 = target)) &&
        line.markAt mark col) := by
  simp only [markAt, get?_splitWideAt]
  split
  · simp [*]
  · simp [*]

theorem markAt_blankWideAtEnd
    (line : Line)
    (col : Nat)
    {blank : Cell}
    {mark : Cell → Bool}
    (hBlank : mark blank = false) :
    (line.blankWideAtEnd blank).markAt mark col =
      (!decide (col + 1 = line.width ∧
          line.isWideAt col) &&
        line.markAt mark col) := by
  simp only [markAt, get?_blankWideAtEnd]
  split
  · simp [*]
  · simp [*]

/- Splitting a wide character leaves none there. -/
theorem Paired.splitWideAt
    {line : Line}
    (hLine : line.Paired)
    (target : Nat)
    {blank : Cell}
    (hBlank : blank.IsPlain) :
    (line.splitWideAt target blank).Paired ∧
      (line.splitWideAt target blank).isPlaceholderAt
        target = false := by
  have hWide := hLine.wide_eq
  have hHead := hLine.head_eq
  have hApart := hLine.apart
  simp only [isWideAt_eq_markAt,
    isPlaceholderAt_eq_markAt] at hWide hHead hApart
  refine ⟨⟨?_, ?_, ?_⟩, ?_⟩
  · intro col
    have hPrevious := hWide (target - 1)
    simp only [isWideAt_eq_markAt,
      isPlaceholderAt_eq_markAt,
      markAt_splitWideAt _ _ _ hBlank.wide_eq,
      markAt_splitWideAt _ _ _ hBlank.placeholder_eq]
    grind
  · simp only [isPlaceholderAt_eq_markAt,
      markAt_splitWideAt _ _ _ hBlank.placeholder_eq]
    simp [hHead]
  · intro col
    simp only [isWideAt_eq_markAt,
      isPlaceholderAt_eq_markAt,
      markAt_splitWideAt _ _ _ hBlank.wide_eq,
      markAt_splitWideAt _ _ _ hBlank.placeholder_eq]
    grind
  · simp only [isPlaceholderAt_eq_markAt,
      markAt_splitWideAt _ _ _ hBlank.placeholder_eq]
    grind

/-
  A line whose last cell may be the first half of a wide
  character that has lost its second half.
-/
structure PairedButEnd
    (line : Line) : Prop where
  wide_eq :
    ∀ col,
      col + 1 < line.width →
        line.isWideAt col =
          line.isPlaceholderAt (col + 1)
  head_eq : line.isPlaceholderAt 0 = false
  apart :
    ∀ col,
      line.isWideAt col →
        line.isPlaceholderAt col = false

theorem PairedButEnd.blankWideAtEnd
    {line : Line}
    (hLine : line.PairedButEnd)
    {blank : Cell}
    (hBlank : blank.IsPlain) :
    (line.blankWideAtEnd blank).Paired := by
  have hWide := hLine.wide_eq
  have hHead := hLine.head_eq
  have hApart := hLine.apart
  simp only [isWideAt_eq_markAt,
    isPlaceholderAt_eq_markAt] at hWide hHead hApart
  constructor
  · intro col
    simp only [isWideAt_eq_markAt,
      isPlaceholderAt_eq_markAt,
      markAt_blankWideAtEnd _ _ hBlank.wide_eq,
      markAt_blankWideAtEnd _ _ hBlank.placeholder_eq]
    rcases Nat.lt_trichotomy (col + 1) line.width with
      hInner | hLast | hOutside
    · have hHere := hWide col hInner
      have hNext := hApart (col + 1)
      grind
    · have hNext : line.markAt Cell.placeholder (col + 1) =
          false :=
        markAt_eq_false_of_width_le (by omega) _
      grind
    · have hHere : line.markAt Cell.wide col = false :=
        markAt_eq_false_of_width_le (by omega) _
      have hNext : line.markAt Cell.placeholder (col + 1) =
          false :=
        markAt_eq_false_of_width_le (by omega) _
      grind
  · simp only [isPlaceholderAt_eq_markAt,
      markAt_blankWideAtEnd _ _ hBlank.placeholder_eq]
    simp [hHead]
  · intro col
    simp only [isWideAt_eq_markAt,
      isPlaceholderAt_eq_markAt,
      markAt_blankWideAtEnd _ _ hBlank.wide_eq,
      markAt_blankWideAtEnd _ _ hBlank.placeholder_eq]
    grind

------------------------------------------------------------
-- Width Changes
------------------------------------------------------------

/- The cells of a line that is cut or extended. -/
theorem get?_cutOrExtended
    (line : Line)
    (cols : Nat)
    (blank : Cell)
    (col : Nat) :
    get?
        ⟨line.cells.take cols ++
          List.replicate (cols - line.width) blank⟩ col =
      if col < min cols line.width then
        line.get? col
      else if col < cols then
        some blank
      else
        none := by
  simp only [get?, width, List.getElem?_append,
    List.getElem?_take, List.length_take,
    List.getElem?_replicate]
  grind

theorem width_cutOrExtended
    (line : Line)
    (cols : Nat)
    (blank : Cell) :
    width
        ⟨line.cells.take cols ++
          List.replicate (cols - line.width) blank⟩ =
      cols := by
  simp only [width, List.length_append, List.length_take,
    List.length_replicate]
  omega

theorem width_resize
    (line : Line)
    (cols : Nat)
    (blank : Cell) :
    (line.resize cols blank).width = cols := by
  unfold resize
  split
  · rename_i hSame
    exact hSame.symm
  · rw [keepingWrap, width_setWrapped, width_blankWideAtEnd]
    simpa using
      width_cutOrExtended (line.setWrapped false) cols blank

theorem Paired.cutOrExtended
    {line : Line}
    (hLine : line.Paired)
    (cols : Nat)
    {blank : Cell}
    (hBlank : blank.IsPlain) :
    PairedButEnd
      ⟨line.cells.take cols ++
        List.replicate (cols - line.width) blank⟩ := by
  have hMark :
      ∀ (mark : Cell → Bool), mark blank = false →
        ∀ col,
          markAt
              ⟨line.cells.take cols ++
                List.replicate (cols - line.width) blank⟩
              mark col =
            (decide (col < cols) &&
              line.markAt mark col) := by
    intro mark hPlain col
    simp only [markAt, get?_cutOrExtended]
    split
    · simp only [Nat.lt_min] at *
      simp [*]
    · split
      · have hOutside : line.width ≤ col := by omega
        simp [hPlain, get?_eq_none_of_width_le hOutside]
      · simp [*]
  have hWide := hLine.wide_eq
  have hHead := hLine.head_eq
  have hApart := hLine.apart
  simp only [isWideAt_eq_markAt,
    isPlaceholderAt_eq_markAt] at hWide hHead hApart
  constructor
  · intro col hCol
    rw [width_cutOrExtended] at hCol
    simp only [isWideAt_eq_markAt,
      isPlaceholderAt_eq_markAt, hMark _ hBlank.wide_eq,
      hMark _ hBlank.placeholder_eq, hWide col]
    grind
  · simp [isPlaceholderAt_eq_markAt,
      hMark _ hBlank.placeholder_eq, hHead]
  · intro col
    simp only [isWideAt_eq_markAt,
      isPlaceholderAt_eq_markAt, hMark _ hBlank.wide_eq,
      hMark _ hBlank.placeholder_eq]
    grind

theorem mem_cells_cutOrExtended
    {line : Line}
    {cols : Nat}
    {blank cell : Cell}
    (hMem :
      cell ∈
        (blankWideAtEnd
          ⟨line.cells.take cols ++
            List.replicate (cols - line.width) blank⟩
          blank).cells) :
    cell ∈ line.cells ∨ cell = blank := by
  rcases mem_cells_blankWideAtEnd hMem with hCell | hNew
  · rcases List.mem_append.mp hCell with hOld | hFill
    · exact Or.inl (List.mem_of_mem_take hOld)
    · exact Or.inr (List.eq_of_mem_replicate hFill)
  · exact Or.inr hNew

theorem WellFormed.resize
    {cols : Nat}
    {line : Line}
    (hLine : line.WellFormed cols)
    (cols' : Nat)
    {blank : Cell}
    (hBlank : blank.IsPlain) :
    (line.resize cols' blank).WellFormed cols' := by
  unfold Line.resize
  split
  · rename_i hSame
    rw [hSame, hLine.width_eq]
    exact hLine
  · apply hLine.keepingWrap hBlank
    · rw [width_blankWideAtEnd, width_cutOrExtended]
    · have hPaired := hLine.paired.setWrapped false
      exact
        (hPaired.cutOrExtended cols' hBlank).blankWideAtEnd
          hBlank
    · intro cell hCell
      exact mem_cells_cutOrExtended hCell

end Line

end VideoTerminal
