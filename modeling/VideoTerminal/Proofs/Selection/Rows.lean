import VideoTerminal.Proofs.Grid.Follow
import VideoTerminal.Proofs.Selection.Scroll
import VideoTerminal.Terminal.Scroll

/-
  The rows that a selection reaches: neither growing to words
  and lines nor following lines that scroll takes it out of
  the rows of the screen and its history, as long as words
  have room for the numbers of these rows.

  Main declarations:
    * `Selection.Lies`
    * `Selection.Spans`
    * `Selection.rows_rangeOf`
    * `Selection.spans_begin`
    * `Selection.spans_extend`
    * `Selection.Lies.historyScrolled?`
    * `Selection.Lies.regionScrolled?`
-/

namespace VideoTerminal

namespace Grid

variable {grid : Grid}

------------------------------------------------------------
-- Words
------------------------------------------------------------

theorem row_previousPoint?
    {point before : Point}
    (hBefore : grid.previousPoint? point = some before)
    {low : Int}
    (hLow : low ≤ point.row)
    (hHistory : low ≤ -grid.scrollback.size) :
    low ≤ before.row ∧ before.row ≤ point.row := by
  unfold previousPoint? at hBefore
  split at hBefore
  · cases hBefore
    exact ⟨hLow, Int.le_refl _⟩
  · split at hBefore
    · rename_i hWrapped
      have hRow :=
        neg_size_le_of_lineAt?_isSome
          (lineAt?_isSome_of_isWrappedAt hWrapped)
      cases hBefore
      dsimp only
      omega
    · cases hBefore

theorem row_nextPoint?
    {point after : Point}
    (hAfter : grid.nextPoint? point = some after)
    {high : Int}
    (hHigh : point.row ≤ high)
    (hRows : grid.rows ≤ high + 1) :
    point.row ≤ after.row ∧ after.row ≤ high := by
  unfold nextPoint? at hAfter
  split at hAfter
  · cases hAfter
    exact ⟨Int.le_refl _, hHigh⟩
  · split at hAfter
    · rename_i hNext
      have hThere := row_lt_rows_of_lineAt?_isSome hNext.2
      cases hAfter
      dsimp only
      omega
    · cases hAfter

/- Walking back stops at the oldest line of the history. -/
theorem row_walkBack
    (isDelimiter : Char → Bool)
    {point : Point}
    {low : Int}
    (hLow : low ≤ point.row)
    (hHistory : low ≤ -grid.scrollback.size) :
    low ≤ (grid.walkBack isDelimiter point).row ∧
      (grid.walkBack isDelimiter point).row ≤
        point.row := by
  fun_induction Grid.walkBack grid isDelimiter point with
  | case1 => exact ⟨hLow, Int.le_refl _⟩
  | case2 point before hBefore hWord hRest =>
      have hStep := row_previousPoint? hBefore hLow hHistory
      have hLater := hRest hStep.1
      omega
  | case3 => exact ⟨hLow, Int.le_refl _⟩

/- Walking on stops in the last row of the screen. -/
theorem row_walkOn
    (isDelimiter : Char → Bool)
    {point : Point}
    {high : Int}
    (hHigh : point.row ≤ high)
    (hRows : grid.rows ≤ high + 1) :
    point.row ≤ (grid.walkOn isDelimiter point).row ∧
      (grid.walkOn isDelimiter point).row ≤ high := by
  fun_induction Grid.walkOn grid isDelimiter point with
  | case1 => exact ⟨Int.le_refl _, hHigh⟩
  | case2 point after hAfter hWord hRest =>
      have hStep := row_nextPoint? hAfter hHigh hRows
      have hLater := hRest hStep.2
      omega
  | case3 => exact ⟨Int.le_refl _, hHigh⟩

theorem row_wordStart
    (isDelimiter : Char → Bool)
    {point : Point}
    {low : Int}
    (hLow : low ≤ point.row)
    (hHistory : low ≤ -grid.scrollback.size) :
    low ≤ (grid.wordStart isDelimiter point).row ∧
      (grid.wordStart isDelimiter point).row ≤
        point.row := by
  unfold wordStart
  split
  · exact row_walkBack isDelimiter hLow hHistory
  · exact ⟨hLow, Int.le_refl _⟩

theorem row_wordEnd
    (isDelimiter : Char → Bool)
    {point : Point}
    {high : Int}
    (hHigh : point.row ≤ high)
    (hRows : grid.rows ≤ high + 1) :
    point.row ≤ (grid.wordEnd isDelimiter point).row ∧
      (grid.wordEnd isDelimiter point).row ≤ high := by
  unfold wordEnd
  dsimp only
  split
  · exact row_walkOn isDelimiter hHigh hRows
  · exact ⟨Int.le_refl _, hHigh⟩

------------------------------------------------------------
-- Lines
------------------------------------------------------------

theorem row_firstRow
    {row low : Int}
    (hLow : low ≤ row)
    (hHistory : low ≤ -grid.scrollback.size) :
    low ≤ grid.firstRow row ∧ grid.firstRow row ≤ row := by
  fun_induction Grid.firstRow grid row with
  | case1 row hWrapped hRest =>
      have hThere :=
        neg_size_le_of_lineAt?_isSome
          (lineAt?_isSome_of_isWrappedAt hWrapped)
      have hLater := hRest (by omega)
      omega
  | case2 => exact ⟨hLow, Int.le_refl _⟩

theorem row_lastRow
    {row high : Int}
    (hHigh : row ≤ high)
    (hRows : grid.rows ≤ high + 1) :
    row ≤ grid.lastRow row ∧ grid.lastRow row ≤ high := by
  fun_induction Grid.lastRow grid row with
  | case1 row hNext hRest =>
      have hThere := row_lt_rows_of_lineAt?_isSome hNext.2
      have hLater := hRest (by omega)
      omega
  | case2 => exact ⟨Int.le_refl _, hHigh⟩

end Grid

namespace Selection

------------------------------------------------------------
-- Ranges
------------------------------------------------------------

/-
  The range of a selection is in order, with the anchor inside
  of it, and lies between two rows.
-/
structure Lies
    (selection : Selection)
    (low high : Int) : Prop where
  low_le : low ≤ selection.first.row
  first_le : selection.first.row ≤ selection.anchor.row
  anchor_le : selection.anchor.row ≤ selection.past.row
  past_le : selection.past.row ≤ high

/- So is the point where the pointer was last seen. -/
structure Spans
    (selection : Selection)
    (low high : Int) : Prop
    extends selection.Lies low high where
  first_le_current :
    selection.first.row ≤ selection.current.row
  current_le : selection.current.row ≤ selection.past.row

section

variable {grid : Grid} {p q : Point} {low high : Int}
  (isDelimiter : Char → Bool)
  (snap : Snap)
  (hLow : low ≤ p.row ∧ low ≤ q.row)
  (hHistory : low ≤ -grid.scrollback.size)
  (hHigh : p.row ≤ high ∧ q.row ≤ high)
  (hRows : grid.rows ≤ high + 1)

include hLow hHistory hHigh hRows

theorem rows_characterRange :
    let range := characterRange grid isDelimiter snap p q
    (low ≤ range.1.row ∧ range.2.row ≤ high) ∧
      (range.1.row ≤ p.row ∧ p.row ≤ range.2.row) ∧
        range.1.row ≤ q.row ∧ q.row ≤ range.2.row := by
  have hOrdered :
      ∃ b e : Point,
        (if q.Before p then (q, p) else (p, q)) = (b, e) ∧
          (low ≤ b.row ∧ e.row ≤ high) ∧
          (b.row ≤ p.row ∧ p.row ≤ e.row) ∧
            b.row ≤ q.row ∧ q.row ≤ e.row := by
    by_cases hSwapped : q.Before p
    · rw [if_pos hSwapped]
      unfold Point.Before at hSwapped
      exact ⟨q, p, rfl, by omega⟩
    · rw [if_neg hSwapped]
      unfold Point.Before at hSwapped
      exact ⟨p, q, rfl, by omega⟩
  rcases hOrdered with ⟨b, e, hPair, hEnds, hFirst, hSecond⟩
  unfold characterRange
  rw [hPair]
  cases snap with
  | none => exact ⟨hEnds, hFirst, hSecond⟩
  | word =>
      have hStart :=
        Grid.row_wordStart isDelimiter hEnds.1 hHistory
      have hEnd :=
        Grid.row_wordEnd isDelimiter hEnds.2 hRows
      dsimp only
      omega
  | line =>
      have hStart := Grid.row_firstRow hEnds.1 hHistory
      have hEnd := Grid.row_lastRow hEnds.2 hRows
      show
        (low ≤ grid.firstRow b.row ∧
            grid.lastRow e.row ≤ high) ∧
          (grid.firstRow b.row ≤ p.row ∧
              p.row ≤ grid.lastRow e.row) ∧
            grid.firstRow b.row ≤ q.row ∧
              q.row ≤ grid.lastRow e.row
      omega

/- However far the range grows, it stays among the rows. -/
theorem rows_rangeOf
    (mode : SelectionMode) :
    let range := rangeOf grid isDelimiter mode snap p q
    (low ≤ range.1.row ∧ range.2.row ≤ high) ∧
      (range.1.row ≤ p.row ∧ p.row ≤ range.2.row) ∧
        range.1.row ≤ q.row ∧ q.row ≤ range.2.row := by
  cases mode with
  | block =>
      show
        (low ≤ min p.row q.row ∧ max p.row q.row ≤ high) ∧
          (min p.row q.row ≤ p.row ∧
              p.row ≤ max p.row q.row) ∧
            min p.row q.row ≤ q.row ∧
              q.row ≤ max p.row q.row
      omega
  | character =>
      exact
        rows_characterRange isDelimiter snap hLow hHistory
          hHigh hRows

end

section

variable {grid : Grid} {point : Point} {low high : Int}
  (isDelimiter : Char → Bool)
  (hHistory : low ≤ -grid.scrollback.size)
  (hRows : grid.rows ≤ high + 1)

include hHistory hRows

theorem spans_begin
    (snap : Snap)
    (hLow : low ≤ point.row)
    (hHigh : point.row ≤ high)
    (mode : SelectionMode)
    (screen : Screen) :
    (Selection.begin grid isDelimiter point snap mode
      screen).Spans low high := by
  have hRange :=
    rows_rangeOf isDelimiter snap ⟨hLow, hLow⟩ hHistory
      ⟨hHigh, hHigh⟩ hRows mode
  exact
    { low_le := hRange.1.1
      first_le := hRange.2.1.1
      anchor_le := hRange.2.1.2
      past_le := hRange.1.2
      first_le_current := hRange.2.1.1
      current_le := hRange.2.1.2 }

/- The anchor stays where it is. -/
theorem spans_extend
    {selection : Selection}
    (hLow : low ≤ selection.anchor.row ∧ low ≤ point.row)
    (hHigh :
      selection.anchor.row ≤ high ∧ point.row ≤ high) :
    (selection.extend grid isDelimiter point).Spans low
      high := by
  have hRange :=
    rows_rangeOf isDelimiter selection.snap hLow hHistory
      hHigh hRows selection.mode
  exact
    { low_le := hRange.1.1
      first_le := hRange.2.1.1
      anchor_le := hRange.2.1.2
      past_le := hRange.1.2
      first_le_current := hRange.2.2.1
      current_le := hRange.2.2.2 }

end

------------------------------------------------------------
-- Scrolling
------------------------------------------------------------

section

variable {selection rest : Selection} {low high : Int}

theorem Lies.mono
    (hLies : selection.Lies low high)
    {low' high' : Int}
    (hLow : low' ≤ low)
    (hHigh : high ≤ high') :
    selection.Lies low' high' where
  low_le := Int.le_trans hLow hLies.low_le
  first_le := hLies.first_le
  anchor_le := hLies.anchor_le
  past_le := Int.le_trans hLies.past_le hHigh

section

variable {p : Point} {delta : Int}
  (hFirst : -2 ^ 63 ≤ selection.first.row + delta)
  (hPast : selection.past.row + delta < 2 ^ 63)

include hFirst hPast

/- A point between the ends of a range moves like these. -/
theorem shift_eq_moveBy_of_between
    (hAfter : selection.first.row ≤ p.row)
    (hBefore : p.row ≤ selection.past.row) :
    p.shift delta = p.moveBy delta :=
  Point.shift_eq_moveBy (by omega) (by omega)

theorem Lies.movesBy_shift
    (hLies : selection.Lies low high) :
    selection.MovesBy delta (selection.shift delta) := by
  have hAnchor := hLies.first_le
  have hOrder := hLies.anchor_le
  exact
    Selection.movesBy_shift ⟨hFirst, by omega⟩
      ⟨by omega, hPast⟩

theorem Lies.shift
    (hLies : selection.Lies low high)
    {low' high' : Int}
    (hLow : low' ≤ selection.first.row + delta)
    (hHigh : selection.past.row + delta ≤ high') :
    (selection.shift delta).Lies low' high' := by
  have hMoves := hLies.movesBy_shift hFirst hPast
  have hAnchor : (selection.shift delta).anchor.row =
      selection.anchor.row + delta :=
    congrArg Point.row
      (shift_eq_moveBy_of_between hFirst hPast hLies.first_le
        hLies.anchor_le)
  constructor
  · rw [hMoves.firstRow_eq]
    exact hLow
  · rw [hMoves.firstRow_eq, hAnchor]
    exact Int.add_le_add_right hLies.first_le delta
  · rw [hMoves.pastRow_eq, hAnchor]
    exact Int.add_le_add_right hLies.anchor_le delta
  · rw [hMoves.pastRow_eq]
    exact hHigh

end

theorem row_cutPoint
    (oldest point : Point) :
    (cutPoint oldest point).row =
      max oldest.row point.row := by
  unfold cutPoint
  split <;> omega

/- Cutting moves what is above the cut down to it. -/
theorem Lies.cut?
    (hLies : selection.Lies low high)
    {minRow : Int}
    (hPast : minRow ≤ selection.past.row)
    (hCut : selection.cut? minRow = some rest) :
    rest.Lies minRow high := by
  have hAnchor := hLies.anchor_le
  unfold Selection.cut? at hCut
  rcases Option.ite_none_left_eq_some.mp hCut with ⟨_, hRest⟩
  cases hRest
  refine
    { low_le := Int.le_refl _
      first_le := ?_
      anchor_le := ?_
      past_le := hLies.past_le }
  · show minRow ≤ (cutPoint _ selection.anchor).row
    rw [row_cutPoint]
    exact Int.le_max_left _ _
  · show (cutPoint _ selection.anchor).row ≤ _
    rw [row_cutPoint]
    exact Int.max_le.mpr ⟨hPast, hAnchor⟩

section

variable {delta : Int}
  (hLies : selection.Lies low high)
  (hLow : -2 ^ 63 ≤ low + delta)
  (hHigh : high + delta < 2 ^ 63)

include hLies hLow hHigh

theorem Lies.historyScrolled?
    {minRow maxRow : Int}
    (hRest :
      selection.historyScrolled? delta minRow maxRow
        selection.screen = some rest) :
    rest.Lies minRow maxRow := by
  have hLowest := hLies.low_le
  have hHighest := hLies.past_le
  have hFirstRoom :
      -2 ^ 63 ≤ selection.first.row + delta := by
    omega
  have hPastRoom :
      selection.past.row + delta < 2 ^ 63 := by
    omega
  have hMoves := hLies.movesBy_shift hFirstRoom hPastRoom
  unfold Selection.historyScrolled? at hRest
  rw [if_neg (fun hOther => hOther rfl)] at hRest
  dsimp only at hRest
  rw [hMoves.firstRow_eq, hMoves.pastRow_eq] at hRest
  rcases Option.ite_none_left_eq_some.mp hRest with
    ⟨hInside, hMoved⟩
  split at hMoved
  · have hShifted :
        (selection.shift delta).Lies
          (selection.first.row + delta) maxRow :=
      hLies.shift hFirstRoom hPastRoom (Int.le_refl _)
        (by omega)
    apply hShifted.cut? _ hMoved
    rw [hMoves.pastRow_eq]
    omega
  · cases hMoved
    exact
      hLies.shift hFirstRoom hPastRoom (by omega) (by omega)

theorem Lies.regionScrolled?
    {top bottom : Int}
    (hTop : low ≤ top)
    (hBottom : bottom ≤ high)
    (hRest :
      selection.regionScrolled? top bottom delta
        selection.screen = some rest) :
    rest.Lies low high := by
  have hLowest := hLies.low_le
  have hHighest := hLies.past_le
  have hFirstRoom :
      -2 ^ 63 ≤ selection.first.row + delta := by
    omega
  have hPastRoom :
      selection.past.row + delta < 2 ^ 63 := by
    omega
  have hMoves := hLies.movesBy_shift hFirstRoom hPastRoom
  unfold Selection.regionScrolled? at hRest
  rw [if_neg (fun hOther => hOther rfl)] at hRest
  split at hRest
  · cases hRest
  · split at hRest
    · dsimp only at hRest
      rw [hMoves.firstRow_eq, hMoves.pastRow_eq] at hRest
      rcases Option.ite_none_left_eq_some.mp hRest with
        ⟨hInside, hMoved⟩
      cases hMoved
      exact
        hLies.shift hFirstRoom hPastRoom (by omega) (by omega)
    · cases hRest
      exact hLies

end

end

end Selection

end VideoTerminal
