import VideoTerminal.Proofs.Selection.Rows

/-
  What scrolling leaves of a selection.  It moves with its
  lines, and loses rows to the end of the history.  In either
  case the selection that is left is no empty one, unless it
  has been empty before.  All of this is so as long as words
  have room for the rows.

  Main declarations:
    * `Selection.Remains`
    * `Selection.InWords`
    * `Selection.InWords.historyScrolled?`
    * `Selection.InWords.regionScrolled?`
    * `Selection.Ordered`
    * `Selection.Settled`
    * `Selection.Remains.settled`
-/

namespace VideoTerminal

namespace Selection

------------------------------------------------------------
-- Remains
------------------------------------------------------------

/- A selection all points of which are moved. -/
def moveBy
    (selection : Selection)
    (delta : Int) : Selection :=
  { selection with
    anchor := selection.anchor.moveBy delta
    current := selection.current.moveBy delta
    first := selection.first.moveBy delta
    past := selection.past.moveBy delta }

/-
  What can be left of a selection after it has been moved and
  cut some times.  A cut goes between two of its rows.
-/
inductive Remains
    (selection : Selection) :
    Selection → Prop where
  | same : Remains selection selection
  | move
      {rest : Selection}
      (hRest : Remains selection rest)
      (delta : Int) :
      Remains selection (rest.moveBy delta)
  | cut
      {rest left : Selection}
      (hRest : Remains selection rest)
      {minRow : Int}
      (hAbove : rest.first.row < minRow)
      (hBelow : minRow ≤ rest.past.row)
      (hCut : rest.cut? minRow = some left) :
      Remains selection left

section

variable {selection rest left : Selection}

theorem Remains.trans
    (hFirst : selection.Remains rest)
    (hSecond : rest.Remains left) :
    selection.Remains left := by
  induction hSecond with
  | same => exact hFirst
  | move _ delta hBefore => exact hBefore.move delta
  | cut _ hAbove hBelow hCut hBefore =>
      exact hBefore.cut hAbove hBelow hCut

/- The kind of a selection stays the same. -/
theorem Remains.kind_eq
    (hRemains : selection.Remains rest) :
    rest.mode = selection.mode ∧
      rest.snap = selection.snap ∧
      rest.screen = selection.screen := by
  induction hRemains with
  | same => exact ⟨rfl, rfl, rfl⟩
  | move _ _ hBefore => exact hBefore
  | cut _ _ _ hCut hBefore =>
      unfold cut? at hCut
      rcases Option.ite_none_left_eq_some.mp hCut with
        ⟨_, hLeft⟩
      cases hLeft
      exact hBefore

------------------------------------------------------------
-- Rows in Words
------------------------------------------------------------

/-
  The rows of a selection and of its points are numbers that
  words have room for, also when it has moved up by as many
  rows as a screen can have.
-/
def InWords
    (selection : Selection) : Prop :=
  selection.Spans (-2 ^ 62) (2 ^ 63 - 1)

theorem Spans.moveBy
    {low high delta low' high' : Int}
    (hSpans : selection.Spans low high)
    (hLow : low' ≤ selection.first.row + delta)
    (hHigh : selection.past.row + delta ≤ high') :
    (selection.moveBy delta).Spans low' high' where
  low_le := hLow
  first_le := Int.add_le_add_right hSpans.first_le delta
  anchor_le := Int.add_le_add_right hSpans.anchor_le delta
  past_le := hHigh
  first_le_current :=
    Int.add_le_add_right hSpans.first_le_current delta
  current_le := Int.add_le_add_right hSpans.current_le delta

theorem Spans.cut?
    {low high minRow : Int}
    (hSpans : selection.Spans low high)
    (hPast : minRow ≤ selection.past.row)
    (hCut : selection.cut? minRow = some rest) :
    rest.Spans minRow high := by
  have hLies := hSpans.toLies.cut? hPast hCut
  have hCurrent := hSpans.current_le
  unfold Selection.cut? at hCut
  rcases Option.ite_none_left_eq_some.mp hCut with ⟨_, hRest⟩
  cases hRest
  refine ⟨hLies, ?_, ?_⟩
  · show minRow ≤ (cutPoint _ selection.current).row
    rw [row_cutPoint]
    exact Int.le_max_left _ _
  · show (cutPoint _ selection.current).row ≤ _
    rw [row_cutPoint]
    exact Int.max_le.mpr ⟨hPast, hCurrent⟩

theorem Spans.shift_eq_moveBy
    {low high delta : Int}
    (hSpans : selection.Spans low high)
    (hFirst : -2 ^ 63 ≤ selection.first.row + delta)
    (hPast : selection.past.row + delta < 2 ^ 63) :
    selection.shift delta = selection.moveBy delta := by
  have hOrder :=
    Int.le_trans hSpans.first_le hSpans.anchor_le
  unfold Selection.shift Selection.moveBy
  rw [shift_eq_moveBy_of_between hFirst hPast hSpans.first_le
      hSpans.anchor_le,
    shift_eq_moveBy_of_between hFirst hPast
      hSpans.first_le_current hSpans.current_le,
    shift_eq_moveBy_of_between hFirst hPast (Int.le_refl _)
      hOrder,
    shift_eq_moveBy_of_between hFirst hPast hOrder
      (Int.le_refl _)]

section

variable {delta : Int}
  (hWords : selection.InWords)
  (hDelta : -2 ^ 62 ≤ delta ∧ delta ≤ 2 ^ 62)
  {screen : Screen}

include hWords hDelta

/-
  A last row that the word has no room for becomes one above
  all others, and the selection is dropped.
-/
theorem InWords.historyScrolled?
    {minRow maxRow : Int}
    (hMin : -2 ^ 62 ≤ minRow)
    (hRest :
      selection.historyScrolled? delta minRow maxRow screen =
        some rest) :
    selection.Remains rest ∧ rest.InWords := by
  have hLow := hWords.low_le
  have hHigh := hWords.past_le
  unfold Selection.historyScrolled? at hRest
  split at hRest
  · cases hRest
    exact ⟨.same, hWords⟩
  · dsimp only at hRest
    rcases Option.ite_none_left_eq_some.mp hRest with
      ⟨hInside, hMoved⟩
    have hRoom : selection.past.row + delta < 2 ^ 63 := by
      apply Decidable.byContradiction
      intro hBeyond
      apply hInside
      left
      show Word.signed (selection.past.row + delta) < minRow
      rw [Word.signed_of_le (by omega) (by omega)]
      omega
    rw [hWords.shift_eq_moveBy (by omega) hRoom]
      at hInside hMoved
    change
      ¬(selection.past.row + delta < minRow ∨
        maxRow < selection.past.row + delta) at hInside
    change
      (if selection.first.row + delta < minRow then _
        else _) = _ at hMoved
    have hShifted :
        selection.Remains (selection.moveBy delta) :=
      Remains.same.move delta
    split at hMoved
    · rename_i hAbove
      have hMovedSpans :
          (selection.moveBy delta).Spans
            (selection.first.row + delta) (2 ^ 63 - 1) :=
        hWords.moveBy (Int.le_refl _) (by omega)
      have hBelow :
          minRow ≤ (selection.moveBy delta).past.row := by
        show minRow ≤ selection.past.row + delta
        omega
      have hLeft := hMovedSpans.cut? hBelow hMoved
      have hKept : rest.InWords :=
        { hLeft with
          low_le := Int.le_trans hMin hLeft.low_le }
      exact ⟨hShifted.cut hAbove hBelow hMoved, hKept⟩
    · cases hMoved
      exact ⟨hShifted, hWords.moveBy (by omega) (by omega)⟩

theorem InWords.regionScrolled?
    {top bottom : Int}
    (hTop : 0 ≤ top)
    (hBottom : bottom < 2 ^ 62)
    (hRest :
      selection.regionScrolled? top bottom delta screen =
        some rest) :
    selection.Remains rest ∧ rest.InWords := by
  unfold Selection.regionScrolled? at hRest
  split at hRest
  · cases hRest
    exact ⟨.same, hWords⟩
  · split at hRest
    · cases hRest
    · rename_i hSameSide
      rw [Decidable.not_not] at hSameSide
      split at hRest
      · rename_i hFirst
        have hPast := hSameSide.symm.trans hFirst
        unfold rowInside at hFirst hPast
        rw [decide_eq_true_eq] at hFirst hPast
        dsimp only at hRest
        rw [hWords.shift_eq_moveBy (by omega) (by omega)]
          at hRest
        rcases Option.ite_none_left_eq_some.mp hRest with
          ⟨_, hMoved⟩
        cases hMoved
        exact
          ⟨Remains.same.move delta,
            hWords.moveBy (by omega) (by omega)⟩
      · cases hRest
        exact ⟨.same, hWords⟩

end

------------------------------------------------------------
-- Ranges in Order
------------------------------------------------------------

/- The range of a selection begins before it ends. -/
def Ordered
    (selection : Selection) : Prop :=
  match selection.mode with
  | .character => selection.first.Before selection.past
  | .block =>
    selection.first.col < selection.past.col ∧
      selection.first.row ≤ selection.past.row

/-
  A rectangle has its upper row first.  A selection that the
  pointer has released is not empty.
-/
structure Settled
    (selection : Selection) : Prop where
  first_le_past :
    selection.mode = .block →
      selection.first.row ≤ selection.past.row
  isEmpty_eq :
    selection.phase = .ready → selection.isEmpty = false

theorem Settled.ordered
    (hSettled : selection.Settled)
    (hReady : selection.phase = .ready) :
    selection.Ordered := by
  have hSome := hSettled.isEmpty_eq hReady
  unfold isEmpty at hSome
  unfold Ordered
  cases hMode : selection.mode with
  | character => simpa [hMode] using hSome
  | block =>
      rw [hMode] at hSome
      exact
        ⟨by simpa using hSome, hSettled.first_le_past hMode⟩

end

------------------------------------------------------------
-- The Pointer
------------------------------------------------------------

section

variable {selection : Selection} (grid : Grid)
  (isDelimiter : Char → Bool) (point : Point)

theorem Settled.finish?
    {finished : Selection}
    (hSettled : selection.Settled)
    (hFinished : selection.finish? = some finished) :
    finished.Settled := by
  unfold Selection.finish? at hFinished
  rcases Option.ite_none_left_eq_some.mp hFinished with
    ⟨hSome, hReady⟩
  cases hReady
  exact
    { first_le_past := hSettled.first_le_past
      isEmpty_eq := fun _ => Bool.eq_false_iff.mpr hSome }

end

end Selection

/- What becomes of a selection when lines scroll. -/
theorem Session.remains_of_followScroll
    {selection rest : Selection}
    {scrolled : Grid}
    {moved origin bottom : Nat}
    {delta : Int}
    {screen : Screen}
    (hWords : selection.InWords)
    (hDelta : -2 ^ 62 ≤ delta ∧ delta ≤ 2 ^ 62)
    (hSize : scrolled.scrollback.size ≤ 2 ^ 62)
    (hBottom : bottom < 2 ^ 62)
    (hRest :
      followScroll selection scrolled moved origin bottom
        delta screen = some rest) :
    selection.Remains rest ∧ rest.InWords := by
  unfold followScroll at hRest
  split at hRest
  · exact hWords.historyScrolled? hDelta (by omega) hRest
  · exact
      hWords.regionScrolled? hDelta (by omega) (by omega)
        hRest

end VideoTerminal
