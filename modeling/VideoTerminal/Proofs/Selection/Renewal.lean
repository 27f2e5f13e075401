import VideoTerminal.Proofs.Selection.Remains

/-
  A selection and the points of the pointer that it has been
  made from.  The two go together when lines scroll, and also
  when a selection is cut, but for a rectangle that the
  pointer holds at its right corner above: the cut takes that
  corner to the left side.

  Main declarations:
    * `Selection.Renews`
    * `Selection.renews_iff`
    * `Selection.UpperRight`
    * `Selection.Strays`
    * `Selection.Remains.matches_or_strays`
-/

namespace VideoTerminal

namespace Selection

------------------------------------------------------------
-- Ranges From Points
------------------------------------------------------------

/- The range between two points that does not grow. -/
def spanned
    (mode : SelectionMode)
    (cols : Nat)
    (p q : Point) : Point × Point :=
  match mode with
  | .block => blockRange p q
  | .character =>
    if q.Before p then
      (q, ⟨min p.col cols, p.row⟩)
    else
      (p, ⟨min q.col cols, q.row⟩)

theorem rangeOf_none
    (grid : Grid)
    (isDelimiter : Char → Bool)
    (mode : SelectionMode)
    (p q : Point) :
    rangeOf grid isDelimiter mode .none p q =
      spanned mode grid.cols p q := by
  cases mode with
  | block => rfl
  | character =>
      unfold rangeOf spanned characterRange
      dsimp only
      split <;> rfl

section

variable (mode : SelectionMode) (cols : Nat) (p q : Point)

/- It does not matter which of the points comes first. -/
theorem spanned_comm :
    spanned mode cols p q = spanned mode cols q p := by
  rcases p with ⟨x, y⟩
  rcases q with ⟨x', y'⟩
  cases mode with
  | block =>
      simp only [spanned, blockRange, Nat.min_comm,
        Nat.max_comm, Int.min_comm, Int.max_comm]
  | character =>
      simp only [spanned, Point.Before]
      grind

theorem rows_spanned :
    (spanned mode cols p q).1.row = min p.row q.row ∧
      (spanned mode cols p q).2.row = max p.row q.row := by
  cases mode with
  | block => exact ⟨rfl, rfl⟩
  | character =>
      unfold spanned
      dsimp only
      by_cases hSwapped : q.Before p
      · rw [if_pos hSwapped]
        unfold Point.Before at hSwapped
        dsimp only
        omega
      · rw [if_neg hSwapped]
        unfold Point.Before at hSwapped
        dsimp only
        omega

theorem spanned_moveBy
    (delta : Int) :
    spanned mode cols (p.moveBy delta) (q.moveBy delta) =
      ((spanned mode cols p q).1.moveBy delta,
        (spanned mode cols p q).2.moveBy delta) := by
  cases mode with
  | block =>
      simp only [spanned, blockRange, Point.moveBy,
        Prod.mk.injEq, Point.mk.injEq, true_and]
      omega
  | character =>
      have hBefore :
          (q.moveBy delta).Before (p.moveBy delta) ↔
            q.Before p := by
        unfold Point.Before Point.moveBy
        dsimp only
        omega
      simp only [spanned, hBefore]
      split <;> rfl

end

/- Two points that are in order are the ends of text. -/
theorem spanned_character_of_lt
    {p q : Point}
    (hOrder : p.row < q.row ∨ (p.row = q.row ∧ p.col = 0))
    (cols : Nat) :
    spanned .character cols p q =
      (p, ⟨min q.col cols, q.row⟩) := by
  apply if_neg
  unfold Point.Before
  omega

/- Two points that are in order are the ends of a rectangle. -/
theorem spanned_block_of_le
    {p q : Point}
    (hCols : p.col ≤ q.col)
    (hRows : p.row ≤ q.row)
    (cols : Nat) :
    spanned .block cols p q = (p, q) := by
  show
    ((⟨min p.col q.col, min p.row q.row⟩ : Point),
        (⟨max p.col q.col, max p.row q.row⟩ : Point)) =
      (p, q)
  rw [Nat.min_eq_left hCols, Nat.max_eq_right hCols,
    Int.min_eq_left hRows, Int.max_eq_right hRows]

------------------------------------------------------------
-- Ranges That Match
------------------------------------------------------------

/-
  Dragging a selection once more to where the pointer is gives
  the range that it has.
-/
def Renews
    (selection : Selection)
    (grid : Grid)
    (isDelimiter : Char → Bool) : Prop :=
  let again :=
    selection.extend grid isDelimiter selection.current
  again.first = selection.first ∧ again.past = selection.past

instance
    (selection : Selection)
    (grid : Grid)
    (isDelimiter : Char → Bool) :
    Decidable (selection.Renews grid isDelimiter) := by
  unfold Renews
  infer_instance

/- The range of a selection is that of its two points. -/
def Matches
    (selection : Selection)
    (cols : Nat) : Prop :=
  spanned selection.mode cols selection.anchor
      selection.current =
    (selection.first, selection.past)

theorem renews_iff
    {selection : Selection}
    (hSnap : selection.snap = .none)
    (grid : Grid)
    (isDelimiter : Char → Bool) :
    selection.Renews grid isDelimiter ↔
      selection.Matches grid.cols := by
  have hRange :=
    rangeOf_none grid isDelimiter selection.mode
      selection.anchor selection.current
  rw [← hSnap] at hRange
  unfold Matches
  rw [← hRange, Prod.ext_iff]
  rfl

theorem matches_begin
    {snap : Snap}
    (hSnap : snap = .none)
    (grid : Grid)
    (isDelimiter : Char → Bool)
    (point : Point)
    (mode : SelectionMode)
    (screen : Screen) :
    (Selection.begin grid isDelimiter point snap mode
      screen).Matches grid.cols := by
  subst hSnap
  exact (rangeOf_none grid isDelimiter mode point point).symm

theorem matches_extend
    {selection : Selection}
    (hSnap : selection.snap = .none)
    (grid : Grid)
    (isDelimiter : Char → Bool)
    (point : Point) :
    (selection.extend grid isDelimiter point).Matches
      grid.cols := by
  show
    spanned selection.mode grid.cols selection.anchor point =
      rangeOf grid isDelimiter selection.mode selection.snap
        selection.anchor point
  rw [hSnap, rangeOf_none]

------------------------------------------------------------
-- Corners That Are Cut Off
------------------------------------------------------------

/- The rows that a selection has after its first one. -/
def height
    (selection : Selection) : Int :=
  selection.past.row - selection.first.row

/-
  A rectangle is held by its right corner above and its left
  corner below.
-/
def UpperRight
    (selection : Selection) : Prop :=
  selection.mode = .block ∧
    ((selection.anchor.row < selection.current.row ∧
        selection.current.col < selection.anchor.col) ∨
      (selection.current.row < selection.anchor.row ∧
        selection.anchor.col < selection.current.col))

instance
    (selection : Selection) :
    Decidable selection.UpperRight := by
  unfold UpperRight
  infer_instance

/- No point of the pointer is as far right as a rectangle. -/
def Strays
    (selection : Selection) : Prop :=
  selection.mode = .block ∧
    max selection.anchor.col selection.current.col <
      selection.past.col

section

variable {selection rest : Selection} {cols : Nat}

theorem not_upperRight_of_character
    (hMode : selection.mode = .character) :
    ¬selection.UpperRight := by
  rintro ⟨hBlock, _⟩
  rw [hMode] at hBlock
  cases hBlock

theorem Strays.not_matches
    (hStrays : selection.Strays) :
    ¬selection.Matches cols := by
  rcases hStrays with ⟨hBlock, hRight⟩
  intro hMatches
  unfold Matches at hMatches
  rw [hBlock] at hMatches
  have hPast := congrArg (·.2.col) hMatches
  exact absurd hPast (Nat.ne_of_lt hRight)

theorem Matches.moveBy
    (hMatches : selection.Matches cols)
    (delta : Int) :
    (selection.moveBy delta).Matches cols := by
  unfold Matches at hMatches ⊢
  exact
    (spanned_moveBy _ _ _ _ delta).trans
      (hMatches.symm ▸ rfl)

theorem upperRight_moveBy
    (delta : Int) :
    (selection.moveBy delta).UpperRight ↔
      selection.UpperRight := by
  unfold UpperRight Selection.moveBy Point.moveBy
  simp only [Int.add_lt_add_iff_right]

theorem height_moveBy
    (delta : Int) :
    (selection.moveBy delta).height = selection.height := by
  unfold height Selection.moveBy Point.moveBy
  dsimp only
  omega

/- Cutting takes rows away. -/
theorem height_of_cut?
    {minRow : Int}
    (hAbove : selection.first.row < minRow)
    (hCut : selection.cut? minRow = some rest) :
    rest.height < selection.height := by
  rcases of_cut?_eq_some hCut with
    ⟨_, _, hPast, hFirst, _⟩
  unfold height
  rw [hPast, hFirst]
  omega

theorem Remains.height_le
    (hRemains : selection.Remains rest) :
    rest.height ≤ selection.height := by
  induction hRemains with
  | same => exact Int.le_refl _
  | move _ delta hBefore =>
      rw [height_moveBy]
      exact hBefore
  | cut _ hAbove _ hCut hBefore =>
      have hLess := height_of_cut? hAbove hCut
      omega

------------------------------------------------------------
-- Points Above and Below a Cut
------------------------------------------------------------

/- The pointer has been at two points, in either order. -/
def HeldAt
    (selection : Selection)
    (p q : Point) : Prop :=
  (selection.anchor = p ∧ selection.current = q) ∨
    (selection.anchor = q ∧ selection.current = p)

theorem HeldAt.matches_iff
    {p q : Point}
    (hHeld : selection.HeldAt p q) :
    selection.Matches cols ↔
      spanned selection.mode cols p q =
        (selection.first, selection.past) := by
  unfold Matches
  rcases hHeld with ⟨rfl, rfl⟩ | ⟨rfl, rfl⟩
  · exact Iff.rfl
  · rw [spanned_comm]

theorem HeldAt.upperRight_iff
    {p q : Point}
    (hHeld : selection.HeldAt p q)
    (hMode : selection.mode = .block) :
    selection.UpperRight ↔
      (p.row < q.row ∧ q.col < p.col) ∨
        (q.row < p.row ∧ p.col < q.col) := by
  unfold UpperRight
  simp only [hMode, true_and]
  rcases hHeld with ⟨rfl, rfl⟩ | ⟨rfl, rfl⟩
  · exact Iff.rfl
  · exact or_comm

/- One of the points is above the cut, and one below it. -/
theorem Matches.exists_heldAt
    (hMatches : selection.Matches cols)
    {minRow : Int}
    (hAbove : selection.first.row < minRow)
    (hBelow : minRow ≤ selection.past.row) :
    ∃ p q : Point,
      selection.HeldAt p q ∧
        p.row < minRow ∧ minRow ≤ q.row := by
  have hRows :=
    rows_spanned selection.mode cols selection.anchor
      selection.current
  rw [hMatches] at hRows
  dsimp only at hRows
  by_cases hAnchor : selection.anchor.row < minRow
  · exact ⟨_, _, Or.inl ⟨rfl, rfl⟩, hAnchor, by omega⟩
  · exact ⟨_, _, Or.inr ⟨rfl, rfl⟩, by omega, by omega⟩

theorem col_cutPoint
    (oldest point : Point) :
    (cutPoint oldest point).col =
      if point.row < oldest.row then
        oldest.col
      else
        point.col :=
  apply_ite Point.col _ _ _

section

variable {minRow : Int}
  (hCut : selection.cut? minRow = some rest)

include hCut

/- The point above goes to where the selection now begins. -/
theorem HeldAt.cut?
    {p q : Point}
    (hHeld : selection.HeldAt p q)
    (hAbove : p.row < minRow)
    (hBelow : minRow ≤ q.row) :
    rest.HeldAt rest.first q := by
  unfold Selection.cut? at hCut
  rcases Option.ite_none_left_eq_some.mp hCut with
    ⟨_, hRest⟩
  cases hRest
  rcases hHeld with ⟨rfl, rfl⟩ | ⟨rfl, rfl⟩
  · exact
      Or.inl ⟨if_pos hAbove, if_neg (Int.not_lt.mpr hBelow)⟩
  · exact
      Or.inr ⟨if_neg (Int.not_lt.mpr hBelow), if_pos hAbove⟩

/- Neither point gets as far right as it would have to be. -/
theorem Strays.cut?
    (hStrays : selection.Strays) :
    rest.Strays := by
  rcases hStrays with ⟨hBlock, hRight⟩
  unfold Selection.cut? at hCut
  rcases Option.ite_none_left_eq_some.mp hCut with
    ⟨hSome, hRest⟩
  cases hRest
  refine ⟨hBlock, ?_⟩
  simp only [isEmpty, hBlock, decide_eq_true_eq] at hSome
  simp only [hBlock, col_cutPoint]
  split <;> split <;> omega

variable
  (hAbove : selection.first.row < minRow)
  (hBelow : minRow ≤ selection.past.row)
  (hMatches : selection.Matches cols)

include hAbove hBelow hMatches

theorem Matches.cut?_character
    (hMode : selection.mode = .character) :
    rest.Matches cols := by
  rcases hMatches.exists_heldAt hAbove hBelow with
    ⟨p, q, hHeld, hUp, hDown⟩
  rcases of_cut?_eq_some hCut with
    ⟨hKind, _, hPast, hRow, hCol, _⟩
  have hLeft := hHeld.cut? hCut hUp hDown
  have hRange := hHeld.matches_iff.mp hMatches
  have hOrder : p.row < q.row := by omega
  rw [hMode] at hRange hCol
  rw [spanned_character_of_lt (Or.inl hOrder)] at hRange
  dsimp only at hCol
  rw [hLeft.matches_iff, hKind, hMode, hPast,
    spanned_character_of_lt (by omega),
    (Prod.mk.inj hRange).2]

/-
  A rectangle loses its right side where the point that is cut
  off has been on it.
-/
theorem Matches.cut?_block
    (hMode : selection.mode = .block) :
    (¬selection.UpperRight ∧ rest.Matches cols ∧
        ¬rest.UpperRight) ∨
      (selection.UpperRight ∧ rest.Strays) := by
  rcases hMatches.exists_heldAt hAbove hBelow with
    ⟨p, q, hHeld, hUp, hDown⟩
  rcases of_cut?_eq_some hCut with
    ⟨hKind, _, hPast, hRow, hCol, _⟩
  have hLeft := hHeld.cut? hCut hUp hDown
  have hRange := hHeld.matches_iff.mp hMatches
  have hBlock := hKind.trans hMode
  rw [hMode] at hRange hCol
  have hFirstCol : rest.first.col = min p.col q.col :=
    hCol.trans (congrArg (·.1.col) hRange).symm
  have hEnd :
      rest.past = ⟨max p.col q.col, max p.row q.row⟩ :=
    hPast.trans (congrArg Prod.snd hRange).symm
  rw [hHeld.upperRight_iff hMode, hLeft.upperRight_iff hBlock,
    hLeft.matches_iff, hBlock]
  -- The upper point goes to the left side, wherever it was.
  by_cases hSide : q.col < p.col
  · refine Or.inr ⟨by omega, hBlock, ?_⟩
    rw [congrArg Point.col hEnd]
    dsimp only
    rcases hLeft with ⟨hAnchor, hCurrent⟩ | ⟨hAnchor, hCurrent⟩
    · rw [hAnchor, hCurrent]
      omega
    · rw [hAnchor, hCurrent]
      omega
  · refine Or.inl ⟨by omega, ?_, by omega⟩
    rw [spanned_block_of_le (by omega) (by omega), hEnd,
      Nat.max_eq_right (by omega), Int.max_eq_right (by omega)]

theorem Matches.cut? :
    (¬selection.UpperRight ∧ rest.Matches cols ∧
        ¬rest.UpperRight) ∨
      (selection.UpperRight ∧ rest.Strays) := by
  cases hMode : selection.mode with
  | character =>
      have hText := (of_cut?_eq_some hCut).1.trans hMode
      exact
        Or.inl
          ⟨not_upperRight_of_character hMode,
            Matches.cut?_character hCut hAbove hBelow hMatches
              hMode,
            not_upperRight_of_character hText⟩
  | block =>
      exact
        Matches.cut?_block hCut hAbove hBelow hMatches hMode

end

/-
  What is left of a selection goes with its points, unless
  rows have been cut off a rectangle that is held by its right
  corner above.
-/
theorem Remains.matches_or_strays
    (hRemains : selection.Remains rest)
    (hMatches : selection.Matches cols) :
    (¬(selection.UpperRight ∧
          rest.height < selection.height) ∧
        rest.Matches cols ∧
        (rest.UpperRight ↔ selection.UpperRight)) ∨
      (selection.UpperRight ∧
        rest.height < selection.height ∧ rest.Strays) := by
  induction hRemains with
  | same =>
      exact
        Or.inl
          ⟨fun hBoth => Int.lt_irrefl _ hBoth.2, hMatches,
            Iff.rfl⟩
  | move _ delta hBefore =>
      rw [height_moveBy, upperRight_moveBy]
      rcases hBefore with
        ⟨hNot, hThere, hSame⟩ | ⟨hUpper, hLess, hStrays⟩
      · exact Or.inl ⟨hNot, hThere.moveBy delta, hSame⟩
      · exact Or.inr ⟨hUpper, hLess, hStrays⟩
  | cut hRest hAbove hBelow hCut hBefore =>
      -- Once a rectangle has strayed, no cut brings it back.
      have hLess :=
        Int.lt_of_lt_of_le (height_of_cut? hAbove hCut)
          hRest.height_le
      rcases hBefore with
        ⟨_, hThere, hSame⟩ | ⟨hUpper, _, hStrays⟩
      · rcases Matches.cut? hCut hAbove hBelow hThere with
          ⟨hApart, hKept, hStill⟩ | ⟨hUpper, hStrays⟩
        · rw [hSame] at hApart
          exact
            Or.inl
              ⟨fun hBoth => hApart hBoth.1, hKept,
                iff_of_false hStill hApart⟩
        · exact Or.inr ⟨hSame.mp hUpper, hLess, hStrays⟩
      · exact Or.inr ⟨hUpper, hLess, Strays.cut? hCut hStrays⟩

end

end Selection

end VideoTerminal
