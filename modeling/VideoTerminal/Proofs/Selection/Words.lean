import VideoTerminal.Proofs.Grid.Cells
import VideoTerminal.Proofs.Selection.Overlap
import VideoTerminal.Proofs.Terminal.Reachable
import VideoTerminal.Text.Linked

/-
  The word that a selection grows to.  It goes on across the
  ends of lines that are soft-wrapped, as far as there are
  cells that do not delimit words, and no further.

  Main declarations:
    * `Grid.Adjoins`
    * `Grid.InWord`
    * `Grid.Delimits`
    * `Grid.WordBetween`
    * `Selection.SelectsWord`
    * `Selection.begin_selects_word`
-/

namespace VideoTerminal

theorem Point.not_before_self
    (p : Point) :
    ¬p.Before p := by
  unfold Before
  omega

/- Reading order is one of all points. -/
theorem Point.eq_of_not_before
    {p q : Point}
    (hFirst : ¬p.Before q)
    (hSecond : ¬q.Before p) :
    p = q := by
  rcases p with ⟨col, row⟩
  rcases q with ⟨col', row'⟩
  unfold Point.Before at hFirst hSecond
  dsimp only at hFirst hSecond
  rw [Point.mk.injEq]
  omega

namespace Grid

------------------------------------------------------------
-- Cells That Adjoin
------------------------------------------------------------

/-
  A cell comes right after another one in reading order, with
  no hard line end between the two.
-/
inductive Adjoins
    (grid : Grid) :
    Point → Point → Prop where
  | inRow
      {col : Nat}
      {row : Int}
      (hCol : col + 1 < grid.cols) :
      Adjoins grid ⟨col, row⟩ ⟨col + 1, row⟩
  | acrossRows
      {col : Nat}
      {row : Int}
      (hLast : col + 1 = grid.cols)
      (hWrapped : grid.isWrappedAt row)
      (hNext : (grid.lineAt? (row + 1)).isSome) :
      Adjoins grid ⟨col, row⟩ ⟨0, row + 1⟩

section

variable {grid : Grid} {p q r : Point}

theorem previousPoint?_eq_some_iff
    (hCol : q.col < grid.cols)
    (hLine : (grid.lineAt? q.row).isSome) :
    grid.previousPoint? q = some p ↔ grid.Adjoins p q := by
  rcases q with ⟨col, row⟩
  unfold previousPoint?
  constructor
  · intro hBefore
    split at hBefore
    · rename_i hPos
      cases hBefore
      dsimp only at hCol hPos ⊢
      obtain ⟨left, rfl⟩ := Nat.exists_eq_succ_of_ne_zero
        (Nat.pos_iff_ne_zero.mp hPos)
      exact .inRow hCol
    · rename_i hZero
      split at hBefore
      · rename_i hWrapped
        cases hBefore
        dsimp only at hCol hZero hWrapped hLine ⊢
        have hAbove : row - 1 + 1 = row := by omega
        have hAcross :
            grid.Adjoins ⟨grid.cols - 1, row - 1⟩
              ⟨0, row - 1 + 1⟩ :=
          .acrossRows (by omega) hWrapped
            (hAbove.symm ▸ hLine)
        rw [hAbove] at hAcross
        rwa [Nat.eq_zero_of_not_pos hZero]
      · cases hBefore
  · intro hAdjoins
    cases hAdjoins with
    | inRow _ => rfl
    | @acrossRows col row hLast hWrapped _ =>
        have hBelow : row + 1 - 1 = row := by omega
        dsimp only
        rw [if_neg (Nat.lt_irrefl 0), hBelow, if_pos hWrapped,
          ← hLast]
        rfl

theorem nextPoint?_eq_some_iff
    (hCol : p.col < grid.cols) :
    grid.nextPoint? p = some q ↔ grid.Adjoins p q := by
  rcases p with ⟨col, row⟩
  unfold nextPoint?
  constructor
  · intro hAfter
    split at hAfter
    · rename_i hInside
      cases hAfter
      exact .inRow hInside
    · rename_i hEdge
      split at hAfter
      · rename_i hBelow
        cases hAfter
        dsimp only at hCol hEdge hBelow
        exact .acrossRows (by omega) hBelow.1 hBelow.2
      · cases hAfter
  · intro hAdjoins
    cases hAdjoins with
    | inRow hInside => exact if_pos hInside
    | acrossRows hLast hWrapped hNext =>
        dsimp only
        rw [if_neg (by omega), if_pos ⟨hWrapped, hNext⟩]

/- Nothing comes between cells that adjoin. -/
theorem Adjoins.before_of_before
    (hAdjoins : grid.Adjoins p q)
    (hCol : r.col < grid.cols)
    (hAfter : p.Before r) :
    ¬r.Before q := by
  unfold Point.Before at hAfter ⊢
  cases hAdjoins with
  | inRow _ =>
      dsimp only at hAfter ⊢
      omega
  | acrossRows hLast _ _ =>
      dsimp only at hAfter ⊢
      omega

theorem Adjoins.before
    (hAdjoins : grid.Adjoins p q) :
    p.Before q := by
  unfold Point.Before
  cases hAdjoins with
  | inRow _ =>
      dsimp only
      omega
  | acrossRows _ _ _ =>
      dsimp only
      omega

theorem Adjoins.col_lt
    (hAdjoins : grid.Adjoins p q) :
    p.col < grid.cols ∧ q.col < grid.cols := by
  cases hAdjoins with
  | inRow _ =>
      dsimp only
      omega
  | acrossRows _ _ _ =>
      dsimp only
      omega

/- What comes before a cell is a cell. -/
theorem Adjoins.isSome_left
    (hAdjoins : grid.Adjoins p q)
    (hGrid : grid.FitsWidth)
    (hCell : (grid.cellAt? q).isSome) :
    (grid.cellAt? p).isSome := by
  have hLine := (hGrid.cellAt?_isSome_iff.mp hCell).1
  refine
    hGrid.cellAt?_isSome_iff.mpr ⟨?_, hAdjoins.col_lt.1⟩
  cases hAdjoins with
  | inRow _ => exact hLine
  | acrossRows _ hWrapped _ =>
      exact lineAt?_isSome_of_isWrappedAt hWrapped

/- What comes after a cell is a cell. -/
theorem Adjoins.isSome_right
    (hAdjoins : grid.Adjoins p q)
    (hGrid : grid.FitsWidth)
    (hCell : (grid.cellAt? p).isSome) :
    (grid.cellAt? q).isSome := by
  have hLine := (hGrid.cellAt?_isSome_iff.mp hCell).1
  refine
    hGrid.cellAt?_isSome_iff.mpr ⟨?_, hAdjoins.col_lt.2⟩
  cases hAdjoins with
  | inRow _ => exact hLine
  | acrossRows _ _ hNext => exact hNext

end

------------------------------------------------------------
-- Words
------------------------------------------------------------

section

variable (grid : Grid) (isDelimiter : Char → Bool)

/-
  A cell is part of a word.  The second half of a wide
  character goes with the first one.
-/
def InWord
    (point : Point) : Prop :=
  ∃ cell ∈ grid.cellAt? point,
    cell.placeholder ∨ isDelimiter cell.char = false

/- A cell holds a character that separates words. -/
def Delimits
    (point : Point) : Prop :=
  ∃ cell ∈ grid.cellAt? point,
    cell.placeholder = false ∧ isDelimiter cell.char

/-
  The cells from one to another are part of a word, and no
  hard line end is between them.
-/
structure WordBetween
    (first last : Point) : Prop where
  first_col : first.col < grid.cols
  last_col : last.col < grid.cols
  ordered : ¬last.Before first
  inWord :
    ∀ point : Point,
      point.col < grid.cols →
        ¬point.Before first →
          ¬last.Before point →
            grid.InWord isDelimiter point
  wrapped :
    ∀ row,
      first.row ≤ row →
        row < last.row → grid.isWrappedAt row

end

section

variable {grid : Grid} {isDelimiter : Char → Bool}
  {p q r : Point}

/- No cell is part of a word and separates words. -/
theorem not_inWord_of_delimits
    (hDelimits : grid.Delimits isDelimiter p) :
    ¬grid.InWord isDelimiter p := by
  rintro ⟨cell, hCell, hWord⟩
  rcases hDelimits with ⟨other, hOther, hPlain, hSeparates⟩
  cases Option.mem_unique hCell hOther
  rw [hPlain, hSeparates] at hWord
  simp at hWord

/- But every cell does one of the two. -/
theorem delimits_of_not_inWord
    (hSome : (grid.cellAt? p).isSome)
    (hNot : ¬grid.InWord isDelimiter p) :
    grid.Delimits isDelimiter p := by
  rcases Option.isSome_iff_exists.mp hSome with ⟨cell, hCell⟩
  refine ⟨cell, hCell, ?_, ?_⟩
  · apply Bool.eq_false_iff.mpr
    exact fun hPlaceholder =>
      hNot ⟨cell, hCell, Or.inl hPlaceholder⟩
  · apply eq_true_of_ne_false
    exact fun hOther => hNot ⟨cell, hCell, Or.inr hOther⟩

theorem InWord.isSome
    (hWord : grid.InWord isDelimiter p) :
    (grid.cellAt? p).isSome := by
  rcases hWord with ⟨cell, hCell, _⟩
  exact Option.isSome_iff_exists.mpr ⟨cell, hCell⟩

/- Where NUL is no delimiter, a placeholder is none. -/
theorem isWordAt_iff
    (hNul : isDelimiter '\x00' = false) :
    grid.isWordAt isDelimiter p ↔
      grid.InWord isDelimiter p := by
  have hChar :
      grid.charAt? p =
        (grid.cellAt? p).map fun cell =>
          if cell.placeholder then '\x00' else cell.char :=
    rfl
  unfold isWordAt InWord
  rw [hChar, Option.any_map, Option.any_eq_true]
  apply exists_congr
  intro cell
  apply and_congr_right
  intro _
  cases cell.placeholder with
  | true => simp [hNul]
  | false => simp

theorem wordBetween_single
    (hCol : p.col < grid.cols)
    (hWord : grid.InWord isDelimiter p) :
    grid.WordBetween isDelimiter p p where
  first_col := hCol
  last_col := hCol
  ordered := p.not_before_self
  inWord := by
    intro point _ hFrom hTo
    rw [Point.eq_of_not_before hFrom hTo]
    exact hWord
  wrapped := by
    intro row hFrom hTo
    omega

theorem wordBetween_of_adjoins
    (hAdjoins : grid.Adjoins p q)
    (hFirst : grid.InWord isDelimiter p)
    (hSecond : grid.InWord isDelimiter q) :
    grid.WordBetween isDelimiter p q where
  first_col := hAdjoins.col_lt.1
  last_col := hAdjoins.col_lt.2
  ordered := by
    have hBefore := hAdjoins.before
    unfold Point.Before at hBefore ⊢
    omega
  inWord := by
    intro point hCol hFrom hTo
    by_cases hAfter : p.Before point
    · exact
        (wordBetween_single hAdjoins.col_lt.2 hSecond).inWord
          point hCol (hAdjoins.before_of_before hCol hAfter) hTo
    · exact
        (wordBetween_single hAdjoins.col_lt.1 hFirst).inWord
          point hCol hFrom hAfter
  wrapped := by
    intro row hFrom hTo
    cases hAdjoins with
    | inRow _ =>
        dsimp only at hFrom hTo
        omega
    | @acrossRows col above _ hWrapped _ =>
        dsimp only at hFrom hTo
        have hRow : row = above := by omega
        exact hRow ▸ hWrapped

/- Two parts of a word that meet in a cell make up one. -/
theorem WordBetween.join
    (hBack : grid.WordBetween isDelimiter p q)
    (hOn : grid.WordBetween isDelimiter q r) :
    grid.WordBetween isDelimiter p r where
  first_col := hBack.first_col
  last_col := hOn.last_col
  ordered := by
    have hFirst := hBack.ordered
    have hSecond := hOn.ordered
    unfold Point.Before at hFirst hSecond ⊢
    omega
  inWord := by
    intro point hCol hFrom hTo
    by_cases hAfter : q.Before point
    · refine hOn.inWord point hCol ?_ hTo
      unfold Point.Before at hAfter ⊢
      omega
    · exact hBack.inWord point hCol hFrom hAfter
  wrapped := by
    intro row hFrom hTo
    by_cases hRow : row < q.row
    · exact hBack.wrapped row hFrom hRow
    · exact hOn.wrapped row (Int.not_lt.mp hRow) hTo

------------------------------------------------------------
-- Walking
------------------------------------------------------------

variable (hGrid : grid.FitsWidth)
  (hNul : isDelimiter '\x00' = false)
  (hWord : grid.InWord isDelimiter p)

include hGrid hNul hWord

/- Walking back reaches the first cell of a word. -/
theorem wordBetween_walkBack :
    grid.WordBetween isDelimiter
        (grid.walkBack isDelimiter p) p ∧
      ∀ before,
        grid.Adjoins before (grid.walkBack isDelimiter p) →
          ¬grid.InWord isDelimiter before := by
  have hHere := hGrid.cellAt?_isSome_iff.mp hWord.isSome
  -- Each step puts one more cell in front of the walk's end.
  fun_induction Grid.walkBack grid isDelimiter p with
  | case1 p hNone =>
      refine ⟨wordBetween_single hHere.2 hWord, ?_⟩
      intro before hAdjoins
      rw [(previousPoint?_eq_some_iff hHere.2 hHere.1).mpr
        hAdjoins] at hNone
      cases hNone
  | case2 p before hBefore hMore hRest =>
      have hAdjoins :=
        (previousPoint?_eq_some_iff hHere.2 hHere.1).mp hBefore
      have hThere := (isWordAt_iff hNul).mp hMore
      rcases hRest hThere
          (hGrid.cellAt?_isSome_iff.mp hThere.isSome) with
        ⟨hBack, hStops⟩
      exact
        ⟨hBack.join
            (wordBetween_of_adjoins hAdjoins hThere hWord),
          hStops⟩
  | case3 p before hBefore hEnd =>
      refine ⟨wordBetween_single hHere.2 hWord, ?_⟩
      intro other hAdjoins
      rw [(previousPoint?_eq_some_iff hHere.2 hHere.1).mpr
        hAdjoins] at hBefore
      cases hBefore
      rwa [isWordAt_iff hNul] at hEnd

/- Walking on reaches the last cell of a word. -/
theorem wordBetween_walkOn :
    grid.WordBetween isDelimiter p
        (grid.walkOn isDelimiter p) ∧
      ∀ after,
        grid.Adjoins (grid.walkOn isDelimiter p) after →
          ¬grid.InWord isDelimiter after := by
  have hHere := hGrid.cellAt?_isSome_iff.mp hWord.isSome
  fun_induction Grid.walkOn grid isDelimiter p with
  | case1 p hNone =>
      refine ⟨wordBetween_single hHere.2 hWord, ?_⟩
      intro after hAdjoins
      rw [(nextPoint?_eq_some_iff hHere.2).mpr hAdjoins]
        at hNone
      cases hNone
  | case2 p after hAfter hMore hRest =>
      have hAdjoins :=
        (nextPoint?_eq_some_iff hHere.2).mp hAfter
      have hThere := (isWordAt_iff hNul).mp hMore
      rcases hRest hThere
          (hGrid.cellAt?_isSome_iff.mp hThere.isSome) with
        ⟨hOn, hStops⟩
      exact
        ⟨(wordBetween_of_adjoins hAdjoins hWord hThere).join
            hOn,
          hStops⟩
  | case3 p after hAfter hEnd =>
      refine ⟨wordBetween_single hHere.2 hWord, ?_⟩
      intro other hAdjoins
      rw [(nextPoint?_eq_some_iff hHere.2).mpr hAdjoins]
        at hAfter
      cases hAfter
      rwa [isWordAt_iff hNul] at hEnd

end

end Grid

namespace Selection

------------------------------------------------------------
-- Selected Words
------------------------------------------------------------

/- The last cell of a selection of text. -/
def lastCell
    (selection : Selection) : Point :=
  ⟨selection.past.col - 1, selection.past.row⟩

/-
  A selection covers the whole word that a cell is part of.
  The word goes on across the ends of lines that are
  soft-wrapped only.  It begins and ends where there is no
  other cell, at a hard line end, or at a delimiter.
-/
structure SelectsWord
    (selection : Selection)
    (grid : Grid)
    (isDelimiter : Char → Bool)
    (point : Point) : Prop where
  contains :
    selection.contains point selection.screen grid.cols
  contains_first :
    selection.contains selection.first selection.screen
      grid.cols
  contains_last :
    selection.contains selection.lastCell selection.screen
      grid.cols
  inWord :
    ∀ other,
      selection.contains other selection.screen grid.cols →
        grid.InWord isDelimiter other
  wrapped :
    ∀ row,
      selection.first.row ≤ row →
        row < selection.past.row → grid.isWrappedAt row
  starts :
    ∀ before,
      grid.Adjoins before selection.first →
        grid.Delimits isDelimiter before
  ends :
    ∀ after,
      grid.Adjoins selection.lastCell after →
        grid.Delimits isDelimiter after

section

variable {selection : Selection} {cols : Nat}
  {last point : Point}

/- Text is selected from its first to its last cell. -/
theorem contains_iff_between
    (hMode : selection.mode = .character)
    (hPast : selection.past = ⟨last.col + 1, last.row⟩)
    (hLast : last.col < cols) :
    selection.contains point selection.screen cols ↔
      point.col < cols ∧
        ¬point.Before selection.first ∧
        ¬last.Before point := by
  have hColumns :
      selection.columns point.row cols =
        (if point.row = selection.first.row then
            selection.first.col
          else
            0,
          if point.row = last.row then
            last.col + 1
          else
            cols) := by
    unfold columns
    rw [hMode, hPast]
  rw [contains_iff]
  simp only [rowSpan?_eq_some_iff, hColumns, hPast]
  unfold Point.Before
  -- The columns of a row depend on its being first or last.
  constructor
  · rintro ⟨_, ⟨hRows, hSome, rfl⟩, hLeft, hRight⟩
    dsimp only at hLeft hRight
    split at hLeft <;> split at hRight <;> omega
  · rintro ⟨hCol, hFrom, hTo⟩
    refine ⟨_, ⟨by omega, ?_, rfl⟩, ?_, ?_⟩
    · dsimp only
      split <;> split <;> omega
    · dsimp only
      split <;> omega
    · dsimp only
      split <;> omega

end

section

variable {grid : Grid} {isDelimiter : Char → Bool}
  {first last point : Point}

/- A word around a cell that nothing continues. -/
theorem selectsWord_of_wordBetween
    {selection : Selection}
    (hMode : selection.mode = .character)
    (hPast : selection.past = ⟨last.col + 1, last.row⟩)
    (hGrid : grid.FitsWidth)
    (hBack :
      grid.WordBetween isDelimiter selection.first point)
    (hOn : grid.WordBetween isDelimiter point last)
    (hStarts :
      ∀ before,
        grid.Adjoins before selection.first →
          ¬grid.InWord isDelimiter before)
    (hEnds :
      ∀ after,
        grid.Adjoins last after →
          ¬grid.InWord isDelimiter after) :
    selection.SelectsWord grid isDelimiter point := by
  have hWord := hBack.join hOn
  have hLast : selection.lastCell = last := by
    unfold lastCell
    rw [hPast]
    rfl
  have hContains :
      ∀ other : Point,
        selection.contains other selection.screen grid.cols ↔
          other.col < grid.cols ∧
            ¬other.Before selection.first ∧
            ¬last.Before other :=
    fun _ => contains_iff_between hMode hPast hWord.last_col
  have hFirst :
      selection.contains selection.first selection.screen
        grid.cols :=
    (hContains _).mpr
      ⟨hWord.first_col, Point.not_before_self _,
        hWord.ordered⟩
  have hFinal :
      selection.contains last selection.screen grid.cols :=
    (hContains _).mpr
      ⟨hWord.last_col, hWord.ordered,
        Point.not_before_self _⟩
  have hInWord :
      ∀ other,
        selection.contains other selection.screen grid.cols →
          grid.InWord isDelimiter other := by
    intro other hOther
    rcases (hContains other).mp hOther with ⟨hCol, hFrom, hTo⟩
    exact hWord.inWord other hCol hFrom hTo
  exact
    { contains :=
        (hContains point).mpr
          ⟨hBack.last_col, hBack.ordered, hOn.ordered⟩
      contains_first := hFirst
      contains_last := hLast.symm ▸ hFinal
      inWord := hInWord
      wrapped := by
        rw [hPast]
        exact hWord.wrapped
      starts := fun before hAdjoins =>
        Grid.delimits_of_not_inWord
          (hAdjoins.isSome_left hGrid
            (hInWord _ hFirst).isSome)
          (hStarts before hAdjoins)
      ends := by
        rw [hLast]
        exact fun after hAdjoins =>
          Grid.delimits_of_not_inWord
            (hAdjoins.isSome_right hGrid
              (hInWord _ hFinal).isSome)
            (hEnds after hAdjoins) }

------------------------------------------------------------
-- Growing to a Word
------------------------------------------------------------

theorem begin_word
    (grid : Grid)
    (isDelimiter : Char → Bool)
    (point : Point)
    (screen : Screen) :
    Selection.begin grid isDelimiter point .word .character
        screen =
      { phase := .dragging
        mode := .character
        snap := .word
        anchor := point
        current := point
        first := grid.wordStart isDelimiter point
        past :=
          ⟨min (grid.wordEnd isDelimiter point).col grid.cols,
            (grid.wordEnd isDelimiter point).row⟩
        screen := screen } := by
  unfold Selection.begin rangeOf characterRange
  dsimp only
  rw [ite_self]

variable (hGrid : grid.FitsWidth)
  (hNul : isDelimiter '\x00' = false)
  (screen : Screen)

include hGrid hNul

/- On a cell of a word, all of the word is selected. -/
theorem selectsWord_begin
    (hWord : grid.InWord isDelimiter point) :
    (Selection.begin grid isDelimiter point .word .character
      screen).SelectsWord grid isDelimiter point := by
  rcases Grid.wordBetween_walkBack hGrid hNul hWord with
    ⟨hBack, hStarts⟩
  rcases Grid.wordBetween_walkOn hGrid hNul hWord with
    ⟨hOn, hEnds⟩
  have hHere := (Grid.isWordAt_iff hNul).mpr hWord
  have hFirst :
      grid.wordStart isDelimiter point =
        grid.walkBack isDelimiter point :=
    if_pos hHere
  have hPast :
      grid.wordEnd isDelimiter point =
        ⟨(grid.walkOn isDelimiter point).col + 1,
          (grid.walkOn isDelimiter point).row⟩ := by
    unfold Grid.wordEnd
    rw [if_pos hHere]
  rw [begin_word, hFirst, hPast,
    Nat.min_eq_left (Nat.succ_le_of_lt hOn.last_col)]
  exact
    selectsWord_of_wordBetween rfl rfl hGrid hBack hOn hStarts
      hEnds

/- On a delimiter, it is selected alone. -/
theorem contains_begin_of_delimits
    (hDelimits : grid.Delimits isDelimiter point) :
    let selection :=
      Selection.begin grid isDelimiter point .word .character
        screen
    selection.first = point ∧
      selection.past = ⟨point.col + 1, point.row⟩ ∧
        ∀ other,
          selection.contains other screen grid.cols ↔
            other = point := by
  have hNot : ¬grid.isWordAt isDelimiter point := by
    rw [Grid.isWordAt_iff hNul]
    exact Grid.not_inWord_of_delimits hDelimits
  have hFirst : grid.wordStart isDelimiter point = point :=
    if_neg hNot
  have hPast :
      grid.wordEnd isDelimiter point =
        ⟨point.col + 1, point.row⟩ := by
    unfold Grid.wordEnd
    rw [if_neg hNot]
  rcases hDelimits with ⟨cell, hCell, _⟩
  have hCol :=
    (hGrid.cellAt?_isSome_iff.mp
      (Option.isSome_iff_exists.mpr ⟨cell, hCell⟩)).2
  rw [begin_word, hFirst, hPast,
    Nat.min_eq_left (Nat.succ_le_of_lt hCol)]
  refine ⟨rfl, rfl, fun other => ?_⟩
  rw [contains_iff_between rfl rfl hCol]
  constructor
  · rintro ⟨_, hFrom, hTo⟩
    exact Point.eq_of_not_before hFrom hTo
  · rintro rfl
    exact
      ⟨hCol, Point.not_before_self _, Point.not_before_self _⟩

/-
  A selection that begins on a cell of a word, and grows to
  words, covers all of that one.  On a cell that delimits
  words, it covers that cell alone.
-/
theorem begin_selects_word
    {cell : Cell}
    (hCell : grid.cellAt? point = some cell) :
    let selection :=
      Selection.begin grid isDelimiter point .word .character
        screen
    ((cell.placeholder ∨ isDelimiter cell.char = false) →
        selection.SelectsWord grid isDelimiter point) ∧
      (cell.placeholder = false →
        isDelimiter cell.char →
          selection.first = point ∧
            selection.past = ⟨point.col + 1, point.row⟩ ∧
              ∀ other,
                selection.contains other screen grid.cols ↔
                  other = point) := by
  constructor
  · intro hWord
    exact
      selectsWord_begin hGrid hNul screen ⟨cell, hCell, hWord⟩
  · intro hPlain hSeparates
    exact
      contains_begin_of_delimits hGrid hNul screen
        ⟨cell, hCell, hPlain, hSeparates⟩

end

/-
  A word that is soft-wrapped twice.  It begins in the history
  and has a wide character on the screen.
-/
def wordAcrossRows : Terminal :=
  (Terminal.createRaised 4 2).performAll
    [.process (Utf8.ofString "x ab世cde f")]

/- All of it is selected from the wide character on. -/
theorem begin_selects_word_acrossRows :
    let grid := wordAcrossRows.session.primary
    grid.isWrappedAt (-1) ∧
      grid.isWrappedAt 0 ∧
        grid.cellAt? ⟨1, 0⟩ =
            some { Cell.default with placeholder := true } ∧
          (Selection.begin grid Config.default.isDelimiter
              ⟨1, 0⟩ .word .character .primary).SelectsWord
            grid Config.default.isDelimiter ⟨1, 0⟩ := by
  have hReachable : Terminal.Reachable wordAcrossRows :=
    (Terminal.Reachable.createRaised 4 2).performAll _
  rcases hReachable.wellFormed with
    ⟨config, cols, rows, hWellFormed⟩
  have hCell :
      wordAcrossRows.session.primary.cellAt? ⟨1, 0⟩ =
        some { Cell.default with placeholder := true } := by
    decide +kernel
  have hFirst :
      wordAcrossRows.session.primary.isWrappedAt (-1) := by
    decide +kernel
  have hSecond :
      wordAcrossRows.session.primary.isWrappedAt 0 := by
    decide +kernel
  have hWord :=
    begin_selects_word
      hWellFormed.session.primary.fitsWidth
      (show Config.default.isDelimiter '\x00' = false by decide)
      .primary hCell
  exact ⟨hFirst, hSecond, hCell, hWord.1 (Or.inl rfl)⟩

end Selection

end VideoTerminal
