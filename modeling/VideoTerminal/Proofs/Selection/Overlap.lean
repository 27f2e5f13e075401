import VideoTerminal.Selection.Basic

/-
  The rows and cells of a selection.  A rectangle meets a
  selection exactly if some cell of it is selected, although
  only three of its rows are looked at.

  Main declarations:
    * `Selection.columns`
    * `Selection.rowSpan?_eq_some_iff`
    * `Selection.contains_iff`
    * `Selection.meetsRow_iff`
    * `Selection.overlaps_iff`
-/

namespace VideoTerminal

namespace Selection

section

variable {selection : Selection} {row row' : Int}
  {cols : Nat}

------------------------------------------------------------
-- Selected Columns
------------------------------------------------------------

/- The columns of a row between the ends of a selection. -/
def columns
    (selection : Selection)
    (row : Int)
    (cols : Nat) : Nat × Nat :=
  match selection.mode with
  | .block => (selection.first.col, selection.past.col)
  | .character =>
    (if row = selection.first.row then
        selection.first.col
      else
        0,
      if row = selection.past.row then
        selection.past.col
      else
        cols)

/- The columns are cut at the right edge of the screen. -/
theorem rowSpan?_eq
    (selection : Selection)
    (row : Int)
    (cols : Nat) :
    selection.rowSpan? row cols =
      if (selection.first.row ≤ row ∧
            row ≤ selection.past.row) ∧
          (selection.columns row cols).1 <
            min (selection.columns row cols).2 cols then
        some
          ((selection.columns row cols).1,
            min (selection.columns row cols).2 cols)
      else
        none := by
  unfold rowSpan?
  by_cases hRow :
      row < selection.first.row ∨ selection.past.row < row
  · rw [if_pos hRow, if_neg (by omega)]
  · rw [if_neg hRow]
    have hWithin :
        selection.first.row ≤ row ∧
          row ≤ selection.past.row := by
      omega
    simp only [hWithin, and_self, true_and]
    rfl

theorem rowSpan?_eq_some_iff
    {span : Nat × Nat} :
    selection.rowSpan? row cols = some span ↔
      (selection.first.row ≤ row ∧
          row ≤ selection.past.row) ∧
        span.1 < span.2 ∧
        span =
          ((selection.columns row cols).1,
            min (selection.columns row cols).2 cols) := by
  rw [rowSpan?_eq]
  constructor
  · intro hSpan
    split at hSpan
    · rename_i hSome
      cases hSpan
      exact ⟨hSome.1, hSome.2, rfl⟩
    · cases hSpan
  · rintro ⟨hWithin, hLt, rfl⟩
    exact if_pos ⟨hWithin, hLt⟩

/- A cell is selected if its column is one of its row's. -/
theorem contains_iff
    {point : Point} :
    selection.contains point selection.screen cols ↔
      ∃ span,
        selection.rowSpan? point.row cols = some span ∧
          span.1 ≤ point.col ∧ point.col < span.2 := by
  unfold contains
  rw [beq_self_eq_true, Bool.true_and, Option.any_eq_true]
  simp only [decide_eq_true_eq]

/- All rows between the first and the last are alike. -/
theorem rowSpan?_inner
    (hFirst : selection.first.row < row)
    (hLast : row < selection.past.row)
    (hFirst' : selection.first.row < row')
    (hLast' : row' < selection.past.row) :
    selection.rowSpan? row cols =
      selection.rowSpan? row' cols := by
  have hColumns :
      selection.columns row cols =
        selection.columns row' cols := by
    unfold columns
    rw [if_neg (by omega), if_neg (by omega),
      if_neg (by omega), if_neg (by omega)]
  have hWithin :
      (selection.first.row ≤ row ∧
          row ≤ selection.past.row) ↔
        (selection.first.row ≤ row' ∧
          row' ≤ selection.past.row) := by
    omega
  rw [rowSpan?_eq, rowSpan?_eq, hColumns]
  simp only [hWithin]

------------------------------------------------------------
-- Rectangles
------------------------------------------------------------

variable {x₁ x₂ : Nat} {y₁ y₂ : Int}

theorem meetsRow_iff
    (hColumns : x₁ ≤ x₂) :
    selection.meetsRow x₁ x₂ cols row ↔
      ∃ col,
        x₁ ≤ col ∧ col ≤ x₂ ∧
          selection.contains ⟨col, row⟩ selection.screen
            cols := by
  unfold meetsRow
  rw [Option.any_eq_true]
  simp only [decide_eq_true_eq, contains_iff]
  constructor
  · rintro ⟨span, hSpan, hLeft, hRight⟩
    have hLt := (rowSpan?_eq_some_iff.mp hSpan).2.1
    exact
      ⟨max x₁ span.1, by omega, by omega, span, hSpan,
        by omega, by omega⟩
  · rintro ⟨col, hFirst, hLast, span, hSpan, hLeft, hRight⟩
    exact ⟨span, hSpan, by omega, by omega⟩

/- The rows that are looked at stand for all others. -/
theorem overlaps_iff
    (hColumns : x₁ ≤ x₂) :
    selection.overlaps x₁ y₁ x₂ y₂ cols ↔
      ∃ point : Point,
        (x₁ ≤ point.col ∧ point.col ≤ x₂) ∧
          (y₁ ≤ point.row ∧ point.row ≤ y₂) ∧
          selection.contains point selection.screen cols := by
  unfold overlaps
  dsimp only
  rw [Bool.and_eq_true, decide_eq_true_eq, List.any_eq_true]
  simp only [meetsRow_iff hColumns]
  constructor
  · rintro ⟨hRows, row, hRow, col, hFirst, hLast, hHere⟩
    refine
      ⟨⟨col, row⟩, ⟨hFirst, hLast⟩, ?_, hHere⟩
    simp only [List.mem_cons, List.not_mem_nil,
      or_false] at hRow
    show y₁ ≤ row ∧ row ≤ y₂
    omega
  · rintro
      ⟨⟨col, row⟩, ⟨hFirst, hLast⟩, ⟨hTop, hBottom⟩, hHere⟩
    dsimp only at hFirst hLast hTop hBottom
    rcases contains_iff.mp hHere with
      ⟨span, hSpan, hLeft, hRight⟩
    have hWithin := (rowSpan?_eq_some_iff.mp hSpan).1
    dsimp only at hWithin
    refine ⟨by omega, ?_⟩
    have hSame :
        ∀ row',
          selection.rowSpan? row cols =
              selection.rowSpan? row' cols →
            ∃ col,
              x₁ ≤ col ∧ col ≤ x₂ ∧
                selection.contains ⟨col, row'⟩
                  selection.screen cols := by
      intro row' hEq
      refine ⟨col, hFirst, hLast, ?_⟩
      exact
        contains_iff.mpr
          ⟨span, hEq.symm.trans hSpan, hLeft, hRight⟩
    -- The row is one of the three, or like the second of them.
    by_cases hIsTop : row = max y₁ selection.first.row
    · exact ⟨_, List.mem_cons_self, hSame _ (by rw [hIsTop])⟩
    · by_cases hIsBottom : row = min y₂ selection.past.row
      · refine ⟨_, ?_, hSame _ (by rw [hIsBottom])⟩
        simp
      · refine
          ⟨min (max y₁ selection.first.row + 1)
              (min y₂ selection.past.row),
            by simp, hSame _ ?_⟩
        apply rowSpan?_inner
        all_goals omega

end

end Selection

end VideoTerminal
