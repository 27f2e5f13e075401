import VideoTerminal.Proofs.Line.Edit

/-
  What editing some columns of a line does to the cells of the
  other columns: they keep their characters, but for a wide
  character just before the columns that loses its second half
  to them.

  Main declarations:
    * `Cell.Keeps`
    * `Cell.Cut`
    * `Line.Spares`
    * `Line.WellFormed.spares_eraseSpan`
    * `Line.WellFormed.spares_insertBlanks`
    * `Line.WellFormed.spares_deleteCells`
    * `Line.WellFormed.spares_overwrite`
    * `Line.WellFormed.spares_overwriteWide`
-/

namespace VideoTerminal

------------------------------------------------------------
-- Cells
------------------------------------------------------------

namespace Cell

/- A cell has kept its character, and has not become wide. -/
structure Keeps
    (old new : Cell) : Prop where
  char_eq : new.char = old.char
  wide_of_wide : new.wide → old.wide

/- A wide character has been cut, and a space is left. -/
structure Cut
    (old new : Cell) : Prop where
  wide : old.wide
  char_eq : new.char = ' '
  not_wide : new.wide = false

theorem Keeps.refl
    (cell : Cell) :
    cell.Keeps cell :=
  ⟨rfl, id⟩

section

variable {old edited new : Cell}

theorem Keeps.trans
    (hFirst : old.Keeps edited)
    (hSecond : edited.Keeps new) :
    old.Keeps new :=
  ⟨hSecond.char_eq.trans hFirst.char_eq,
    fun hWide => hFirst.wide_of_wide
      (hSecond.wide_of_wide hWide)⟩

theorem Keeps.trans_cut
    (hFirst : old.Keeps edited)
    (hSecond : edited.Cut new) :
    old.Cut new :=
  ⟨hFirst.wide_of_wide hSecond.wide, hSecond.char_eq,
    hSecond.not_wide⟩

/- Nothing more can be cut from what is left. -/
theorem Cut.trans_keeps
    (hFirst : old.Cut edited)
    (hSecond : edited.Keeps new) :
    old.Cut new := by
  refine
    ⟨hFirst.wide, hSecond.char_eq.trans hFirst.char_eq, ?_⟩
  cases hWide : new.wide with
  | false => rfl
  | true =>
      have hBefore := hSecond.wide_of_wide hWide
      rw [hFirst.not_wide] at hBefore
      cases hBefore

theorem Cut.trans
    (hFirst : old.Cut edited)
    (hSecond : edited.Cut new) :
    old.Cut new :=
  ⟨hFirst.wide, hSecond.char_eq, hSecond.not_wide⟩

end

end Cell

namespace Line

------------------------------------------------------------
-- Cells Outside of Some Columns
------------------------------------------------------------

/-
  A change of the columns `x₁` to `x₂` spares the other ones.
  What it may do to them is to cut a character that reaches
  into the first of its columns.
-/
structure Spares
    (x₁ x₂ : Nat)
    (line edited : Line) : Prop where
  width_eq : edited.width = line.width
  cells :
    ∀ col,
      (col < x₁ ∨ x₂ < col) →
        ∀ old,
          line.get? col = some old →
            ∃ new,
              edited.get? col = some new ∧
                (old.Keeps new ∨
                  (col + 1 = x₁ ∧ old.Cut new))

namespace Spares

variable {x₁ x₂ : Nat} {line edited last : Line}

/- It is enough that the other cells stay the same. -/
theorem of_get?_eq
    (hWidth : edited.width = line.width)
    (hCells :
      ∀ col,
        (col < x₁ ∨ x₂ < col) →
          edited.get? col = line.get? col) :
    Spares x₁ x₂ line edited where
  width_eq := hWidth
  cells := by
    intro col hOutside old hOld
    refine ⟨old, ?_, Or.inl (Cell.Keeps.refl old)⟩
    rw [hCells col hOutside, hOld]

theorem refl
    (x₁ x₂ : Nat)
    (line : Line) :
    Spares x₁ x₂ line line :=
  of_get?_eq rfl fun _ _ => rfl

theorem trans
    (hFirst : Spares x₁ x₂ line edited)
    (hSecond : Spares x₁ x₂ edited last) :
    Spares x₁ x₂ line last where
  width_eq := hSecond.width_eq.trans hFirst.width_eq
  cells := by
    intro col hOutside old hOld
    rcases hFirst.cells col hOutside old hOld with
      ⟨middle, hMiddle, hKept⟩
    rcases hSecond.cells col hOutside middle hMiddle with
      ⟨new, hNew, hLast⟩
    refine ⟨new, hNew, ?_⟩
    rcases hKept with hKept | ⟨hCol, hCut⟩
    · rcases hLast with hLast | ⟨hCol, hLast⟩
      · exact Or.inl (hKept.trans hLast)
      · exact Or.inr ⟨hCol, hKept.trans_cut hLast⟩
    · rcases hLast with hLast | ⟨hCol, hLast⟩
      · exact Or.inr ⟨hCol, hCut.trans_keeps hLast⟩
      · exact Or.inr ⟨hCol, hCut.trans hLast⟩

/- More columns may be counted among those that change. -/
theorem mono_right
    (hSpares : Spares x₁ x₂ line edited)
    {x₃ : Nat}
    (hMore : x₂ ≤ x₃) :
    Spares x₁ x₃ line edited where
  width_eq := hSpares.width_eq
  cells := by
    intro col hOutside
    exact hSpares.cells col (by omega)

end Spares

theorem spares_setWrapped
    (x₁ x₂ : Nat)
    (line : Line)
    (on : Bool) :
    Spares x₁ x₂ line (line.setWrapped on) where
  width_eq := width_setWrapped line on
  cells := by
    intro col _ old hOld
    rw [get?_setWrapped, hOld]
    split
    · exact ⟨_, rfl, Or.inl ⟨rfl, id⟩⟩
    · exact ⟨_, rfl, Or.inl (Cell.Keeps.refl old)⟩

theorem spares_set
    {x₁ x₂ target : Nat}
    (hFirst : x₁ ≤ target)
    (hLast : target ≤ x₂)
    (line : Line)
    (cell : Cell) :
    Spares x₁ x₂ line (line.set target cell) := by
  apply Spares.of_get?_eq (width_set line target cell)
  intro col hOutside
  rw [get?_set, if_neg]
  omega

/- The mark of a soft wrap is kept apart from the cells. -/
theorem spares_keepingWrap
    {x₁ x₂ : Nat}
    {line : Line}
    {change : Line → Line}
    (hChange :
      Spares x₁ x₂ (line.setWrapped false)
        (change (line.setWrapped false))) :
    Spares x₁ x₂ line (line.keepingWrap change) :=
  ((spares_setWrapped x₁ x₂ line false).trans hChange).trans
    (spares_setWrapped x₁ x₂ _ _)

------------------------------------------------------------
-- Wide Characters in Two Halves
------------------------------------------------------------

section

variable {line : Line}

/- The first half of a character is wide. -/
theorem Paired.wide_of_placeholder
    (hLine : line.Paired)
    {col : Nat}
    {lead : Cell}
    (hPlaceholder : line.isPlaceholderAt (col + 1))
    (hLead : line.get? col = some lead) :
    lead.wide := by
  rw [← hLine.wide_eq, isWideAt_eq_markAt,
    markAt_of_get?_eq_some hLead] at hPlaceholder
  exact hPlaceholder

/- The second half of a character shows nothing. -/
theorem PlaceholdersShowNothing.char_eq
    (hLine : line.PlaceholdersShowNothing)
    {col : Nat}
    {second : Cell}
    (hPlaceholder : line.isPlaceholderAt col)
    (hSecond : line.get? col = some second) :
    second.char = ' ' := by
  rw [isPlaceholderAt_eq_markAt,
    markAt_of_get?_eq_some hSecond] at hPlaceholder
  exact
    hLine second (List.mem_of_getElem? hSecond) hPlaceholder

/-
  Taking a character apart spares what is neither of its
  halves.  The halves are where the hypotheses say, which is
  so on a line whose characters are whole, and also after one
  has been taken apart next to it.
-/
theorem spares_breakWideAt
    {x₁ x₂ target : Nat}
    (hFirst : x₁ ≤ target)
    (hLast : target ≤ x₂)
    (hSecond :
      line.isWideAt target →
        ∀ second,
          line.get? (target + 1) = some second →
            second.char = ' ')
    (hLead :
      line.isPlaceholderAt target →
        ∀ col lead,
          col + 1 = target →
            line.get? col = some lead → lead.wide) :
    Spares x₁ x₂ line (line.breakWideAt target) where
  width_eq := width_breakWideAt line target
  cells := by
    intro col hOutside old hOld
    rw [get?_breakWideAt, hOld]
    split
    · rename_i hHere
      refine ⟨_, rfl, Or.inl ⟨?_, id⟩⟩
      exact (hSecond hHere.1 old (hHere.2 ▸ hOld)).symm
    · split
      · rename_i hHere
        refine ⟨_, rfl, ?_⟩
        -- A column before the target lies before all of them.
        have hBefore : col + 1 = x₁ := by omega
        exact
          Or.inr
            ⟨hBefore, hLead hHere.1 col old hHere.2.1 hOld,
              rfl, rfl⟩
      · exact ⟨_, rfl, Or.inl (Cell.Keeps.refl old)⟩

end

------------------------------------------------------------
-- Edits
------------------------------------------------------------

section

variable {cols : Nat} {line : Line}

theorem WellFormed.spares_eraseSpan
    (hLine : line.WellFormed cols)
    {first last : Nat}
    (hSpan : first ≤ last)
    {blank : Cell}
    (hBlank : blank.IsPlain)
    (hSpace : blank.char = ' ') :
    Spares first last line
      (line.eraseSpan first last blank) where
  width_eq := width_eraseSpan line first last blank
  cells := by
    intro col hOutside old hOld
    rw [get?_eraseSpan line hSpan, hOld]
    split
    · rename_i hErased
      refine ⟨blank, rfl, ?_⟩
      rcases hErased with hInside | hBefore | hAfter
      · omega
      · obtain ⟨rfl, hPlaceholder⟩ := hBefore
        exact
          Or.inr
            ⟨rfl,
              hLine.paired.wide_of_placeholder hPlaceholder
                hOld,
              hSpace, hBlank.wide_eq⟩
      · have hShown :=
          hLine.showNothing.char_eq hAfter.2 hOld
        refine Or.inl ⟨hSpace.trans hShown.symm, ?_⟩
        rw [hBlank.wide_eq]
        exact nofun
    · exact ⟨old, rfl, Or.inl (Cell.Keeps.refl old)⟩

theorem Paired.spares_splitWideAt
    (hLine : line.Paired)
    (target : Nat)
    {blank : Cell}
    (hBlank : blank.IsPlain)
    (hSpace : blank.char = ' ') :
    Spares target target line
      (line.splitWideAt target blank) where
  width_eq := width_splitWideAt line target blank
  cells := by
    intro col hOutside old hOld
    rw [get?_splitWideAt, hOld]
    split
    · rename_i hSplit
      have hBefore : col + 1 = target := by omega
      have hPlaceholder := hSplit.2.1
      rw [← hBefore] at hPlaceholder
      exact
        ⟨blank, rfl,
          Or.inr
            ⟨hBefore,
              hLine.wide_of_placeholder hPlaceholder hOld,
              hSpace, hBlank.wide_eq⟩⟩
    · exact ⟨old, rfl, Or.inl (Cell.Keeps.refl old)⟩

theorem WellFormed.spares_insertBlanks
    (hLine : line.WellFormed cols)
    {target : Nat}
    (hTarget : target < cols)
    (n : Nat)
    {blank : Cell}
    (hBlank : blank.IsPlain)
    (hSpace : blank.char = ' ') :
    Spares target (cols - 1) line
      (line.insertBlanks target n blank) := by
  have hWidth := hLine.width_eq
  have hSplit :=
    ((hLine.paired.setWrapped false).spares_splitWideAt
      target hBlank hSpace).mono_right
        (show target ≤ cols - 1 by omega)
  have hRoom :
      target + min n (line.width - target) ≤
        ((line.setWrapped false).splitWideAt target
          blank).width := by
    rw [width_splitWideAt, width_setWrapped]
    omega
  have hOpened :=
    get?_opened
      ((line.setWrapped false).splitWideAt target blank)
      hRoom blank
  have hOpenedWidth :=
    width_opened
      ((line.setWrapped false).splitWideAt target blank)
      hRoom blank
  simp only [width_splitWideAt, width_setWrapped]
    at hOpened hOpenedWidth
  unfold Line.insertBlanks
  apply spares_keepingWrap
  refine hSplit.trans ?_
  apply Spares.of_get?_eq
  · simp only [width_blankWideAtEnd, width_setWrapped,
      width_splitWideAt]
    exact hOpenedWidth
  · intro col hOutside
    rw [get?_blankWideAtEnd]
    simp only [width_setWrapped, hOpenedWidth]
    rcases hOutside with hBefore | hAfter
    · rw [if_neg (by omega), hOpened, if_pos hBefore]
    · rw [if_neg (by omega), hOpened, if_neg (by omega),
        if_neg (by omega), if_neg (by omega),
        get?_eq_none_of_width_le]
      rw [width_splitWideAt, width_setWrapped]
      omega

theorem WellFormed.spares_deleteCells
    (hLine : line.WellFormed cols)
    {target : Nat}
    (hTarget : target < cols)
    (n : Nat)
    {blank : Cell}
    (hBlank : blank.IsPlain)
    (hSpace : blank.char = ' ') :
    Spares target (cols - 1) line
      (line.deleteCells target n blank) := by
  have hWidth := hLine.width_eq
  have hSplit :=
    ((hLine.paired.setWrapped false).spares_splitWideAt
      target hBlank hSpace).mono_right
        (show target ≤ cols - 1 by omega)
  have hRoom :
      target + min n (line.width - target) ≤
        ((line.setWrapped false).splitWideAt target
          blank).width := by
    rw [width_splitWideAt, width_setWrapped]
    omega
  have hClosed :=
    get?_closed
      ((line.setWrapped false).splitWideAt target blank)
      hRoom blank
  have hClosedWidth :=
    width_closed
      ((line.setWrapped false).splitWideAt target blank)
      hRoom blank
  simp only [width_splitWideAt, width_setWrapped]
    at hClosed hClosedWidth
  unfold Line.deleteCells
  apply spares_keepingWrap
  refine hSplit.trans ?_
  apply Spares.of_get?_eq
  · refine (width_blankPlaceholderAt _ _ _).trans ?_
    simp only [width_setWrapped, width_splitWideAt]
    exact hClosedWidth
  · intro col hOutside
    refine (get?_blankPlaceholderAt _ target col blank).trans ?_
    rcases hOutside with hBefore | hAfter
    · rw [if_neg (by omega), hClosed, if_pos hBefore]
    · rw [if_neg (by omega), hClosed, if_neg (by omega),
        if_neg (by omega), if_neg (by omega),
        get?_eq_none_of_width_le]
      rw [width_splitWideAt, width_setWrapped]
      omega

/- What a well-formed line has next to a column. -/
theorem WellFormed.spares_breakWideAt
    (hLine : line.WellFormed cols)
    {x₁ x₂ target : Nat}
    (hFirst : x₁ ≤ target)
    (hLast : target ≤ x₂) :
    Spares x₁ x₂ line (line.breakWideAt target) := by
  apply Line.spares_breakWideAt hFirst hLast
  · intro hWide second hSecond
    rw [hLine.paired.wide_eq] at hWide
    exact hLine.showNothing.char_eq hWide hSecond
  · intro hPlaceholder col lead hCol hLead
    rw [← hCol] at hPlaceholder
    exact hLine.paired.wide_of_placeholder hPlaceholder hLead

theorem WellFormed.spares_overwrite
    (hLine : line.WellFormed cols)
    (target : Nat)
    (cell : Cell) :
    Spares target target line (line.overwrite target cell) :=
  (hLine.spares_breakWideAt (Nat.le_refl _)
    (Nat.le_refl _)).trans
      (spares_set (Nat.le_refl _) (Nat.le_refl _) _ cell)

/-
  What a line shows after a character of one column has been
  put there: that character, and a space for the first half of
  a wide one whose second half it replaces.
-/
theorem WellFormed.char_overwrite
    (hLine : line.WellFormed cols)
    {target : Nat}
    (hTarget : target < cols)
    (cell : Cell)
    (col : Nat) :
    ((line.overwrite target cell).get? col).map Cell.char =
      if col = target then
        some cell.char
      else if col + 1 = target ∧
          line.isPlaceholderAt target then
        some ' '
      else
        (line.get? col).map Cell.char := by
  rw [← hLine.width_eq] at hTarget
  unfold Line.overwrite
  rw [get?_set, width_breakWideAt, get?_breakWideAt]
  by_cases hAt : col = target
  · rw [if_pos ⟨hAt, hAt ▸ hTarget⟩, if_pos hAt]
    rfl
  · rw [if_neg fun hBoth => hAt hBoth.1, if_neg hAt]
    by_cases hAfter :
        line.isWideAt target ∧ col = target + 1
    · rw [if_pos hAfter, if_neg (by omega)]
      cases hSecond : line.get? col with
      | none => rfl
      | some second =>
          rw [hLine.paired.wide_eq, ← hAfter.2] at hAfter
          have hShown :=
            hLine.showNothing.char_eq hAfter.1 hSecond
          rw [Option.map_some, Option.map_some,
            Option.map_some, hShown]
    · rw [if_neg hAfter]
      by_cases hBefore :
          col + 1 = target ∧ line.isPlaceholderAt target
      · have hNarrow : ¬line.isWideAt target := by
          intro hWide
          have hApart := hLine.paired.apart target hWide
          rw [hApart] at hBefore
          cases hBefore.2
        rw [if_pos hBefore,
          if_pos ⟨hBefore.2, hBefore.1,
            fun hBoth => hNarrow hBoth.1⟩]
        rcases exists_get?_eq_some
            (show col < line.width by omega) with
          ⟨lead, hLead⟩
        rw [hLead]
        rfl
      · rw [if_neg hBefore,
          if_neg fun hAll => hBefore ⟨hAll.2.1, hAll.1⟩]

theorem WellFormed.spares_overwriteWide
    (hLine : line.WellFormed cols)
    (target : Nat)
    (lead second : Cell) :
    Spares target (target + 1) line
      (line.overwriteWide target lead second) := by
  have hSecondBreak :
      Spares target (target + 1) (line.breakWideAt target)
        ((line.breakWideAt target).breakWideAt
          (target + 1)) := by
    apply Line.spares_breakWideAt (Nat.le_succ _)
      (Nat.le_refl _)
    · intro hWide second hSecond
      -- Two columns on, the first break has changed nothing.
      rw [isWideAt_eq_markAt, markAt_wide_breakWideAt,
        Bool.and_eq_true] at hWide
      rw [get?_breakWideAt, if_neg (by omega),
        if_neg (by omega)] at hSecond
      have hPlaceholder :=
        (hLine.paired.wide_eq (target + 1)).symm.trans
          hWide.2
      exact hLine.showNothing.char_eq hPlaceholder hSecond
    · intro hPlaceholder col previous hCol hPrevious
      obtain rfl : col = target := by omega
      rw [isPlaceholderAt_eq_markAt,
        markAt_placeholder_breakWideAt,
        Bool.and_eq_true] at hPlaceholder
      -- A second half there still has its first half.
      have hLead := hLine.paired.wide_eq col
      rw [isWideAt_eq_markAt, isPlaceholderAt_eq_markAt,
        hPlaceholder.2] at hLead
      have hApart := hPlaceholder.1
      simp [hLead] at hApart
  exact
    (((hLine.spares_breakWideAt (Nat.le_refl _)
      (Nat.le_succ _)).trans hSecondBreak).trans
        (spares_set (Nat.le_refl _) (Nat.le_succ _) _
          lead)).trans
            (spares_set (Nat.le_succ _) (Nat.le_refl _) _
              second)

end

end Line

end VideoTerminal
