import VideoTerminal.Proofs.Line.Basic

/-
  The operations that edit a line in place keep it
  well-formed: inserting and deleting cells, erasing, and
  writing a character over what is there.

  Main declarations:
    * `Line.WellFormed.insertBlanks`
    * `Line.WellFormed.deleteCells`
    * `Line.WellFormed.eraseSpan`
    * `Line.overwrite`
    * `Line.WellFormed.overwrite`
    * `Line.overwriteWide`
    * `Line.WellFormed.overwriteWide`
-/

namespace VideoTerminal

namespace Line

------------------------------------------------------------
-- Insertion
------------------------------------------------------------

/- The cells of a line that blanks are inserted in. -/
theorem get?_opened
    (line : Line)
    {target n : Nat}
    (hRoom : target + n ≤ line.width)
    (blank : Cell)
    (col : Nat) :
    get?
        ⟨line.cells.take target ++
          List.replicate n blank ++
          (line.cells.drop target).take
            (line.width - target - n)⟩ col =
      if col < target then
        line.get? col
      else if col < target + n then
        some blank
      else if col < line.width then
        line.get? (col - n)
      else
        none := by
  simp only [get?, width] at hRoom ⊢
  simp only [List.getElem?_append, List.length_append,
    List.length_take, List.length_replicate,
    List.getElem?_take, List.getElem?_drop,
    List.getElem?_replicate]
  grind

theorem width_opened
    (line : Line)
    {target n : Nat}
    (hRoom : target + n ≤ line.width)
    (blank : Cell) :
    width
        ⟨line.cells.take target ++
          List.replicate n blank ++
          (line.cells.drop target).take
            (line.width - target - n)⟩ =
      line.width := by
  simp only [width, List.length_append, List.length_take,
    List.length_replicate, List.length_drop] at hRoom ⊢
  omega

theorem Paired.opened
    {line : Line}
    (hLine : line.Paired)
    {target n : Nat}
    (hRoom : target + n ≤ line.width)
    (hTarget : line.isPlaceholderAt target = false)
    {blank : Cell}
    (hBlank : blank.IsPlain) :
    PairedButEnd
      ⟨line.cells.take target ++
        List.replicate n blank ++
        (line.cells.drop target).take
          (line.width - target - n)⟩ := by
  have hMark :
      ∀ (mark : Cell → Bool), mark blank = false →
        ∀ col,
          markAt
              ⟨line.cells.take target ++
                List.replicate n blank ++
                (line.cells.drop target).take
                  (line.width - target - n)⟩
              mark col =
            if col < target then
              line.markAt mark col
            else
              decide (target + n ≤ col ∧ col < line.width) &&
                line.markAt mark (col - n) := by
    intro mark hPlain col
    simp only [markAt, get?_opened line hRoom]
    grind
  have hWide := hLine.wide_eq
  have hHead := hLine.head_eq
  have hApart := hLine.apart
  simp only [isWideAt_eq_markAt,
    isPlaceholderAt_eq_markAt]
    at hWide hHead hApart hTarget
  constructor
  · intro col hCol
    rw [width_opened line hRoom] at hCol
    have hHere := hWide col
    simp only [isWideAt_eq_markAt,
      isPlaceholderAt_eq_markAt, hMark _ hBlank.wide_eq,
      hMark _ hBlank.placeholder_eq]
    clear hMark
    -- Before the gap, at its edges, inside it, and after it.
    rcases Nat.lt_trichotomy (col + 1) target with
      hBefore | hEdge | hAfter
    · grind
    · grind
    · rcases Nat.lt_trichotomy (col + 1) (target + n) with
        hGap | hEdge | hMoved
      · grind
      · have hBack : col + 1 - n = target := by omega
        grind
      · have hBack : col + 1 - n = col - n + 1 := by omega
        have hThere := hWide (col - n)
        grind
  · simp only [isPlaceholderAt_eq_markAt,
      hMark _ hBlank.placeholder_eq]
    grind
  · intro col
    simp only [isWideAt_eq_markAt,
      isPlaceholderAt_eq_markAt, hMark _ hBlank.wide_eq,
      hMark _ hBlank.placeholder_eq]
    grind

theorem mem_cells_opened
    {line : Line}
    {target n m : Nat}
    {blank cell : Cell}
    (hMem :
      cell ∈
        (blankWideAtEnd
          ⟨(line.splitWideAt target blank).cells.take target ++
            List.replicate n blank ++
            ((line.splitWideAt target blank).cells.drop
              target).take m⟩
          blank).cells) :
    cell ∈ line.cells ∨ cell = blank := by
  rcases mem_cells_blankWideAtEnd hMem with hCell | hNew
  · rcases List.mem_append.mp hCell with hFront | hBack
    · rcases List.mem_append.mp hFront with hOld | hFill
      · exact
          mem_cells_splitWideAt (List.mem_of_mem_take hOld)
      · exact Or.inr (List.eq_of_mem_replicate hFill)
    · exact
        mem_cells_splitWideAt
          (List.mem_of_mem_drop (List.mem_of_mem_take hBack))
  · exact Or.inr hNew

theorem WellFormed.insertBlanks
    {cols : Nat}
    {line : Line}
    (hLine : line.WellFormed cols)
    {target : Nat}
    (hTarget : target < cols)
    (n : Nat)
    {blank : Cell}
    (hBlank : blank.IsPlain) :
    (line.insertBlanks target n blank).WellFormed cols := by
  unfold Line.insertBlanks
  have hWidth := hLine.width_eq
  have hSplit :=
    (hLine.paired.setWrapped false).splitWideAt target hBlank
  have hRoom :
      target + min n (line.width - target) ≤
        ((line.setWrapped false).splitWideAt target
          blank).width := by
    rw [width_splitWideAt, width_setWrapped]
    omega
  apply hLine.keepingWrap hBlank
  · rw [width_blankWideAtEnd]
    have hOpened :=
      width_opened
        ((line.setWrapped false).splitWideAt target blank)
        hRoom blank
    simp only [width_splitWideAt] at hOpened
    rw [hOpened, width_setWrapped, hWidth]
  · have hOpened :=
      hSplit.1.opened hRoom hSplit.2 hBlank
    simp only [width_splitWideAt] at hOpened
    exact hOpened.blankWideAtEnd hBlank
  · intro cell hCell
    exact mem_cells_opened hCell

------------------------------------------------------------
-- Deletion
------------------------------------------------------------

/- The cells of a line that cells are deleted from. -/
theorem get?_closed
    (line : Line)
    {target n : Nat}
    (hRoom : target + n ≤ line.width)
    (blank : Cell)
    (col : Nat) :
    get?
        ⟨line.cells.take target ++
          line.cells.drop (target + n) ++
          List.replicate n blank⟩ col =
      if col < target then
        line.get? col
      else if col + n < line.width then
        line.get? (col + n)
      else if col < line.width then
        some blank
      else
        none := by
  simp only [get?, width] at hRoom ⊢
  simp only [List.getElem?_append, List.length_append,
    List.length_take, List.length_drop,
    List.getElem?_take, List.getElem?_drop,
    List.getElem?_replicate]
  have hBack :
      target ≤ col → target + n + (col - target) = col + n :=
    by omega
  grind

theorem width_closed
    (line : Line)
    {target n : Nat}
    (hRoom : target + n ≤ line.width)
    (blank : Cell) :
    width
        ⟨line.cells.take target ++
          line.cells.drop (target + n) ++
          List.replicate n blank⟩ =
      line.width := by
  simp only [width, List.length_append, List.length_take,
    List.length_replicate, List.length_drop] at hRoom ⊢
  omega

/- Blank the second half of a wide character in a column. -/
def blankPlaceholderAt
    (line : Line)
    (target : Nat)
    (blank : Cell) : Line :=
  if line.isPlaceholderAt target then
    line.set target blank
  else
    line

theorem get?_blankPlaceholderAt
    (line : Line)
    (target col : Nat)
    (blank : Cell) :
    (line.blankPlaceholderAt target blank).get? col =
      if col = target ∧ line.isPlaceholderAt target then
        some blank
      else
        line.get? col := by
  unfold blankPlaceholderAt
  split
  · rename_i hPlaceholder
    have hTarget : target < line.width :=
      lt_width_of_markAt hPlaceholder
    rw [get?_set]
    grind
  · grind

@[simp] theorem width_blankPlaceholderAt
    (line : Line)
    (target : Nat)
    (blank : Cell) :
    (line.blankPlaceholderAt target blank).width =
      line.width := by
  unfold blankPlaceholderAt
  split
  · exact width_set _ _ _
  · rfl

theorem markAt_blankPlaceholderAt
    (line : Line)
    (target col : Nat)
    {blank : Cell}
    {mark : Cell → Bool}
    (hBlank : mark blank = false) :
    (line.blankPlaceholderAt target blank).markAt mark col =
      (!decide (col = target ∧
          line.isPlaceholderAt target) &&
        line.markAt mark col) := by
  simp only [markAt, get?_blankPlaceholderAt]
  split
  · simp [*]
  · simp [*]

theorem mem_cells_blankPlaceholderAt
    {line : Line}
    {target : Nat}
    {blank cell : Cell}
    (hMem :
      cell ∈ (line.blankPlaceholderAt target blank).cells) :
    cell ∈ line.cells ∨ cell = blank := by
  unfold blankPlaceholderAt at hMem
  split at hMem
  · exact mem_cells_set hMem
  · exact Or.inl hMem

theorem Paired.closed
    {line : Line}
    (hLine : line.Paired)
    {target n : Nat}
    (hRoom : target + n ≤ line.width)
    (hTarget : line.isPlaceholderAt target = false)
    {blank : Cell}
    (hBlank : blank.IsPlain) :
    (blankPlaceholderAt
      ⟨line.cells.take target ++
        line.cells.drop (target + n) ++
        List.replicate n blank⟩
      target blank).Paired := by
  have hMark :
      ∀ (mark : Cell → Bool), mark blank = false →
        ∀ col,
          markAt
              ⟨line.cells.take target ++
                line.cells.drop (target + n) ++
                List.replicate n blank⟩
              mark col =
            if col < target then
              line.markAt mark col
            else
              line.markAt mark (col + n) := by
    intro mark hPlain col
    have hOutside :
        line.width ≤ col + n →
          line.get? (col + n) = none :=
      get?_eq_none_of_width_le
    simp only [markAt, get?_closed line hRoom]
    grind
  have hWide := hLine.wide_eq
  have hHead := hLine.head_eq
  have hApart := hLine.apart
  simp only [isWideAt_eq_markAt,
    isPlaceholderAt_eq_markAt]
    at hWide hHead hApart hTarget
  constructor
  · intro col
    have hHere := hWide col
    have hMoved := hWide (col + n)
    have hBack : col + n + 1 = col + 1 + n := by omega
    have hApartMoved := hApart (col + n)
    simp only [isWideAt_eq_markAt,
      isPlaceholderAt_eq_markAt,
      markAt_blankPlaceholderAt _ _ _ hBlank.wide_eq,
      markAt_blankPlaceholderAt _ _ _ hBlank.placeholder_eq,
      hMark _ hBlank.wide_eq, hMark _ hBlank.placeholder_eq]
    clear hMark
    grind
  · simp only [isPlaceholderAt_eq_markAt,
      markAt_blankPlaceholderAt _ _ _ hBlank.placeholder_eq,
      hMark _ hBlank.placeholder_eq]
    clear hMark
    grind
  · intro col
    have hHere := hApart col
    have hMoved := hApart (col + n)
    simp only [isWideAt_eq_markAt,
      isPlaceholderAt_eq_markAt,
      markAt_blankPlaceholderAt _ _ _ hBlank.wide_eq,
      markAt_blankPlaceholderAt _ _ _ hBlank.placeholder_eq,
      hMark _ hBlank.wide_eq, hMark _ hBlank.placeholder_eq]
    clear hMark
    grind

theorem mem_cells_closed
    {line : Line}
    {target n m : Nat}
    {blank cell : Cell}
    (hMem :
      cell ∈
        (blankPlaceholderAt
          ⟨(line.splitWideAt target blank).cells.take target ++
            (line.splitWideAt target blank).cells.drop m ++
            List.replicate n blank⟩
          target blank).cells) :
    cell ∈ line.cells ∨ cell = blank := by
  rcases mem_cells_blankPlaceholderAt hMem with
    hCell | hNew
  · rcases List.mem_append.mp hCell with hFront | hFill
    · rcases List.mem_append.mp hFront with hOld | hBack
      · exact
          mem_cells_splitWideAt (List.mem_of_mem_take hOld)
      · exact
          mem_cells_splitWideAt (List.mem_of_mem_drop hBack)
    · exact Or.inr (List.eq_of_mem_replicate hFill)
  · exact Or.inr hNew

theorem WellFormed.deleteCells
    {cols : Nat}
    {line : Line}
    (hLine : line.WellFormed cols)
    {target : Nat}
    (hTarget : target < cols)
    (n : Nat)
    {blank : Cell}
    (hBlank : blank.IsPlain) :
    (line.deleteCells target n blank).WellFormed cols := by
  unfold Line.deleteCells
  have hWidth := hLine.width_eq
  have hSplit :=
    (hLine.paired.setWrapped false).splitWideAt target hBlank
  have hRoom :
      target + min n (line.width - target) ≤
        ((line.setWrapped false).splitWideAt target
          blank).width := by
    rw [width_splitWideAt, width_setWrapped]
    omega
  apply hLine.keepingWrap hBlank
  · have hClosed :=
      width_closed
        ((line.setWrapped false).splitWideAt target blank)
        hRoom blank
    exact
      (width_blankPlaceholderAt _ _ _).trans
        (hClosed.trans (by simp [hWidth]))
  · exact hSplit.1.closed hRoom hSplit.2 hBlank
  · intro cell hCell
    exact mem_cells_closed hCell

------------------------------------------------------------
-- Erasure
------------------------------------------------------------

/-
  Blank the first half of a wide character whose second half
  is in the given column.
-/
def blankLeadBefore
    (line : Line)
    (target : Nat)
    (blank : Cell) : Line :=
  if 0 < target ∧ line.isPlaceholderAt target then
    line.set (target - 1) blank
  else
    line

theorem get?_blankLeadBefore
    (line : Line)
    (target col : Nat)
    (blank : Cell) :
    (line.blankLeadBefore target blank).get? col =
      if col + 1 = target ∧ line.isPlaceholderAt target then
        some blank
      else
        line.get? col := by
  unfold blankLeadBefore
  split
  · rename_i hPlaceholder
    have hTarget : target < line.width :=
      lt_width_of_markAt hPlaceholder.2
    rw [get?_set]
    grind
  · grind

@[simp] theorem width_blankLeadBefore
    (line : Line)
    (target : Nat)
    (blank : Cell) :
    (line.blankLeadBefore target blank).width =
      line.width := by
  unfold blankLeadBefore
  split
  · exact width_set _ _ _
  · rfl

theorem mem_cells_blankLeadBefore
    {line : Line}
    {target : Nat}
    {blank cell : Cell}
    (hMem :
      cell ∈ (line.blankLeadBefore target blank).cells) :
    cell ∈ line.cells ∨ cell = blank := by
  unfold blankLeadBefore at hMem
  split at hMem
  · exact mem_cells_set hMem
  · exact Or.inl hMem

/- Erasing mends both sides, and then fills the columns. -/
theorem eraseSpan_eq
    (line : Line)
    (first last : Nat)
    (blank : Cell) :
    line.eraseSpan first last blank =
      ((line.blankLeadBefore first blank).blankPlaceholderAt
        (last + 1) blank).fillSpan first last blank :=
  rfl

@[simp] theorem width_eraseSpan
    (line : Line)
    (first last : Nat)
    (blank : Cell) :
    (line.eraseSpan first last blank).width =
      line.width := by
  rw [eraseSpan_eq, width_fillSpan,
    width_blankPlaceholderAt, width_blankLeadBefore]

/-
  Erasing blanks the given columns and what would be left of
  a wide character on either side of them.
-/
theorem get?_eraseSpan
    (line : Line)
    {first last : Nat}
    (hSpan : first ≤ last)
    (blank : Cell)
    (col : Nat) :
    (line.eraseSpan first last blank).get? col =
      if (first ≤ col ∧ col ≤ last ∧ col < line.width) ∨
          (col + 1 = first ∧ line.isPlaceholderAt first) ∨
          (col = last + 1 ∧ line.isPlaceholderAt col) then
        some blank
      else
        line.get? col := by
  have hSame :
      (line.blankLeadBefore first blank).isPlaceholderAt
          (last + 1) =
        line.isPlaceholderAt (last + 1) := by
    unfold isPlaceholderAt
    rw [get?_blankLeadBefore, if_neg (by omega)]
  rw [eraseSpan_eq, get?_fillSpan,
    width_blankPlaceholderAt, width_blankLeadBefore,
    get?_blankPlaceholderAt, get?_blankLeadBefore, hSame]
  grind

/- What is there stays or is blanked. -/
theorem get?_eraseSpan_cases
    (line : Line)
    {first last : Nat}
    (hSpan : first ≤ last)
    (blank : Cell)
    (col : Nat) :
    (line.eraseSpan first last blank).get? col =
        line.get? col ∨
      ((line.get? col).isSome ∧
        (line.eraseSpan first last blank).get? col =
          some blank) := by
  rcases Nat.lt_or_ge col line.width with hInside | hBeyond
  · rcases exists_get?_eq_some hInside with ⟨old, hOld⟩
    rw [get?_eraseSpan line hSpan, hOld]
    split
    · exact Or.inr ⟨rfl, rfl⟩
    · exact Or.inl rfl
  · refine Or.inl ?_
    rw [get?_eq_none_of_width_le hBeyond,
      get?_eq_none_of_width_le]
    rw [width_eraseSpan]
    exact hBeyond

theorem markAt_eraseSpan
    (line : Line)
    {first last : Nat}
    (hSpan : first ≤ last)
    (col : Nat)
    {blank : Cell}
    {mark : Cell → Bool}
    (hBlank : mark blank = false) :
    (line.eraseSpan first last blank).markAt mark col =
      (!decide
          ((first ≤ col ∧ col ≤ last) ∨
            (col + 1 = first ∧ line.isPlaceholderAt first) ∨
            (col = last + 1 ∧ line.isPlaceholderAt col)) &&
        line.markAt mark col) := by
  have hOutside :
      line.width ≤ col → line.markAt mark col = false :=
    fun hCol => markAt_eq_false_of_width_le hCol _
  simp only [markAt, get?_eraseSpan line hSpan] at hOutside ⊢
  grind

theorem mem_cells_eraseSpan
    {line : Line}
    {first last : Nat}
    {blank cell : Cell}
    (hMem : cell ∈ (line.eraseSpan first last blank).cells) :
    cell ∈ line.cells ∨ cell = blank := by
  rw [eraseSpan_eq] at hMem
  rcases List.mem_iff_getElem?.mp hMem with ⟨col, hCol⟩
  have hGet :=
    get?_fillSpan
      ((line.blankLeadBefore first blank).blankPlaceholderAt
        (last + 1) blank) first last col blank
  rw [get?, hCol] at hGet
  split at hGet
  · exact Or.inr (Option.some.inj hGet)
  · rcases mem_cells_blankPlaceholderAt
        (List.mem_of_getElem? hGet.symm) with hOld | hNew
    · exact mem_cells_blankLeadBefore hOld
    · exact Or.inr hNew

theorem Paired.eraseSpan
    {line : Line}
    (hLine : line.Paired)
    {first last : Nat}
    (hSpan : first ≤ last)
    {blank : Cell}
    (hBlank : blank.IsPlain) :
    (line.eraseSpan first last blank).Paired := by
  have hWide := hLine.wide_eq
  have hHead := hLine.head_eq
  have hApart := hLine.apart
  simp only [isWideAt_eq_markAt,
    isPlaceholderAt_eq_markAt]
    at hWide hHead hApart
  constructor
  · intro col
    have hHere := hWide col
    have hHereApart := hApart col
    have hNextApart := hApart (col + 1)
    simp only [isWideAt_eq_markAt,
      isPlaceholderAt_eq_markAt,
      markAt_eraseSpan _ hSpan _ hBlank.wide_eq,
      markAt_eraseSpan _ hSpan _ hBlank.placeholder_eq]
    grind
  · simp [isPlaceholderAt_eq_markAt,
      markAt_eraseSpan _ hSpan _ hBlank.placeholder_eq,
      hHead]
  · intro col
    have hHereApart := hApart col
    simp only [isWideAt_eq_markAt,
      isPlaceholderAt_eq_markAt,
      markAt_eraseSpan _ hSpan _ hBlank.wide_eq,
      markAt_eraseSpan _ hSpan _ hBlank.placeholder_eq]
    grind

theorem WellFormed.eraseSpan
    {cols : Nat}
    {line : Line}
    (hLine : line.WellFormed cols)
    {first last : Nat}
    (hSpan : first ≤ last)
    {blank : Cell}
    (hBlank : blank.IsPlain) :
    (line.eraseSpan first last blank).WellFormed cols where
  width_eq := (width_eraseSpan _ _ _ _).trans hLine.width_eq
  paired := hLine.paired.eraseSpan hSpan hBlank
  wrapsAtEnd := by
    intro col hWrapped
    rw [markAt_eraseSpan _ hSpan _ hBlank.wrapped_eq,
      Bool.and_eq_true] at hWrapped
    rw [width_eraseSpan]
    exact hLine.wrapsAtEnd col hWrapped.2
  showNothing := by
    intro cell hCell hPlaceholder
    rcases mem_cells_eraseSpan hCell with hOld | hNew
    · exact hLine.showNothing cell hOld hPlaceholder
    · rw [hNew, hBlank.placeholder_eq] at hPlaceholder
      cases hPlaceholder

------------------------------------------------------------
-- Overwriting
------------------------------------------------------------

/-
  Take a wide character apart before one of its halves is
  overwritten: what is in the other half becomes a space.
-/
def breakWideAt
    (line : Line)
    (target : Nat) : Line :=
  if line.isWideAt target ∧ target + 1 < line.width then
    line.modify (target + 1) fun next =>
      { next with char := ' ', placeholder := false }
  else if line.isPlaceholderAt target ∧ 0 < target then
    line.modify (target - 1) fun previous =>
      { previous with char := ' ', wide := false }
  else
    line

@[simp] theorem width_breakWideAt
    (line : Line)
    (target : Nat) :
    (line.breakWideAt target).width = line.width := by
  unfold breakWideAt
  split
  · exact width_modify _ _ _
  · split
    · exact width_modify _ _ _
    · rfl

theorem get?_breakWideAt
    (line : Line)
    (target col : Nat) :
    (line.breakWideAt target).get? col =
      if line.isWideAt target ∧ col = target + 1 then
        (line.get? col).map fun next =>
          { next with char := ' ', placeholder := false }
      else if line.isPlaceholderAt target ∧
          col + 1 = target ∧
          ¬(line.isWideAt target ∧
            target + 1 < line.width) then
        (line.get? col).map fun previous =>
          { previous with char := ' ', wide := false }
      else
        line.get? col := by
  unfold breakWideAt
  by_cases hWide :
      line.isWideAt target ∧ target + 1 < line.width
  · rw [if_pos hWide, get?_modify]
    grind
  · rw [if_neg hWide]
    have hNone :
        line.isWideAt target → col = target + 1 →
          line.get? col = none :=
      fun hHere hCol =>
        get?_eq_none_of_width_le (by grind)
    split
    · rw [get?_modify]
      grind
    · grind

theorem markAt_wide_breakWideAt
    (line : Line)
    (target col : Nat) :
    (line.breakWideAt target).markAt Cell.wide col =
      (!decide
          (line.markAt Cell.placeholder target ∧
            col + 1 = target ∧
            ¬(line.markAt Cell.wide target ∧
              target + 1 < line.width)) &&
        line.markAt Cell.wide col) := by
  unfold breakWideAt
  rw [isWideAt_eq_markAt, isPlaceholderAt_eq_markAt]
  split
  · rw [markAt_modify_of_keeps]
    · grind
    · exact fun _ => rfl
  · split
    · rw [markAt_modify_of_clears]
      · grind
      · exact fun _ => rfl
    · grind

theorem markAt_placeholder_breakWideAt
    (line : Line)
    (target col : Nat) :
    (line.breakWideAt target).markAt Cell.placeholder col =
      (!decide
          (line.markAt Cell.wide target ∧
            col = target + 1) &&
        line.markAt Cell.placeholder col) := by
  have hOutside :
      line.width ≤ target + 1 → col = target + 1 →
        line.markAt Cell.placeholder col = false :=
    fun hWidth hCol =>
      markAt_eq_false_of_width_le (hCol ▸ hWidth) _
  unfold breakWideAt
  rw [isWideAt_eq_markAt, isPlaceholderAt_eq_markAt]
  split
  · rw [markAt_modify_of_clears]
    · grind
    · exact fun _ => rfl
  · split
    · rw [markAt_modify_of_keeps]
      · grind
      · exact fun _ => rfl
    · grind

theorem markAt_wrapped_breakWideAt
    (line : Line)
    (target col : Nat) :
    (line.breakWideAt target).markAt Cell.wrapped col =
      line.markAt Cell.wrapped col := by
  unfold breakWideAt
  split
  · exact markAt_modify_of_keeps _ _ _ fun _ => rfl
  · split
    · exact markAt_modify_of_keeps _ _ _ fun _ => rfl
    · rfl

theorem mem_cells_breakWideAt
    {line : Line}
    {target : Nat}
    {cell : Cell}
    (hMem : cell ∈ (line.breakWideAt target).cells) :
    cell ∈ line.cells ∨ cell.char = ' ' := by
  rcases List.mem_iff_getElem?.mp hMem with ⟨col, hCol⟩
  have hGet := get?_breakWideAt line target col
  rw [get?, hCol] at hGet
  split at hGet
  · rcases Option.map_eq_some_iff.mp hGet.symm with
      ⟨old, hOld, hCell⟩
    exact Or.inr (hCell ▸ rfl)
  · split at hGet
    · rcases Option.map_eq_some_iff.mp hGet.symm with
        ⟨old, hOld, hCell⟩
      exact Or.inr (hCell ▸ rfl)
    · exact Or.inl (List.mem_of_getElem? hGet.symm)

/- Put a character of one column in a column. -/
def overwrite
    (line : Line)
    (target : Nat)
    (cell : Cell) : Line :=
  (line.breakWideAt target).set target cell

/- Put a character of two columns in a column and the next. -/
def overwriteWide
    (line : Line)
    (target : Nat)
    (lead second : Cell) : Line :=
  (((line.breakWideAt target).breakWideAt
    (target + 1)).set target lead).set (target + 1) second

@[simp] theorem width_overwrite
    (line : Line)
    (target : Nat)
    (cell : Cell) :
    (line.overwrite target cell).width = line.width := by
  simp [overwrite]

@[simp] theorem width_overwriteWide
    (line : Line)
    (target : Nat)
    (lead second : Cell) :
    (line.overwriteWide target lead second).width =
      line.width := by
  simp [overwriteWide]

theorem Paired.overwrite
    {line : Line}
    (hLine : line.Paired)
    {target : Nat}
    (hTarget : target < line.width)
    {cell : Cell}
    (hCell : cell.IsPlain) :
    (line.overwrite target cell).Paired := by
  have hWide := hLine.wide_eq
  have hHead := hLine.head_eq
  have hApart := hLine.apart
  have hNext := hLine.next_lt_width target
  simp only [isWideAt_eq_markAt,
    isPlaceholderAt_eq_markAt]
    at hWide hHead hApart hNext
  have hTargetApart := hApart target
  constructor
  · intro col
    have hHere := hWide col
    simp only [isWideAt_eq_markAt,
      isPlaceholderAt_eq_markAt, Line.overwrite, markAt_set,
      markAt_wide_breakWideAt, markAt_placeholder_breakWideAt,
      width_breakWideAt, hCell.wide_eq, hCell.placeholder_eq]
    by_cases hAt : col = target
    · grind
    · by_cases hBefore : col + 1 = target
      · grind
      · simp [hAt, hBefore, hHere]
  · simp only [isPlaceholderAt_eq_markAt, Line.overwrite,
      markAt_set, markAt_placeholder_breakWideAt,
      hCell.placeholder_eq]
    grind
  · intro col
    have hHere := hApart col
    simp only [isWideAt_eq_markAt,
      isPlaceholderAt_eq_markAt, Line.overwrite, markAt_set,
      markAt_wide_breakWideAt, markAt_placeholder_breakWideAt,
      width_breakWideAt, hCell.wide_eq, hCell.placeholder_eq]
    grind

theorem Paired.overwriteWide
    {line : Line}
    (hLine : line.Paired)
    {target : Nat}
    (hTarget : target + 1 < line.width)
    {lead second : Cell}
    (hLead : lead.wide = true ∧ lead.placeholder = false)
    (hSecond : second.wide = false ∧
      second.placeholder = true) :
    (line.overwriteWide target lead second).Paired := by
  have hWide := hLine.wide_eq
  have hHead := hLine.head_eq
  have hApart := hLine.apart
  have hNext := hLine.next_lt_width target
  have hAfter := hLine.next_lt_width (target + 1)
  simp only [isWideAt_eq_markAt,
    isPlaceholderAt_eq_markAt]
    at hWide hHead hApart hNext hAfter
  have hTargetApart := hApart target
  have hNextApart := hApart (target + 1)
  have hTargetWide := hWide target
  constructor
  · intro col
    have hHere := hWide col
    simp only [isWideAt_eq_markAt,
      isPlaceholderAt_eq_markAt, Line.overwriteWide,
      markAt_set, width_set, markAt_wide_breakWideAt,
      markAt_placeholder_breakWideAt, width_breakWideAt,
      hLead.1, hLead.2, hSecond.1, hSecond.2]
    -- The written columns, the one before them, and the rest.
    by_cases hAt : col = target
    · grind
    · by_cases hAfterAt : col = target + 1
      · grind
      · by_cases hBefore : col + 1 = target
        · subst hBefore
          grind
        · simp [hAt, hAfterAt, hBefore, hHere]
  · simp only [isPlaceholderAt_eq_markAt,
      Line.overwriteWide, markAt_set, width_set,
      markAt_placeholder_breakWideAt, hLead.2, hSecond.2]
    grind
  · intro col
    have hHere := hApart col
    simp only [isWideAt_eq_markAt,
      isPlaceholderAt_eq_markAt, Line.overwriteWide,
      markAt_set, width_set, markAt_wide_breakWideAt,
      markAt_placeholder_breakWideAt, width_breakWideAt,
      hLead.1, hLead.2, hSecond.1, hSecond.2]
    grind

theorem WellFormed.overwrite
    {cols : Nat}
    {line : Line}
    (hLine : line.WellFormed cols)
    {target : Nat}
    (hTarget : target < cols)
    {cell : Cell}
    (hCell : cell.IsPlain) :
    (line.overwrite target cell).WellFormed cols where
  width_eq := (width_overwrite _ _ _).trans hLine.width_eq
  paired :=
    hLine.paired.overwrite (hLine.width_eq.symm ▸ hTarget)
      hCell
  wrapsAtEnd := by
    intro col hWrapped
    rw [width_overwrite]
    unfold Line.overwrite at hWrapped
    rw [markAt_set, hCell.wrapped_eq] at hWrapped
    split at hWrapped
    · cases hWrapped
    · rw [markAt_wrapped_breakWideAt] at hWrapped
      exact hLine.wrapsAtEnd col hWrapped
  showNothing := by
    intro other hMem hPlaceholder
    rcases mem_cells_set hMem with hOld | hNew
    · rcases mem_cells_breakWideAt hOld with hOld | hSpace
      · exact hLine.showNothing other hOld hPlaceholder
      · exact hSpace
    · rw [hNew, hCell.placeholder_eq] at hPlaceholder
      cases hPlaceholder

theorem WellFormed.overwriteWide
    {cols : Nat}
    {line : Line}
    (hLine : line.WellFormed cols)
    {target : Nat}
    (hTarget : target + 1 < cols)
    {lead second : Cell}
    (hLead : lead.wide = true ∧ lead.placeholder = false)
    (hSecond : second.wide = false ∧
      second.placeholder = true)
    (hUnwrapped :
      lead.wrapped = false ∧ second.wrapped = false)
    (hSpace : second.char = ' ') :
    (line.overwriteWide target lead second).WellFormed
      cols where
  width_eq :=
    (width_overwriteWide _ _ _ _).trans hLine.width_eq
  paired :=
    hLine.paired.overwriteWide
      (hLine.width_eq.symm ▸ hTarget) hLead hSecond
  wrapsAtEnd := by
    intro col hWrapped
    rw [width_overwriteWide]
    unfold Line.overwriteWide at hWrapped
    rw [markAt_set, markAt_set, markAt_wrapped_breakWideAt,
      markAt_wrapped_breakWideAt, hUnwrapped.1,
      hUnwrapped.2] at hWrapped
    apply hLine.wrapsAtEnd col
    grind
  showNothing := by
    intro other hMem hPlaceholder
    rcases mem_cells_set hMem with hMem | hNew
    · rcases mem_cells_set hMem with hMem | hNew
      · rcases mem_cells_breakWideAt hMem with
          hMem | hBroken
        · rcases mem_cells_breakWideAt hMem with
            hOld | hBroken
          · exact hLine.showNothing other hOld hPlaceholder
          · exact hBroken
        · exact hBroken
      · rw [hNew, hLead.2] at hPlaceholder
        cases hPlaceholder
    · rw [hNew, hSpace]

/- Marking the end of a line as wrapped keeps it well-formed. -/
theorem WellFormed.setWrapped
    {cols : Nat}
    {line : Line}
    (hLine : line.WellFormed cols)
    (on : Bool) :
    (line.setWrapped on).WellFormed cols where
  width_eq := (width_setWrapped _ _).trans hLine.width_eq
  paired := hLine.paired.setWrapped on
  wrapsAtEnd := by
    intro col hWrapped
    rw [markAt_wrapped_setWrapped] at hWrapped
    rw [width_setWrapped]
    split at hWrapped
    · assumption
    · exact hLine.wrapsAtEnd col hWrapped
  showNothing := hLine.showNothing.setWrapped on

end Line

end VideoTerminal
