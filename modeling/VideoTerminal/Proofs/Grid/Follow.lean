import VideoTerminal.Proofs.Grid.Scroll

/-
  Where the lines of a screen and its history are after
  scrolling, by the rows that selections count in: all lines
  that stay among the rows that move are found by the same
  distance, and without an exchange with the history all other
  lines stay where they are.

  Main declarations:
    * `Grid.Follows`
    * `Grid.WellFormed.lineAt?_scrollUp`
    * `Grid.WellFormed.lineAt?_scrollDown`
    * `Grid.WellFormed.follows_history_scrollUp`
    * `Grid.WellFormed.follows_history_scrollDown`
    * `Grid.Carries`
    * `Grid.WellFormed.carries_scrollUp`
    * `Grid.WellFormed.carries_scrollDown`
-/

namespace VideoTerminal

namespace Grid

------------------------------------------------------------
-- Lines by Row
------------------------------------------------------------

theorem lineAt?_of_nonneg
    (grid : Grid)
    {row : Int}
    (hRow : 0 ≤ row) :
    grid.lineAt? row = grid.lines[row.toNat]? := by
  obtain ⟨y, rfl⟩ := Int.eq_ofNat_of_zero_le hRow
  rfl

section

variable {cols rows capacity : Nat} {grid : Grid}

/- Rows above the screen show what the history retains. -/
theorem lineAt?_of_neg
    (hRing : grid.scrollback.WellFormed cols)
    {row : Int}
    (hRow : row < 0) :
    grid.lineAt? row =
      grid.scrollback.retained[(-1 - row).toNat]? := by
  obtain ⟨age, rfl⟩ := Int.eq_negSucc_of_lt_zero hRow
  rw [hRing.getElem?_retained]
  have hAge : (-1 - Int.negSucc age).toNat = age := by
    omega
  rw [hAge]
  rfl

theorem lineAt?_congr_of_neg
    {other : Grid}
    (hHistory : other.scrollback = grid.scrollback)
    {row : Int}
    (hRow : row < 0) :
    other.lineAt? row = grid.lineAt? row := by
  obtain ⟨age, rfl⟩ := Int.eq_negSucc_of_lt_zero hRow
  show other.scrollback.get? age = grid.scrollback.get? age
  rw [hHistory]

/-
  Every line between two rows is found again at the given
  distance.
-/
def Follows
    (grid scrolled : Grid)
    (delta low high : Int) : Prop :=
  ∀ row,
    low ≤ row →
      row ≤ high →
        scrolled.lineAt? (row + delta) = grid.lineAt? row

------------------------------------------------------------
-- Screens and Their History
------------------------------------------------------------

variable {origin bottom n : Nat}

/- Only the whole screen exchanges lines with its history. -/
theorem whole_of_usesHistory
    {retain : Bool}
    (hUses : grid.usesHistory origin bottom retain) :
    origin = 0 ∧ bottom + 1 = grid.rows := by
  rcases usesHistory_iff.mp hUses with ⟨_, hTop, hWhole, _⟩
  exact ⟨hTop, hWhole⟩

section

variable
  (hGrid : grid.WellFormed cols rows capacity)
  (hBottom : bottom < rows)
  (hSome : 0 < n)
  (hRoom : origin + n ≤ bottom + 1)
  {retain : Bool}
  (blank : Cell)
  (hUses : grid.usesHistory origin bottom retain)

include hGrid hBottom hSome hRoom hUses

theorem WellFormed.history_scrollUp :
    (grid.scrollUp origin bottom n retain
        blank).1.scrollback.WellFormed cols ∧
      (grid.scrollUp origin bottom n retain
          blank).1.scrollback.retained =
        ((grid.slice origin (origin + n)).reverse ++
          grid.scrollback.retained).take
            grid.scrollback.capacity := by
  have hWithin : origin + n ≤ rows := by omega
  rcases hGrid.pushAll_slice hWithin blank with
    ⟨hRing, hKept, _⟩
  rw [(scrolls_scrollUp hGrid hBottom hSome hRoom retain
      blank).1.scrollback_eq, if_pos hUses]
  exact ⟨hRing, hKept⟩

theorem WellFormed.history_scrollDown :
    (grid.scrollDown origin bottom n retain
        blank).1.scrollback.WellFormed cols ∧
      (grid.scrollDown origin bottom n retain
          blank).1.scrollback.retained =
        grid.scrollback.retained.drop n := by
  have hWithin : n ≤ bottom + 1 := by omega
  rcases hGrid.popInto_slice hBottom hWithin blank with
    ⟨hRing, hLeft, _⟩
  rw [(scrolls_scrollDown hGrid hBottom hSome hRoom retain
      blank).1.scrollback_eq, if_pos hUses]
  exact ⟨hRing, hLeft⟩

end

------------------------------------------------------------
-- Within the Screen
------------------------------------------------------------

section

variable
  (hGrid : grid.WellFormed cols rows capacity)
  (hBottom : bottom < rows)
  (hSome : 0 < n)
  (hRoom : origin + n ≤ bottom + 1)
  (retain : Bool)
  (blank : Cell)

include hGrid hBottom hSome hRoom

/- Lines are exchanged with a history that is in use. -/
theorem WellFormed.usesHistory_of_scrollUp
    (hExchange :
      0 < (grid.scrollUp origin bottom n retain blank).2) :
    grid.usesHistory origin bottom retain := by
  rw [(scrolls_scrollUp hGrid hBottom hSome hRoom retain
    blank).2] at hExchange
  split at hExchange
  · assumption
  · omega

theorem WellFormed.usesHistory_of_scrollDown
    (hExchange :
      0 < (grid.scrollDown origin bottom n retain blank).2) :
    grid.usesHistory origin bottom retain := by
  rw [(scrolls_scrollDown hGrid hBottom hSome hRoom retain
    blank).2] at hExchange
  split at hExchange
  · assumption
  · omega

/- The lines on the screen after scrolling up. -/
theorem WellFormed.lineAt?_scrollUp
    {row : Int}
    (hRow : 0 ≤ row) :
    (grid.scrollUp origin bottom n retain
        blank).1.lineAt? row =
      if origin ≤ row ∧ row ≤ bottom then
        if row + n ≤ bottom then
          grid.lineAt? (row + n)
        else
          some (.ofBlank cols blank)
      else
        grid.lineAt? row := by
  have hScrolls :=
    (scrolls_scrollUp hGrid hBottom hSome hRoom retain
      blank).1
  obtain ⟨y, rfl⟩ := Int.eq_ofNat_of_zero_le hRow
  rw [lineAt?_of_nonneg _ hRow, hScrolls.lines_eq,
    getElem?_movedUp (hGrid.lt_length hBottom) hRoom
      List.length_replicate,
    Int.toNat_natCast]
  simp only [Int.ofNat_le, ← Int.natCast_add]
  split
  · split
    · rfl
    · rw [List.getElem?_replicate, if_pos (by omega)]
  · rfl

/- The lines on the screen after scrolling down. -/
theorem WellFormed.lineAt?_scrollDown
    {row : Int}
    (hRow : 0 ≤ row) :
    (grid.scrollDown origin bottom n retain
        blank).1.lineAt? row =
      if origin ≤ row ∧ row ≤ bottom then
        if origin + n ≤ row then
          grid.lineAt? (row - n)
        else
          (grid.returning cols n
            (grid.usesHistory origin bottom retain)
            blank)[(row - origin).toNat]?
      else
        grid.lineAt? row := by
  have hScrolls :=
    (scrolls_scrollDown hGrid hBottom hSome hRoom retain
      blank).1
  obtain ⟨y, rfl⟩ := Int.eq_ofNat_of_zero_le hRow
  rw [lineAt?_of_nonneg _ hRow, hScrolls.lines_eq,
    getElem?_movedDown (hGrid.lt_length hBottom) hRoom
      (hGrid.length_returning n _ blank),
    Int.toNat_natCast, Int.toNat_sub]
  simp only [Int.ofNat_le, ← Int.natCast_add]
  split
  · split
    · rename_i hStays
      rw [← Int.ofNat_sub (by omega)]
      rfl
    · rfl
  · rfl

/- The lines of the region that stay in it move up. -/
theorem WellFormed.follows_scrollUp :
    grid.Follows
      (grid.scrollUp origin bottom n retain blank).1 (-n)
      (origin + n) bottom := by
  intro row hLow hHigh
  rw [hGrid.lineAt?_scrollUp hBottom hSome hRoom retain blank
      (by omega),
    if_pos (by omega), if_pos (by omega),
    Int.neg_add_cancel_right]

/- The lines of the region that stay in it move down. -/
theorem WellFormed.follows_scrollDown :
    grid.Follows
      (grid.scrollDown origin bottom n retain blank).1 n
      origin (bottom - n) := by
  intro row hLow hHigh
  rw [hGrid.lineAt?_scrollDown hBottom hSome hRoom retain
      blank (by omega),
    if_pos (by omega), if_pos (by omega),
    Int.add_sub_cancel]

/- Without an exchange of lines, the history stays. -/
theorem WellFormed.scrollback_scrollUp
    (hNone :
      (grid.scrollUp origin bottom n retain blank).2 = 0) :
    (grid.scrollUp origin bottom n retain
        blank).1.scrollback =
      grid.scrollback := by
  rcases scrolls_scrollUp hGrid hBottom hSome hRoom retain
      blank with
    ⟨hScrolls, hMoved⟩
  rw [hMoved] at hNone
  rw [hScrolls.scrollback_eq]
  split
  · rename_i hUses
    rw [if_pos hUses] at hNone
    omega
  · rfl

/- The lines outside of the region stay. -/
theorem WellFormed.lineAt?_scrollUp_outside
    (hNone :
      (grid.scrollUp origin bottom n retain blank).2 = 0)
    {row : Int}
    (hOutside : row < origin ∨ bottom < row) :
    (grid.scrollUp origin bottom n retain
        blank).1.lineAt? row =
      grid.lineAt? row := by
  rcases Int.lt_or_le row 0 with hAbove | hOnScreen
  · exact
      lineAt?_congr_of_neg
        (hGrid.scrollback_scrollUp hBottom hSome hRoom retain
          blank hNone)
        hAbove
  · rw [hGrid.lineAt?_scrollUp hBottom hSome hRoom retain
        blank hOnScreen,
      if_neg (by omega)]

theorem WellFormed.lineAt?_scrollDown_outside
    (hNone :
      (grid.scrollDown origin bottom n retain blank).2 = 0)
    {row : Int}
    (hOutside : row < origin ∨ bottom < row) :
    (grid.scrollDown origin bottom n retain
        blank).1.lineAt? row =
      grid.lineAt? row := by
  rcases Int.lt_or_le row 0 with hAbove | hOnScreen
  · rcases scrolls_scrollDown hGrid hBottom hSome hRoom retain
        blank with
      ⟨hScrolls, hMoved⟩
    cases hUses : grid.usesHistory origin bottom retain with
    | false =>
        apply lineAt?_congr_of_neg _ hAbove
        rw [hScrolls.scrollback_eq, hUses]
        rfl
    | true =>
        -- An empty history has nothing to give back.
        have hRetained := hGrid.history.length_retained
        rw [hMoved, hUses, if_pos rfl] at hNone
        have hEmpty : grid.scrollback.retained = [] :=
          List.eq_nil_of_length_eq_zero (by omega)
        rcases hGrid.history_scrollDown hBottom hSome hRoom
            blank hUses with
          ⟨hRing, hLeft⟩
        rw [lineAt?_of_neg hGrid.history hAbove,
          lineAt?_of_neg hRing hAbove, hLeft, hEmpty,
          List.drop_nil]
  · rw [hGrid.lineAt?_scrollDown hBottom hSome hRoom retain
        blank hOnScreen,
      if_neg (by omega)]

end

------------------------------------------------------------
-- Together with the History
------------------------------------------------------------

section

variable
  (hGrid : grid.WellFormed cols rows capacity)
  (hBottom : bottom < rows)
  (hSome : 0 < n)
  (hRoom : origin + n ≤ bottom + 1)
  {retain : Bool}
  (blank : Cell)
  (hUses : grid.usesHistory origin bottom retain)

include hGrid hBottom hSome hRoom hUses

/- The lines that the history still has room for move up. -/
theorem WellFormed.follows_history_scrollUp :
    grid.Follows
      (grid.scrollUp origin bottom n retain blank).1 (-n)
      (max (-grid.scrollback.size)
        (n - (grid.scrollUp origin bottom n retain
          blank).1.scrollback.size))
      (rows - 1) := by
  have hWhole := whole_of_usesHistory hUses
  rw [hGrid.rows_eq] at hWhole
  have hRetained := hGrid.history.length_retained
  have hLength :
      (grid.slice origin (origin + n)).length = n := by
    rw [length_slice (by rw [hGrid.rows_eq]; omega),
      Nat.add_sub_cancel_left]
  rcases hGrid.history_scrollUp hBottom hSome hRoom blank
      hUses with
    ⟨hRing, hKept⟩
  have hSize := hRing.length_retained
  rw [hKept, List.length_take, List.length_append,
    List.length_reverse, hRetained, hLength] at hSize
  intro row hLow hHigh
  rcases Int.lt_or_le (row + -n) 0 with hAbove | hOnScreen
  · rw [lineAt?_of_neg hRing hAbove, hKept,
      List.getElem?_take, if_pos (by omega),
      List.getElem?_append, List.length_reverse, hLength]
    rcases Int.lt_or_le row 0 with hOld | hLeaves
    · rw [if_neg (by omega),
        lineAt?_of_neg hGrid.history hOld]
      congr 1
      omega
    · rw [if_pos (by omega),
        List.getElem?_reverse (by omega), hLength,
        lineAt?_of_nonneg _ hLeaves]
      unfold slice
      rw [List.getElem?_drop, List.getElem?_take,
        if_pos (by omega)]
      congr 1
      omega
  · rw [hGrid.lineAt?_scrollUp hBottom hSome hRoom retain
        blank hOnScreen,
      if_pos (by omega), if_pos (by omega),
      Int.neg_add_cancel_right]

/- The newest lines of the history come back to the screen. -/
theorem WellFormed.follows_history_scrollDown :
    grid.Follows
      (grid.scrollDown origin bottom n retain blank).1 n
      (-grid.scrollback.size) (rows - 1 - n) := by
  have hWhole := whole_of_usesHistory hUses
  rw [hGrid.rows_eq] at hWhole
  have hRetained := hGrid.history.length_retained
  rcases hGrid.history_scrollDown hBottom hSome hRoom blank
      hUses with
    ⟨hRing, hLeft⟩
  intro row hLow hHigh
  rcases Int.lt_or_le (row + n) 0 with hAbove | hOnScreen
  · rw [lineAt?_of_neg hRing hAbove, hLeft,
      List.getElem?_drop,
      lineAt?_of_neg hGrid.history (by omega)]
    congr 1
    omega
  · rw [hGrid.lineAt?_scrollDown hBottom hSome hRoom retain
        blank hOnScreen,
      if_pos (by omega)]
    rcases Int.lt_or_le row 0 with hReturns | hStays
    · have hEntering :
          (grid.scrollback.retained.take n ++
              List.replicate (n - grid.scrollback.size)
                (Line.ofBlank cols blank)).length = n := by
        simp only [List.length_append, List.length_take,
          List.length_replicate]
        omega
      unfold returning
      rw [if_neg (by omega), if_pos hUses,
        List.getElem?_reverse (by omega), hEntering,
        List.getElem?_append, List.length_take,
        if_pos (by omega), List.getElem?_take,
        if_pos (by omega),
        lineAt?_of_neg hGrid.history hReturns]
      congr 1
      omega
    · rw [if_pos (by omega), Int.add_sub_cancel]

end

------------------------------------------------------------
-- All Lines at Once
------------------------------------------------------------

/-
  Scrolling carries lines by `delta`: those of the region as
  far as they stay in it, and with `moved` lines exchanged all
  that are retained.
-/
structure Carries
    (grid scrolled : Grid)
    (moved origin bottom : Nat)
    (delta : Int) : Prop where
  cols_eq : scrolled.cols = grid.cols
  rows_eq : scrolled.rows = grid.rows
  inside :
    ∀ row : Int,
      origin ≤ row → row ≤ bottom →
        origin ≤ row + delta → row + delta ≤ bottom →
          scrolled.lineAt? (row + delta) = grid.lineAt? row
  outside :
    moved = 0 →
      ∀ row : Int,
        (row < origin ∨ bottom < row) →
          scrolled.lineAt? row = grid.lineAt? row
  size_eq :
    moved = 0 →
      scrolled.scrollback.size = grid.scrollback.size
  history :
    0 < moved →
      (origin = 0 ∧ bottom + 1 = grid.rows) ∧
        ∀ row : Int,
          -grid.scrollback.size ≤ row → row < grid.rows →
            -scrolled.scrollback.size ≤ row + delta →
              row + delta < grid.rows →
                scrolled.lineAt? (row + delta) =
                  grid.lineAt? row

section

variable
  (hGrid : grid.WellFormed cols rows capacity)
  (hBottom : bottom < rows)
  (hSome : 0 < n)
  (hRoom : origin + n ≤ bottom + 1)
  (retain : Bool)
  (blank : Cell)

include hGrid hBottom hSome hRoom

theorem WellFormed.carries_scrollUp :
    grid.Carries
      (grid.scrollUp origin bottom n retain blank).1
      (grid.scrollUp origin bottom n retain blank).2
      origin bottom (-n) := by
  have hScrolls :=
    (scrolls_scrollUp hGrid hBottom hSome hRoom retain
      blank).1
  have hRows := hGrid.rows_eq
  refine
    { cols_eq := hScrolls.cols_eq
      rows_eq := ?_
      inside := ?_
      outside := ?_
      size_eq := ?_
      history := ?_ }
  · unfold Grid.rows
    rw [hScrolls.lines_eq]
    exact
      length_movedUp (hGrid.lt_length hBottom) hRoom
        List.length_replicate
  · intro row _ hLast hFirst _
    exact
      hGrid.follows_scrollUp hBottom hSome hRoom retain blank
        row (by omega) hLast
  · intro hNone row hOutside
    exact
      hGrid.lineAt?_scrollUp_outside hBottom hSome hRoom
        retain blank hNone hOutside
  · intro hNone
    rw [hGrid.scrollback_scrollUp hBottom hSome hRoom retain
      blank hNone]
  · intro hExchange
    have hUses :=
      hGrid.usesHistory_of_scrollUp hBottom hSome hRoom
        retain blank hExchange
    refine ⟨whole_of_usesHistory hUses, ?_⟩
    intro row hOld hOn hKept _
    exact
      hGrid.follows_history_scrollUp hBottom hSome hRoom
        blank hUses row (by omega) (by omega)

/- Scrolling up takes no line from the history. -/
theorem WellFormed.size_le_size_scrollUp :
    grid.scrollback.size ≤
      (grid.scrollUp origin bottom n retain
        blank).1.scrollback.size := by
  cases hUses : grid.usesHistory origin bottom retain with
  | false =>
      have hScrolls :=
        (scrolls_scrollUp hGrid hBottom hSome hRoom retain
          blank).1
      rw [hScrolls.scrollback_eq, hUses]
      exact Nat.le_refl _
  | true =>
      rcases hGrid.history_scrollUp hBottom hSome hRoom blank
          hUses with
        ⟨hRing, hKept⟩
      have hSize := hRing.length_retained
      have hLimit := hGrid.history.size_le_capacity
      rw [hKept, List.length_take, List.length_append,
        hGrid.history.length_retained] at hSize
      omega

/- Lines that come back leave as many fewer behind. -/
theorem WellFormed.size_scrollDown :
    (grid.scrollDown origin bottom n retain
        blank).1.scrollback.size =
      grid.scrollback.size -
        (grid.scrollDown origin bottom n retain blank).2 := by
  rcases scrolls_scrollDown hGrid hBottom hSome hRoom retain
      blank with
    ⟨hScrolls, hMoved⟩
  cases hUses : grid.usesHistory origin bottom retain with
  | false =>
      rw [hScrolls.scrollback_eq, hMoved, hUses]
      rfl
  | true =>
      rcases hGrid.history_scrollDown hBottom hSome hRoom
          blank hUses with
        ⟨hRing, hLeft⟩
      have hSize := hRing.length_retained
      rw [hLeft, List.length_drop,
        hGrid.history.length_retained] at hSize
      rw [← hSize, hMoved, if_pos hUses]
      omega

theorem WellFormed.carries_scrollDown :
    grid.Carries
      (grid.scrollDown origin bottom n retain blank).1
      (grid.scrollDown origin bottom n retain blank).2
      origin bottom n := by
  have hScrolls :=
    (scrolls_scrollDown hGrid hBottom hSome hRoom retain
      blank).1
  have hRows := hGrid.rows_eq
  refine
    { cols_eq := hScrolls.cols_eq
      rows_eq := ?_
      inside := ?_
      outside := ?_
      size_eq := ?_
      history := ?_ }
  · unfold Grid.rows
    rw [hScrolls.lines_eq]
    exact
      length_movedDown (hGrid.lt_length hBottom) hRoom
        (hGrid.length_returning n _ blank)
  · intro row hFirst _ _ hLast
    exact
      hGrid.follows_scrollDown hBottom hSome hRoom retain
        blank row hFirst (by omega)
  · intro hNone row hOutside
    exact
      hGrid.lineAt?_scrollDown_outside hBottom hSome hRoom
        retain blank hNone hOutside
  · intro hNone
    rw [hGrid.size_scrollDown hBottom hSome hRoom, hNone,
      Nat.sub_zero]
  · intro hExchange
    have hUses :=
      hGrid.usesHistory_of_scrollDown hBottom hSome hRoom
        retain blank hExchange
    refine ⟨whole_of_usesHistory hUses, ?_⟩
    intro row hOld _ _ hOn
    exact
      hGrid.follows_history_scrollDown hBottom hSome hRoom
        blank hUses row hOld (by omega)

end

end

end Grid

end VideoTerminal
