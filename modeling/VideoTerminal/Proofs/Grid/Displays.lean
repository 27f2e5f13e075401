import Mathlib.Data.List.DropRight
import VideoTerminal.Proofs.Grid.Follow

/-
  A screen and its history that hold the last of some lines,
  as far as there is room for them.  This is kept while lines
  are added at the end and the last one is edited.

  Main declarations:
    * `Grid.Displays`
    * `Grid.Displays.edit_last`
    * `Grid.Displays.append_blank`
    * `Grid.Displays.scrollUp`
    * `Grid.Displays.toList_append_lines`
-/

namespace VideoTerminal

namespace Grid

------------------------------------------------------------
-- Lines on the Screen and in the History
------------------------------------------------------------

/-
  The screen shows the last of some lines and is blank below
  them.  The history retains as many of the others as it has
  room for, and is not in view.
-/
structure Displays
    (rows capacity : Nat)
    (blank : Line)
    (lines : List Line)
    (grid : Grid) : Prop where
  screen_eq :
    grid.lines =
      lines.drop (lines.length - rows) ++
        List.replicate (rows - lines.length) blank
  retained_eq :
    grid.scrollback.retained =
      (lines.take (lines.length - rows)).reverse.take capacity
  view_eq : grid.viewOffset = 0

theorem displays_ofBlank
    {cols rows : Nat}
    (hRows : 0 < rows)
    (capacity : Nat)
    (blank : Cell) :
    (ofBlank cols rows capacity blank).Displays rows capacity
      (.ofBlank cols blank) [.ofBlank cols blank] where
  screen_eq := by
    obtain ⟨n, rfl⟩ : ∃ n, rows = n + 1 :=
      Nat.exists_eq_add_one.mpr hRows
    have hNone : [Line.ofBlank cols blank].length - (n + 1) =
        0 := by
      simp
    rw [hNone]
    rfl
  retained_eq := by
    have hNone :
        [Line.ofBlank cols blank].length - rows = 0 := by
      simp only [List.length_singleton]
      omega
    rw [hNone, List.take_zero, List.reverse_nil,
      List.take_nil]
    rfl
  view_eq := rfl

section

variable {rows capacity : Nat} {blank : Line}
  {lines : List Line} {grid edited : Grid}

/- Only lines in view are edited. -/
theorem mapIdx_onRow
    {row : Nat}
    {above below : List Line}
    (hRow : row = above.length)
    (change : Line → Line)
    (line : Line) :
    (above ++ line :: below).mapIdx (onRow row change) =
      above ++ change line :: below := by
  subst hRow
  apply List.ext_getElem?
  intro y
  rw [List.getElem?_mapIdx, List.getElem?_append,
    List.getElem?_append]
  split
  · rename_i hAbove
    rw [onRow_of_ne (Nat.ne_of_lt hAbove)]
    rw [Option.map_id]
    rfl
  · rename_i hBelow
    obtain ⟨n, hY⟩ :=
      Nat.exists_eq_add_of_le (Nat.le_of_not_lt hBelow)
    subst hY
    rw [Nat.add_sub_cancel_left]
    cases n with
    | zero => simp
    | succ n =>
        rw [onRow_of_ne (by omega)]
        rw [Option.map_id]
        rfl

theorem Displays.edit_last
    {change : Line → Line}
    {row : Nat}
    {last : Line}
    (hGrid :
      grid.Displays rows capacity blank (lines ++ [last]))
    (hRow : row + 1 = min (lines.length + 1) rows)
    (hEdits : grid.Edits edited (onRow row change)) :
    edited.Displays rows capacity blank
      (lines ++ [change last]) := by
  have hLength :
      ∀ line : Line,
        (lines ++ [line]).length = lines.length + 1 := by
    intro line
    rw [List.length_append, List.length_singleton]
  have hAbove :
      lines.length + 1 - rows ≤ lines.length := by
    omega
  refine ⟨?_, ?_, ?_⟩
  · rw [hEdits.lines_eq, hGrid.screen_eq, hLength, hLength,
      List.drop_append_of_le_length hAbove,
      List.drop_append_of_le_length hAbove,
      List.append_assoc, List.append_assoc,
      List.singleton_append, List.singleton_append]
    apply mapIdx_onRow
    rw [List.length_drop]
    omega
  · rw [hEdits.scrollback_eq, hGrid.retained_eq, hLength,
      hLength, List.take_append_of_le_length hAbove,
      List.take_append_of_le_length hAbove]
  · rw [hEdits.view_eq, hGrid.view_eq]

/- A blank row is as good as a blank line. -/
theorem Displays.append_blank
    (hGrid : grid.Displays rows capacity blank lines)
    (hRoom : lines.length < rows) :
    grid.Displays rows capacity blank
      (lines ++ [blank]) := by
  obtain ⟨n, hBlanks⟩ :
      ∃ n, rows - lines.length = n + 1 :=
    Nat.exists_eq_add_one.mpr (by omega)
  have hLength :
      (lines ++ [blank]).length = lines.length + 1 := by
    rw [List.length_append, List.length_singleton]
  have hTop : lines.length - rows = 0 := by omega
  have hTop' : lines.length + 1 - rows = 0 := by omega
  have hRest : rows - (lines.length + 1) = n := by omega
  refine ⟨?_, ?_, hGrid.view_eq⟩
  · rw [hGrid.screen_eq, hLength, hTop, hTop', hBlanks, hRest,
      List.drop_zero, List.drop_zero, List.replicate_succ,
      List.append_assoc]
    rfl
  · rw [hGrid.retained_eq, hLength, hTop, hTop',
      List.take_zero, List.take_zero]

/-
  The history followed by the screen is what is left of the
  lines, with blank ones below.
-/
theorem Displays.toList_append_lines
    (hGrid : grid.Displays rows capacity blank lines) :
    grid.scrollback.toList ++ grid.lines =
      lines.rtake (capacity + rows) ++
        List.replicate (rows - lines.length) blank := by
  have hLength :
      (lines.take (lines.length - rows)).length =
        lines.length - rows := by
    rw [List.length_take]
    omega
  have hEvicted :
      lines.length - rows - capacity =
        lines.length - (capacity + rows) := by
    omega
  have hKept :
      lines.rtake (capacity + rows) =
        (lines.take (lines.length - rows)).rtake capacity ++
          lines.drop (lines.length - rows) := by
    unfold List.rtake
    rw [← List.drop_append_of_le_length (Nat.sub_le _ _),
      List.take_append_drop, hLength, hEvicted]
  rw [Scrollback.toList_eq_reverse_retained,
    hGrid.retained_eq, ← List.rtake_eq_reverse_take_reverse,
    hGrid.screen_eq, hKept, List.append_assoc]

/-
  Rows that count from the oldest line are those of the
  history, and then those of the screen.
-/
theorem WellFormed.lineAt?_sub_size
    {cols : Nat}
    (hGrid : grid.WellFormed cols rows capacity)
    (n : Nat) :
    grid.lineAt? (n - grid.scrollback.size) =
      (grid.scrollback.toList ++ grid.lines)[n]? := by
  have hLength := hGrid.history.length_retained
  rw [Scrollback.toList_eq_reverse_retained,
    List.getElem?_append, List.length_reverse, hLength]
  split
  · rename_i hOld
    have hAge :
        (-1 - ((n : Int) - grid.scrollback.size)).toNat =
          grid.scrollback.retained.length - 1 - n := by
      omega
    rw [lineAt?_of_neg hGrid.history (by omega), hAge,
      List.getElem?_reverse (by omega)]
  · rename_i hShown
    have hRow :
        ((n : Int) - grid.scrollback.size).toNat =
          n - grid.scrollback.size := by
      omega
    rw [lineAt?_of_nonneg _ (by omega), hRow]

/- Nothing is evicted as long as there is room. -/
theorem Displays.size_eq
    {cols : Nat}
    (hGrid : grid.Displays rows capacity blank lines)
    (hWellFormed : grid.WellFormed cols rows capacity)
    (hFits : lines.length ≤ capacity + rows) :
    grid.scrollback.size = lines.length - rows := by
  rw [← hWellFormed.history.length_retained,
    hGrid.retained_eq, List.length_take, List.length_reverse,
    List.length_take]
  omega

theorem Displays.lineAt?_eq
    {cols : Nat}
    (hGrid : grid.Displays rows capacity blank lines)
    (hWellFormed : grid.WellFormed cols rows capacity)
    (hFits : lines.length ≤ capacity + rows)
    {n : Nat}
    (hLine : n < lines.length) :
    grid.lineAt? (n - grid.scrollback.size) = lines[n]? := by
  have hAll : lines.rtake (capacity + rows) = lines := by
    unfold List.rtake
    rw [Nat.sub_eq_zero_of_le hFits, List.drop_zero]
  rw [hWellFormed.lineAt?_sub_size,
    hGrid.toList_append_lines, hAll,
    List.getElem?_append_left hLine]

end

------------------------------------------------------------
-- One More Line on a Full Screen
------------------------------------------------------------

section

variable {cols rows capacity : Nat} {lines : List Line}
  {grid : Grid} {blank : Cell}
  (hGrid :
    grid.Displays rows capacity (.ofBlank cols blank) lines)
  (hFull : rows ≤ lines.length)

include hGrid hFull

theorem Displays.lines_eq_drop :
    grid.lines = lines.drop (lines.length - rows) := by
  rw [hGrid.screen_eq, Nat.sub_eq_zero_of_le hFull,
    List.replicate_zero, List.append_nil]

variable (hWellFormed : grid.WellFormed cols rows capacity)
  (hRows : 0 < rows)

include hWellFormed hRows

/- The first line on the screen goes to the history. -/
theorem Displays.retained_scrollUp :
    (grid.scrollUp 0 (rows - 1) 1 true
        blank).1.scrollback.retained =
      (lines.take (lines.length - rows + 1)).reverse.take
        capacity := by
  have hScrolls :=
    (scrolls_scrollUp hWellFormed
      (Nat.sub_lt hRows Nat.one_pos) Nat.one_pos
      (Nat.le_add_left 1 _) true blank).1
  have hTop : lines.length - rows < lines.length := by
    omega
  rw [hScrolls.scrollback_eq,
    List.take_succ_eq_append_getElem hTop,
    List.reverse_append]
  split
  · have hSlice :
        grid.slice 0 (0 + 1) =
          [lines[lines.length - rows]] := by
      unfold slice
      rw [List.drop_zero, hGrid.lines_eq_drop hFull,
        List.drop_eq_getElem_cons hTop]
      rfl
    rw [(hWellFormed.pushAll_slice (by omega) blank).2.1,
      hSlice, hGrid.retained_eq, hWellFormed.capacity_eq,
      List.take_append, List.take_append, List.take_take]
    congr 2
    omega
  · rename_i hUses
    have hNoRoom : capacity = 0 := by
      apply Nat.eq_zero_of_not_pos
      intro hSome
      apply hUses
      refine usesHistory_iff.mpr ⟨rfl, rfl, ?_, ?_⟩
      · rw [hWellFormed.rows_eq]
        omega
      · rw [hWellFormed.capacity_eq]
        exact hSome
    rw [hGrid.retained_eq, hNoRoom, List.take_zero,
      List.take_zero]

theorem Displays.lines_scrollUp :
    (grid.scrollUp 0 (rows - 1) 1 true blank).1.lines =
      lines.drop (lines.length - rows + 1) ++
        [.ofBlank cols blank] := by
  have hScrolls :=
    (scrolls_scrollUp hWellFormed
      (Nat.sub_lt hRows Nat.one_pos) Nat.one_pos
      (Nat.le_add_left 1 _) true blank).1
  have hHeight : grid.lines.length = rows :=
    hWellFormed.rows_eq
  rw [hScrolls.lines_eq]
  unfold movedUp
  rw [Nat.sub_add_cancel hRows,
    List.take_of_length_le (Nat.le_of_eq hHeight),
    List.drop_of_length_le (Nat.le_of_eq hHeight),
    hGrid.lines_eq_drop hFull, List.drop_drop]
  simp

/- A full screen makes room for one more line. -/
theorem Displays.scrollUp :
    (grid.scrollUp 0 (rows - 1) 1 true blank).1.Displays rows
      capacity (.ofBlank cols blank)
      (lines ++ [.ofBlank cols blank]) := by
  have hLength :
      (lines ++ [Line.ofBlank cols blank]).length =
        lines.length + 1 := by
    rw [List.length_append, List.length_singleton]
  have hNext :
      lines.length + 1 - rows =
        lines.length - rows + 1 := by
    omega
  have hAbove : lines.length - rows + 1 ≤ lines.length := by
    omega
  have hNone : rows - (lines.length + 1) = 0 := by
    omega
  refine ⟨?_, ?_, ?_⟩
  · rw [hGrid.lines_scrollUp hFull hWellFormed hRows, hLength,
      hNext, hNone, List.drop_append_of_le_length hAbove,
      List.replicate_zero, List.append_nil]
  · rw [hGrid.retained_scrollUp hFull hWellFormed hRows,
      hLength, hNext, List.take_append_of_le_length hAbove]
  · unfold Grid.scrollUp
    dsimp only
    split
    · exact hGrid.view_eq
    · rw [hGrid.view_eq]
      simp only [Nat.lt_irrefl, and_false, if_false]
      rfl

end

end Grid

end VideoTerminal
