import VideoTerminal.Proofs.Grid.Dirty

/-
  A view of the history that stays with its lines.  While the
  view is scrolled back, every line that goes to the history
  moves it by one, as far as the history reaches.

  Main declarations:
    * `Grid.LooksBack`
    * `Grid.Anchors`
    * `Grid.Anchors.trans`
    * `Grid.Anchors.exists_visibleLine?`
    * `Grid.WellFormed.anchors_scrollUp`
-/

namespace VideoTerminal

namespace Grid

------------------------------------------------------------
-- Anchored Views
------------------------------------------------------------

/- The view is scrolled back, as far as there are lines. -/
structure LooksBack
    (grid : Grid) : Prop where
  aligned : grid.scrollback.Aligned
  view_pos : 0 < grid.viewOffset
  view_le : grid.viewOffset ≤ grid.scrollback.size

/-
  One screen comes from another while some lines, the last of
  them in front, go to the history and the view with them.
-/
structure Anchors
    (pushed : List Line)
    (grid after : Grid) : Prop where
  aligned : after.scrollback.Aligned
  rows_eq : after.rows = grid.rows
  capacity_eq :
    after.scrollback.capacity = grid.scrollback.capacity
  head_eq :
    after.scrollback.head =
      grid.scrollback.head + pushed.length
  retained_eq :
    after.scrollback.retained =
      (pushed ++ grid.scrollback.retained).take
        grid.scrollback.capacity
  view_eq :
    after.viewOffset =
      min (grid.viewOffset + pushed.length)
        after.scrollback.size

namespace Anchors

variable {grid between after : Grid} {pushed next : List Line}

theorem size_eq
    (hGrid : grid.LooksBack)
    (hAnchors : Anchors pushed grid after) :
    after.scrollback.size =
      min (pushed.length + grid.scrollback.size)
        grid.scrollback.capacity := by
  rw [← hAnchors.aligned.length_retained,
    hAnchors.retained_eq, List.length_take,
    List.length_append, hGrid.aligned.length_retained,
    Nat.min_comm]

theorem looksBack
    (hGrid : grid.LooksBack)
    (hAnchors : Anchors pushed grid after) :
    after.LooksBack where
  aligned := hAnchors.aligned
  view_pos := by
    have hSize := hAnchors.size_eq hGrid
    have hView := hGrid.view_pos
    have hLe := hGrid.view_le
    have hCapacity := hGrid.aligned.size_le_capacity
    rw [hAnchors.view_eq]
    omega
  view_le := by
    rw [hAnchors.view_eq]
    exact Nat.min_le_right _ _

/- The history and the view are left alone. -/
theorem of_same
    (hGrid : grid.LooksBack)
    (hRows : after.rows = grid.rows)
    (hHistory : after.scrollback = grid.scrollback)
    (hView : after.viewOffset = grid.viewOffset) :
    Anchors [] grid after where
  aligned := hHistory.symm ▸ hGrid.aligned
  rows_eq := hRows
  capacity_eq := by rw [hHistory]
  head_eq := by rw [hHistory]; rfl
  retained_eq := by
    rw [hHistory, List.nil_append, List.take_of_length_le]
    rw [hGrid.aligned.length_retained]
    exact hGrid.aligned.size_le_capacity
  view_eq := by
    rw [hHistory, hView]
    exact (Nat.min_eq_left hGrid.view_le).symm

/-
  What a view reaches with some lines and then with others, it
  reaches with all of them: where it is cut short once, at the
  end of a full history, it stays there.
-/
theorem trans
    (hGrid : grid.LooksBack)
    (hFirst : Anchors pushed grid between)
    (hSecond : Anchors next between after) :
    Anchors (next ++ pushed) grid after where
  aligned := hSecond.aligned
  rows_eq := hSecond.rows_eq.trans hFirst.rows_eq
  capacity_eq :=
    hSecond.capacity_eq.trans hFirst.capacity_eq
  head_eq := by
    rw [hSecond.head_eq, hFirst.head_eq, List.length_append]
    omega
  retained_eq := by
    rw [hSecond.retained_eq, hFirst.retained_eq,
      hFirst.capacity_eq, List.append_assoc,
      List.take_append, List.take_take,
      Nat.min_eq_left (Nat.sub_le _ _), ← List.take_append]
  view_eq := by
    have hBetween := hFirst.looksBack hGrid
    have hSize := hSecond.size_eq hBetween
    rw [hSecond.view_eq, hFirst.view_eq, List.length_append]
    omega

/-
  As long as the view is not cut short, what is in view of the
  history stays in view, row by row.
-/
theorem exists_visibleLine?
    (hGrid : grid.LooksBack)
    (hAnchors : Anchors pushed grid after)
    (hRoom :
      grid.viewOffset + pushed.length ≤
        after.scrollback.size)
    {y : Nat}
    (hRow : y < grid.rows)
    (hBack : y < grid.viewOffset) :
    ∃ line,
      grid.visibleLine? y = some line ∧
        after.visibleLine? y = some line := by
  have hView :
      after.viewOffset =
        grid.viewOffset + pushed.length := by
    rw [hAnchors.view_eq, Nat.min_eq_left hRoom]
  have hSize := hGrid.view_le
  have hCapacity := hAnchors.aligned.size_le_capacity
  rcases hGrid.aligned.exists_get?_eq_some
      (show grid.viewOffset - 1 - y < grid.scrollback.size by
        omega) with
    ⟨line, hLine⟩
  refine ⟨line, ?_, ?_⟩
  · unfold visibleLine?
    rw [if_neg (Nat.not_le.mpr hRow), if_pos hBack]
    exact hLine
  · unfold visibleLine?
    rw [hAnchors.rows_eq, hView,
      if_neg (Nat.not_le.mpr hRow), if_pos (by omega),
      ← hAnchors.aligned.getElem?_retained,
      hAnchors.retained_eq, List.getElem?_take,
      ← hAnchors.capacity_eq, if_pos (by omega),
      List.getElem?_append_right (by omega)]
    have hAge :
        grid.viewOffset + pushed.length - 1 - y -
            pushed.length =
          grid.viewOffset - 1 - y := by
      omega
    rw [hAge, hGrid.aligned.getElem?_retained]
    exact hLine

end Anchors

------------------------------------------------------------
-- Drawing and Scrolling
------------------------------------------------------------

section

variable {cols rows capacity origin bottom n : Nat}
  {grid drawn : Grid}

theorem Draws.anchors
    (hDraws : grid.Draws drawn)
    (hGrid : grid.LooksBack) :
    Anchors [] grid drawn :=
  .of_same hGrid hDraws.rows_eq hDraws.scrollback_eq
    hDraws.view_eq

/- Without an exchange of lines, the view does not move. -/
private theorem anchors_of_still
    (hGrid : grid.LooksBack)
    {moved : Grid}
    {exchanged view : Nat}
    (hView : moved.viewOffset = grid.viewOffset)
    (hNone : exchanged = 0)
    (hRows :
      (grid.marking moved exchanged origin bottom view).rows =
        grid.rows)
    (hHistory :
      (grid.marking moved exchanged origin bottom
        view).scrollback = grid.scrollback) :
    Anchors [] grid
      (grid.marking moved exchanged origin bottom view) := by
  refine .of_same hGrid hRows hHistory ?_
  unfold marking
  rw [if_neg (by omega)]
  exact hView

theorem WellFormed.anchors_scrollUp
    (hGrid : grid.WellFormed cols rows capacity)
    (hBack : grid.LooksBack)
    (hBottom : bottom < rows)
    (hSome : 0 < n)
    (hRoom : origin + n ≤ bottom + 1)
    (retain : Bool)
    (blank : Cell) :
    ∃ pushed,
      Anchors pushed grid
        (grid.scrollUp origin bottom n retain blank).1 := by
  have hBottomRow : bottom < grid.rows :=
    hGrid.rows_eq.symm ▸ hBottom
  have hScrolled :=
    scrollUp_eq hBottomRow
      (show min n (bottom + 1 - origin) = n by omega) hSome
      retain blank
  have hHistory :=
    (scrolls_scrollUp hGrid hBottom hSome hRoom retain
      blank).1.scrollback_eq
  have hRows :=
    (hGrid.carries_scrollUp hBottom hSome hRoom retain
      blank).rows_eq
  by_cases hUses : grid.usesHistory origin bottom retain
  · have hCapacity := (usesHistory_iff.mp hUses).2.2.2
    rcases hGrid.history_scrollUp hBottom hSome hRoom blank
        hUses with
      ⟨hRing, hRetained⟩
    have hLength :
        (grid.slice origin (origin + n)).length = n := by
      rw [length_slice (by omega), Nat.add_sub_cancel_left]
    refine ⟨(grid.slice origin (origin + n)).reverse, ?_⟩
    exact
      { aligned := hRing.aligned
        rows_eq := hRows
        capacity_eq := by
          rw [hHistory, if_pos hUses,
            Scrollback.capacity_pushAll]
        head_eq := by
          rw [hHistory, if_pos hUses,
            Scrollback.head_pushAll hCapacity,
            List.length_reverse]
        retained_eq := hRetained
        view_eq := by
          rw [hScrolled, List.length_reverse, hLength]
          unfold marking
          simp only [hUses, hSome, hBack.view_pos, and_self,
            if_true]
          rfl }
  · refine ⟨[], ?_⟩
    rw [if_neg hUses] at hHistory
    rw [hScrolled] at hRows hHistory ⊢
    dsimp only at hRows hHistory ⊢
    refine
      anchors_of_still hBack ?_ (if_neg hUses) hRows hHistory
    rfl

theorem WellFormed.anchors_scrollDown
    (hGrid : grid.WellFormed cols rows capacity)
    (hBack : grid.LooksBack)
    (hBottom : bottom < rows)
    (hSome : 0 < n)
    (hRoom : origin + n ≤ bottom + 1)
    (blank : Cell) :
    Anchors [] grid
      (grid.scrollDown origin bottom n false blank).1 := by
  have hBottomRow : bottom < grid.rows :=
    hGrid.rows_eq.symm ▸ hBottom
  have hHistory :=
    (scrolls_scrollDown hGrid hBottom hSome hRoom false
      blank).1.scrollback_eq
  have hRows :=
    (hGrid.carries_scrollDown hBottom hSome hRoom false
      blank).rows_eq
  have hUses : ¬grid.usesHistory origin bottom false :=
    fun hUses => nomatch (usesHistory_iff.mp hUses).1
  rw [if_neg hUses] at hHistory
  rw [scrollDown_eq hBottomRow (by omega) hSome]
    at hRows hHistory ⊢
  dsimp only at hRows hHistory ⊢
  refine
    anchors_of_still hBack ?_ (if_neg hUses) hRows hHistory
  rfl

end

end Grid

end VideoTerminal
