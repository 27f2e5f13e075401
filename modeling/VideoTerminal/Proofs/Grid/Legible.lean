import VideoTerminal.Proofs.Grid.Dirty
import VideoTerminal.Proofs.Grid.Resize
import VideoTerminal.Proofs.Line.Legible

/-
  Screens and histories that hold no control characters.
  Drawing what can be shown, scrolling and changes of size
  keep them so.

  Main declarations:
    * `Grid.Inks`
    * `Grid.inks_eraseRect`
    * `Grid.Legible`
    * `Grid.WellFormed.legible_scrollRegion`
    * `Grid.WellFormed.legible_resize`
    * `Grid.WellFormed.legible_of_lineAt?`
-/

namespace VideoTerminal

variable [TextLibrary]

/- A history retains lines that it has or is given. -/
theorem Scrollback.WellFormed.legible_pushAll
    {cols : Nat}
    {ring : Scrollback}
    (hRing : ring.WellFormed cols)
    {lines : List Line}
    (hLines : ∀ line ∈ lines, line.WellFormed cols)
    (hGiven : ∀ line ∈ lines, line.Legible)
    (hHistory : ∀ line ∈ ring.retained, line.Legible)
    {blank : Cell} :
    ∀ line ∈ (ring.pushAll blank lines).1.retained,
      line.Legible := by
  intro line hLine
  rw [(hRing.pushAll hLines blank).2.1] at hLine
  rcases List.mem_append.mp (List.mem_of_mem_take hLine) with
    hLeft | hOld
  · exact hGiven line (List.mem_reverse.mp hLeft)
  · exact hHistory line hOld

namespace Grid

------------------------------------------------------------
-- Drawing What Can Be Shown
------------------------------------------------------------

/- Lines are changed in place, and stay legible. -/
structure Inks
    (grid inked : Grid) : Prop extends grid.Draws inked where
  cols_eq : inked.cols = grid.cols
  legible :
    (∀ line ∈ grid.lines, line.Legible) →
      ∀ line ∈ inked.lines, line.Legible

namespace Inks

theorem refl
    (grid : Grid) :
    grid.Inks grid where
  toDraws := Draws.refl grid
  cols_eq := rfl
  legible := id

theorem trans
    {grid inked last : Grid}
    (hFirst : grid.Inks inked)
    (hSecond : inked.Inks last) :
    grid.Inks last where
  toDraws := hFirst.toDraws.trans hSecond.toDraws
  cols_eq := hSecond.cols_eq.trans hFirst.cols_eq
  legible := fun hLines =>
    hSecond.legible (hFirst.legible hLines)

end Inks

section

variable (grid : Grid)

theorem inks_markAllDirty :
    grid.Inks grid.markAllDirty where
  toDraws := draws_markAllDirty grid
  cols_eq := rfl
  legible := id

theorem inks_markDirty
    (row : Nat) :
    grid.Inks (grid.markDirty row) where
  toDraws := draws_markDirty grid row
  cols_eq := rfl
  legible := id

section

variable (col row : Nat)

/- A change within the screen that is left out outside of it. -/
theorem inks_guarded
    {change : Line → Line}
    (hChange :
      ∀ line, line.Legible → (change line).Legible) :
    grid.Inks
      (if col < grid.cols ∧ row < grid.rows then
        grid.modifyLine row change
      else
        grid) := by
  split
  · refine
      { toDraws := draws_modifyLine grid row change
        cols_eq := rfl
        legible := ?_ }
    intro hLines line hLine
    rw [(edits_modifyLine grid row change).lines_eq] at hLine
    rcases List.mem_mapIdx.mp hLine with ⟨y, hY, rfl⟩
    have hOld := hLines _ (List.getElem_mem hY)
    unfold onRow
    split
    · exact hChange _ hOld
    · exact hOld
  · exact Inks.refl grid

theorem inks_modifyCell
    {change : Cell → Cell}
    (hChange : ∀ cell, cell.Legible → (change cell).Legible) :
    grid.Inks (grid.modifyCell col row change) :=
  grid.inks_guarded col row fun _ hLine =>
    hLine.modify col hChange

theorem inks_breakWideAt :
    grid.Inks (grid.breakWideAt col row) := by
  unfold breakWideAt
  split
  · exact Inks.refl grid
  · split
    · exact
        grid.inks_modifyCell _ _ fun _ _ =>
          Cell.legible_of_space rfl
    · split
      · exact
          grid.inks_modifyCell _ _ fun _ _ =>
            Cell.legible_of_space rfl
      · exact Inks.refl grid

end

section

variable {blank : Cell} (hBlank : blank.Legible)

include hBlank

theorem inks_set
    (col row : Nat) :
    grid.Inks (grid.set col row blank) :=
  grid.inks_guarded col row fun _ hLine => hLine.set hBlank col

theorem inks_insertBlanks
    (col row n : Nat) :
    grid.Inks (grid.insertBlanks col row n blank) :=
  grid.inks_guarded col row fun _ hLine =>
    hLine.insertBlanks hBlank col n

theorem inks_deleteCells
    (col row n : Nat) :
    grid.Inks (grid.deleteCells col row n blank) :=
  grid.inks_guarded col row fun _ hLine =>
    hLine.deleteCells hBlank col n

theorem inks_clear :
    grid.Inks (grid.clear blank) where
  toDraws := draws_clear grid blank
  cols_eq := rfl
  legible := by
    intro _ line hLine
    rcases List.mem_map.mp hLine with ⟨old, _, rfl⟩
    exact Line.legible_ofBlank _ hBlank

theorem inks_eraseRect
    (x₁ y₁ x₂ y₂ : Nat) :
    grid.Inks (grid.eraseRect x₁ y₁ x₂ y₂ blank) where
  toDraws := draws_eraseRect grid x₁ y₁ x₂ y₂ blank
  cols_eq := (edits_eraseRect grid x₁ y₁ x₂ y₂ blank).cols_eq
  legible := by
    intro hLines line hLine
    rw [(edits_eraseRect grid x₁ y₁ x₂ y₂ blank).lines_eq]
      at hLine
    rcases List.mem_mapIdx.mp hLine with ⟨y, hY, rfl⟩
    have hOld := hLines _ (List.getElem_mem hY)
    unfold inRows
    split
    · unfold eraseColumns
      split
      · exact hOld.eraseSpan hBlank _ _
      · exact hOld
    · exact hOld

end

end

------------------------------------------------------------
-- Screens With Their Histories
------------------------------------------------------------

/- The lines of a screen and of its history can be shown. -/
structure Legible
    (grid : Grid) : Prop where
  lines : ∀ line ∈ grid.lines, line.Legible
  history : ∀ line ∈ grid.scrollback.retained, line.Legible

theorem legible_ofBlank
    (cols rows capacity : Nat)
    {blank : Cell}
    (hBlank : blank.Legible) :
    (ofBlank cols rows capacity blank).Legible where
  lines := by
    intro line hLine
    rw [List.eq_of_mem_replicate hLine]
    exact Line.legible_ofBlank cols hBlank
  history := nofun

section

variable {grid after : Grid}

theorem Legible.of_eq
    (hGrid : grid.Legible)
    (hLines : after.lines = grid.lines)
    (hHistory : after.scrollback = grid.scrollback) :
    after.Legible where
  lines := hLines.symm ▸ hGrid.lines
  history := hHistory.symm ▸ hGrid.history

theorem Legible.ink
    (hGrid : grid.Legible)
    (hInks : grid.Inks after) :
    after.Legible where
  lines := hInks.legible hGrid.lines
  history := hInks.scrollback_eq.symm ▸ hGrid.history

theorem Legible.clearScrollback
    (hGrid : grid.Legible) :
    grid.clearScrollback.Legible where
  lines := by
    rw [lines_clearScrollback]
    exact hGrid.lines
  history := by
    rw [scrollback_clearScrollback]
    nofun

end

section

variable {cols rows capacity : Nat} {grid : Grid}
  (hGrid : grid.WellFormed cols rows capacity)
  (hLegible : grid.Legible)
  {blank : Cell}
  (hBlank : blank.Legible)

include hGrid hLegible

/- A row of the screen or of its history can be shown. -/
theorem WellFormed.legible_of_lineAt?
    {row : Int}
    {line : Line}
    (hLine : grid.lineAt? row = some line) :
    line.Legible := by
  cases row with
  | ofNat row =>
      exact
        hLegible.lines line (List.mem_of_getElem? hLine)
  | negSucc age =>
      apply hLegible.history
      apply List.mem_of_getElem?
      rw [hGrid.history.getElem?_retained age]
      exact hLine

include hBlank

theorem WellFormed.legible_scrollRegion
    {origin bottom n : Nat}
    (hBottom : bottom < rows)
    (hSome : 0 < n)
    (hRoom : origin + n ≤ bottom + 1)
    (direction : ScrollDirection)
    (retain : Bool) :
    (grid.scrollRegion origin bottom n direction retain
      blank).1.Legible := by
  have hFresh := Line.legible_ofBlank cols hBlank
  unfold Grid.scrollRegion
  cases direction with
  | up =>
      have hScrolls :=
        (scrolls_scrollUp hGrid hBottom hSome hRoom retain
          blank).1
      constructor
      · intro line hLine
        rw [hScrolls.lines_eq] at hLine
        rcases mem_movedUp hLine with hOld | hNew
        · exact hLegible.lines line hOld
        · exact (List.eq_of_mem_replicate hNew) ▸ hFresh
      · intro line hLine
        rw [hScrolls.scrollback_eq] at hLine
        split at hLine
        · refine
            hGrid.history.legible_pushAll
              (hGrid.forall_mem_slice origin (origin + n)) ?_
              hLegible.history line hLine
          exact fun left hLeft =>
            hLegible.lines left
              (List.mem_of_mem_take
                (List.mem_of_mem_drop hLeft))
        · exact hLegible.history line hLine
  | down =>
      have hScrolls :=
        (scrolls_scrollDown hGrid hBottom hSome hRoom retain
          blank).1
      constructor
      · intro line hLine
        rw [hScrolls.lines_eq] at hLine
        rcases mem_movedDown hLine with hOld | hBack
        · exact hLegible.lines line hOld
        · unfold returning at hBack
          split at hBack
          · rcases List.mem_append.mp
                (List.mem_reverse.mp hBack) with
              hOld | hNew
            · exact
                hLegible.history line
                  (List.mem_of_mem_take hOld)
            · exact (List.eq_of_mem_replicate hNew) ▸ hFresh
          · exact (List.eq_of_mem_replicate hBack) ▸ hFresh
      · intro line hLine
        rw [hScrolls.scrollback_eq] at hLine
        split at hLine
        · have hPopped :=
            (hGrid.popInto_slice hBottom
              (show n ≤ bottom + 1 by omega) blank).2.1
          rw [hPopped] at hLine
          exact
            hLegible.history line (List.mem_of_mem_drop hLine)
        · exact hLegible.history line hLine

theorem WellFormed.legible_resize
    (hPlain : blank.IsPlain)
    (cols' rows' cursorRow : Nat)
    (retain : Bool) :
    (grid.resize cols' rows' cursorRow retain
      blank).1.Legible := by
  have hFitted := hGrid.resizeCols cols' hPlain
  have hRefit :
      ∀ line,
        line.Legible →
          (grid.refit cols' blank line).Legible := by
    intro line hLine
    unfold refit
    split
    · exact hLine
    · exact hLine.resize hBlank cols'
  have hLines :
      ∀ line ∈ (grid.resizeCols cols' blank).lines,
        line.Legible := by
    intro line hLine
    rw [lines_resizeCols] at hLine
    rcases List.mem_map.mp hLine with ⟨old, hOld, rfl⟩
    exact hRefit old (hLegible.lines old hOld)
  have hHistory :
      ∀ line ∈
          (grid.resizeCols cols' blank).scrollback.retained,
        line.Legible := by
    intro line hLine
    rw [retained_resizeCols] at hLine
    rcases List.mem_map.mp hLine with ⟨old, hOld, rfl⟩
    exact hRefit old (hLegible.history old hOld)
  unfold Grid.resize Grid.resizeRows
  dsimp only
  constructor
  · intro line hLine
    rcases List.mem_append.mp hLine with hKept | hNew
    · exact
        hLines line
          (List.mem_of_mem_drop (List.mem_of_mem_take hKept))
    · rw [List.eq_of_mem_replicate hNew]
      exact Line.legible_ofBlank _ hBlank
  · intro line hLine
    dsimp only at hLine
    split at hLine
    · exact
        hFitted.history.legible_pushAll
          (fun left hLeft =>
            hFitted.lines left (List.mem_of_mem_take hLeft))
          (fun left hLeft =>
            hLines left (List.mem_of_mem_take hLeft))
          hHistory line hLine
    · exact hHistory line hLine

end

end Grid

end VideoTerminal
