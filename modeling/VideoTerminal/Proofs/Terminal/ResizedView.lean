import VideoTerminal.Proofs.Terminal.AnchoredView
import VideoTerminal.Text.Linked

/-
  What a view that is scrolled back shows after a change of
  the number of rows.  The lines of the history keep their
  numbers, and the view its distance from the newest of them.
  It shows later lines than before if lines leave at the top.

  Main declarations:
    * `Scrollback.numbered?`
    * `Scrollback.Aligned.numbered?_pushAll`
    * `Grid.KeepsTopLine`
    * `Grid.LooksBack.topNumber_resizeRows`
    * `Grid.LooksBack.keepsTopLine_resize_iff`
-/

namespace VideoTerminal

namespace Scrollback

------------------------------------------------------------
-- Lines by Number
------------------------------------------------------------

/-
  The line that came to the history after the given number of
  others, if the history still has it.
-/
def numbered?
    (ring : Scrollback)
    (number : Nat) : Option Line :=
  if number < ring.head then
    ring.get? (ring.head - 1 - number)
  else
    none

section

variable {ring : Scrollback} (hRing : ring.Aligned)

include hRing

theorem Aligned.numbered?_eq
    {number : Nat}
    (hNumber : number < ring.head) :
    ring.numbered? number =
      ring.retained[ring.head - 1 - number]? := by
  unfold numbered?
  rw [if_pos hNumber, hRing.getElem?_retained]

/-
  New lines take the numbers that follow.  An old line keeps
  its number as long as there is room for it.
-/
theorem Aligned.numbered?_pushAll
    (hCapacity : 0 < ring.capacity)
    (blank : Cell)
    (lines : List Line)
    {number : Nat}
    (hNumber : number < ring.head) :
    (ring.pushAll blank lines).1.numbered? number =
      if ring.head + lines.length ≤ number + ring.capacity then
        ring.numbered? number
      else
        none := by
  have hHead := head_pushAll hCapacity blank lines
  rcases hRing.pushAll blank lines with ⟨hAfter, hRetained⟩
  rw [hAfter.numbered?_eq (by omega), hHead, hRetained,
    List.getElem?_take, hRing.numbered?_eq hNumber]
  refine if_ctx_congr (by omega) (fun hRoom => ?_) fun _ => rfl
  have hBehind :
      lines.reverse.length ≤
        ring.head + lines.length - 1 - number := by
    rw [List.length_reverse]
    omega
  rw [List.getElem?_append_right hBehind, List.length_reverse]
  congr 1
  omega

end

end Scrollback

namespace Grid

------------------------------------------------------------
-- The Top of a View
------------------------------------------------------------

/- The number of the line in the first row of the view. -/
def topNumber
    (grid : Grid) : Nat :=
  grid.scrollback.head - grid.viewOffset

/-
  The line in the first row of the view of one screen is in
  the first row of the view of another one, if that one has
  still got it.
-/
def KeepsTopLine
    (grid after : Grid) : Prop :=
  ∀ line,
    grid.visibleLine? 0 = some line →
      after.scrollback.numbered? grid.topNumber = some line →
        after.topNumber = grid.topNumber ∧
          after.visibleLine? 0 = some line

namespace LooksBack

variable {grid : Grid} (hGrid : grid.LooksBack)

include hGrid

theorem topNumber_add_viewOffset :
    grid.topNumber + grid.viewOffset =
      grid.scrollback.head := by
  have hView := hGrid.view_le
  have hSize := hGrid.aligned.size_le_head
  unfold topNumber
  omega

theorem visibleLine?_zero
    (hRows : 0 < grid.rows) :
    grid.visibleLine? 0 =
      grid.scrollback.numbered? grid.topNumber := by
  have hView := hGrid.view_pos
  have hTop := hGrid.topNumber_add_viewOffset
  have hAge :
      grid.scrollback.head - 1 - grid.topNumber =
        grid.viewOffset - 1 - 0 := by
    omega
  unfold visibleLine? Scrollback.numbered?
  rw [if_neg (by omega), if_pos hView, if_pos (by omega),
    hAge]

theorem exists_visibleLine?_zero
    (hRows : 0 < grid.rows) :
    ∃ line, grid.visibleLine? 0 = some line := by
  have hView := hGrid.view_pos
  have hLe := hGrid.view_le
  unfold visibleLine?
  rw [if_neg (by omega), if_pos hView]
  exact hGrid.aligned.exists_get?_eq_some (by omega)

theorem capacity_pos :
    0 < grid.scrollback.capacity := by
  have hView := hGrid.view_pos
  have hLe := hGrid.view_le
  have hSize := hGrid.aligned.size_le_capacity
  omega

------------------------------------------------------------
-- Changing the Number of Rows
------------------------------------------------------------

variable (rows cursorRow : Nat) (blank : Cell)

/- The lines that leave are counted. -/
theorem head_resizeRows :
    (grid.resizeRows rows cursorRow true
        blank).1.scrollback.head =
      grid.scrollback.head +
        (grid.resizeRows rows cursorRow true blank).2 := by
  refine
    (Scrollback.head_pushAll hGrid.capacity_pos blank _).trans
      ?_
  rw [List.length_take]
  exact
    congrArg _ (Nat.min_eq_left (Nat.min_le_right _ _))

/-
  The history does not lose lines in view without gaining as
  many, so that the view can stay where it is.
-/
theorem looksBack_resizeRows :
    (grid.resizeRows rows cursorRow true blank).1.LooksBack ∧
      (grid.resizeRows rows cursorRow true
          blank).1.viewOffset =
        grid.viewOffset := by
  have hView := hGrid.view_pos
  have hLe := hGrid.view_le
  have hCapacity := hGrid.aligned.size_le_capacity
  rcases hGrid.aligned.pushAll blank
      (grid.lines.take
        (min (cursorRow + 1 - rows) grid.rows)) with
    ⟨hAligned, hRetained⟩
  have hSize :
      grid.scrollback.size ≤
        (grid.resizeRows rows cursorRow true
          blank).1.scrollback.size := by
    refine
      Nat.le_trans ?_
        (Nat.le_of_eq hAligned.length_retained)
    rw [hRetained, List.length_take, List.length_append,
      hGrid.aligned.length_retained]
    omega
  have hSame :
      (grid.resizeRows rows cursorRow true
          blank).1.viewOffset =
        grid.viewOffset :=
    Nat.min_eq_left (Nat.le_trans hLe hSize)
  exact
    ⟨⟨hAligned, hSame.symm ▸ hView,
      hSame.symm ▸ Nat.le_trans hLe hSize⟩, hSame⟩

theorem topNumber_resizeRows :
    (grid.resizeRows rows cursorRow true
        blank).1.topNumber =
      grid.topNumber +
        (grid.resizeRows rows cursorRow true blank).2 := by
  have hView := hGrid.view_le
  have hSize := hGrid.aligned.size_le_head
  unfold topNumber
  rw [hGrid.head_resizeRows,
    (hGrid.looksBack_resizeRows rows cursorRow blank).2]
  omega

theorem numbered?_topNumber_resizeRows :
    (grid.resizeRows rows cursorRow true
        blank).1.scrollback.numbered? grid.topNumber =
      if grid.viewOffset +
            (grid.resizeRows rows cursorRow true blank).2 ≤
          grid.scrollback.capacity then
        grid.scrollback.numbered? grid.topNumber
      else
        none := by
  have hView := hGrid.view_pos
  have hTop := hGrid.topNumber_add_viewOffset
  refine
    (hGrid.aligned.numbered?_pushAll hGrid.capacity_pos blank
      _ (by omega)).trans ?_
  have hLeaving :
      (grid.lines.take
          (min (cursorRow + 1 - rows) grid.rows)).length =
        (grid.resizeRows rows cursorRow true blank).2 := by
    rw [List.length_take]
    exact Nat.min_eq_left (Nat.min_le_right _ _)
  rw [hLeaving]
  exact if_congr (by omega) rfl rfl

/-
  The view moves on by the lines that leave.  So the line at
  its top stays there only if none leave, and it is not missed
  if the history has to let go of it.
-/
theorem keepsTopLine_resize_iff
    {rows : Nat}
    (hShown : 0 < grid.rows)
    (hRows : 0 < rows) :
    let resized :=
      grid.resize grid.cols rows cursorRow true blank
    resized.1.topNumber = grid.topNumber + resized.2 ∧
      (grid.KeepsTopLine resized.1 ↔
        resized.2 = 0 ∨
          grid.scrollback.capacity <
            grid.viewOffset + resized.2) := by
  have hSame :
      grid.resize grid.cols rows cursorRow true blank =
        grid.resizeRows rows cursorRow true blank := by
    unfold resize resizeCols
    rw [if_pos rfl]
  dsimp only
  rw [hSame]
  have hTop := hGrid.topNumber_resizeRows rows cursorRow blank
  have hNumbered :=
    hGrid.numbered?_topNumber_resizeRows rows cursorRow blank
  have hAfter :=
    (hGrid.looksBack_resizeRows rows cursorRow blank).1
  have hAfterRows :
      0 < (grid.resizeRows rows cursorRow true
        blank).1.rows := by
    show
      0 < (_ ++ List.replicate (rows - _) _ : List Line).length
    rw [List.length_append, List.length_replicate]
    omega
  have hFirst := hGrid.visibleLine?_zero hShown
  refine ⟨hTop, ?_, ?_⟩
  · intro hKeeps
    rcases hGrid.exists_visibleLine?_zero hShown with
      ⟨line, hLine⟩
    by_contra hMoved
    rw [not_or, Nat.not_lt] at hMoved
    rw [if_pos hMoved.2, ← hFirst, hLine] at hNumbered
    have hSameTop := (hKeeps line hLine hNumbered).1
    omega
  · rintro (hNone | hFull) line hLine hStill
    · rw [hNone, Nat.add_zero] at hTop
      rw [hAfter.visibleLine?_zero hAfterRows, hTop]
      exact ⟨rfl, hStill⟩
    · rw [if_neg (Nat.not_le.mpr hFull)] at hNumbered
      rw [hNumbered] at hStill
      cases hStill

end LooksBack

end Grid

namespace Terminal

------------------------------------------------------------
-- A View of One Line
------------------------------------------------------------

theorem Reachable.looksBack
    [TextLibrary]
    {terminal : Terminal}
    (hTerminal : Reachable terminal)
    (hView : 0 < terminal.session.primary.viewOffset) :
    terminal.session.primary.LooksBack := by
  rcases hTerminal.wellFormed with
    ⟨config, cols, rows, hWellFormed⟩
  exact hWellFormed.session.primary.looksBack hView

theorem reachable_lookingBack :
    Reachable lookingBack :=
  (Reachable.createRaised 3 2).performAll _

/- A third row is added below, and the view stays. -/
theorem keepsTopLine_lookingBack :
    let grid := lookingBack.session.primary
    let resized := grid.resize grid.cols 3 1 true .default
    resized.1.topNumber = grid.topNumber ∧
      grid.KeepsTopLine resized.1 := by
  have hBack : lookingBack.session.primary.LooksBack :=
    reachable_lookingBack.looksBack (by decide +kernel)
  rcases
    hBack.keepsTopLine_resize_iff 1 .default
      (show 0 < lookingBack.session.primary.rows by
        decide +kernel)
      (show 0 < 3 by decide) with
    ⟨hTop, hKeeps⟩
  have hNone :
      (lookingBack.session.primary.resize
        lookingBack.session.primary.cols 3 1 true
          .default).2 = 0 := by
    decide +kernel
  exact
    ⟨hTop.trans (congrArg _ hNone),
      hKeeps.mpr (.inl hNone)⟩

/-
  The first row leaves, and is in view from then on in place
  of the line in front of it.
-/
theorem not_forall_keepsTopLine :
    ¬∀ terminal,
      Reachable terminal →
        0 < terminal.session.primary.viewOffset →
          ∀ rows cursorRow blank,
            0 < rows →
              terminal.session.primary.KeepsTopLine
                (terminal.session.primary.resize
                  terminal.session.primary.cols rows cursorRow
                  true blank).1 := by
  intro hKeeps
  let grid := lookingBack.session.primary
  let resized := (grid.resize grid.cols 1 1 true .default).1
  have hMoved : grid.KeepsTopLine resized :=
    hKeeps lookingBack reachable_lookingBack
      (by decide +kernel) 1 1 .default (by decide)
  have hStill :
      resized.scrollback.numbered? grid.topNumber =
        grid.visibleLine? 0 := by
    decide +kernel
  have hOther :
      resized.visibleLine? 0 ≠ grid.visibleLine? 0 := by
    decide +kernel
  have hShown : (grid.visibleLine? 0).isSome := by
    decide +kernel
  rcases Option.isSome_iff_exists.mp hShown with ⟨line, hLine⟩
  rw [hLine] at hStill hOther
  exact hOther (hMoved line hLine hStill).2

end Terminal

end VideoTerminal
