import VideoTerminal.Proofs.Selection.Scroll
import VideoTerminal.Proofs.Session.Spares

/-
  What becomes of the text of a selection when lines scroll
  under it.  The selection is dropped, or keeps its text, or
  loses the front of it together with the oldest lines of the
  history.  Only one that reaches beyond the scroll region on
  both sides stays where it is while lines move inside it.

  Main declarations:
    * `Selection.Retained`
    * `Session.Addressable`
    * `Session.KeepsText`
    * `Session.Encloses`
    * `Session.Evicts`
    * `Session.chars_followScroll_of_history`
    * `Session.chars_followScroll_of_region`
    * `Session.chars_around_iff`
    * `Session.WellFormed.keepsText_scrollLines_iff`
-/

namespace VideoTerminal

/-
  A selection begins and ends in rows of a screen or of what
  its history retains.
-/
structure Selection.Retained
    (selection : Selection)
    (grid : Grid) : Prop
    extends selection.Within grid where
  first_lt : selection.first.row < grid.rows
  le_past : -grid.scrollback.size ≤ selection.past.row

namespace Session

/-
  The screens and the history have no more lines than there
  are addresses for in the memory of a machine.
-/
structure Addressable
    (session : Session) : Prop where
  rows_le : session.rows ≤ 2 ^ 62
  size_le : session.primary.scrollback.size ≤ 2 ^ 62

instance
    (session : Session) :
    Decidable session.Addressable :=
  decidable_of_iff
    (session.rows ≤ 2 ^ 62 ∧
      session.primary.scrollback.size ≤ 2 ^ 62)
    ⟨fun h => ⟨h.1, h.2⟩, fun h => ⟨h.1, h.2⟩⟩

------------------------------------------------------------
-- Selected Text
------------------------------------------------------------

theorem selectionText_of_eq_some
    {session : Session}
    {selection : Selection}
    (hSelection : session.selection = some selection)
    (hSome : selection.isEmpty = false) :
    session.selectionText =
      .ok
        (.ofList
          (selection.chars
            (session.grid selection.screen))) := by
  unfold selectionText
  rw [hSelection, Option.bind_some, Selection.text?_eq,
    hSome]
  rfl

theorem selectionText_of_active
    {session : Session}
    {selection : Selection}
    (hSelection : session.selection = some selection)
    (hScreen : selection.screen = session.screen)
    (hSome : selection.isEmpty = false) :
    session.selectionText =
      .ok (.ofList (selection.chars session.active)) := by
  rw [selectionText_of_eq_some hSelection hSome, hScreen]
  rfl

/-
  Nothing is selected any more, or the selected text is the
  same, or the front of it is lost when rows are evicted.
-/
def KeepsText
    (session after : Session)
    (evicts : Prop) : Prop :=
  after.selection = none ∨
    after.selectionText = session.selectionText ∨
    (evicts ∧
      ∃ text rest : String,
        session.selectionText = .ok text ∧
          after.selectionText = .ok rest ∧
          rest.toList <:+ text.toList)

/-
  A selection reaches beyond the rows that scroll on both
  sides.
-/
def Encloses
    (session : Session)
    (selection : Selection)
    (origin : Nat) : Prop :=
  selection.first.row < origin ∧
    session.regionBottom < selection.past.row

/-
  Lines go to the history, and it has no room for the oldest
  rows of a selection.
-/
def Evicts
    (session : Session)
    (selection : Selection)
    (origin count : Nat)
    (direction : ScrollDirection)
    (retain : Bool) : Prop :=
  direction = .up ∧
    session.active.usesHistory origin session.regionBottom
      retain ∧
    selection.first.row -
        session.scrollCount origin count <
      -(session.scrolledGrid origin count direction
        retain).1.scrollback.size

/- The selected characters of the rows that scroll. -/
def regionChars
    (session : Session)
    (selection : Selection)
    (origin : Nat)
    (grid : Grid) : List Char :=
  (Selection.rowsBetween origin session.regionBottom).flatMap
    (selection.rowChars grid)

------------------------------------------------------------
-- Following the Lines
------------------------------------------------------------

section

variable {selection : Selection} {grid scrolled : Grid}
  {moved origin bottom : Nat} {delta : Int}
  (hWithin : selection.Within grid)
  (hCarries : grid.Carries scrolled moved origin bottom delta)

section

variable
  (hMoves : selection.MovesBy delta (selection.shift delta))

include hWithin hCarries hMoves

/-
  With an exchange of lines, a selection that is left has the
  same text or, if its first row is gone, the end of it.
-/
theorem chars_followScroll_of_history
    (hExchange : 0 < moved)
    {rest : Selection}
    (hSome : selection.isEmpty = false)
    (hRest :
      followScroll selection scrolled moved origin bottom
        delta selection.screen = some rest) :
    rest.screen = selection.screen ∧
      rest.isEmpty = false ∧
      (rest.chars scrolled = selection.chars grid ∨
        (selection.first.row + delta <
            -scrolled.scrollback.size ∧
          rest.chars scrolled <:+ selection.chars grid)) := by
  have hFirst := hWithin.first
  have hPast := hWithin.past
  have hRows := hCarries.rows_eq
  rcases hCarries.history hExchange with ⟨_, hLines⟩
  unfold followScroll Selection.historyScrolled? at hRest
  rw [if_pos hExchange, if_neg (fun hNe => hNe rfl)] at hRest
  dsimp only at hRest
  rw [hMoves.firstRow_eq, hMoves.pastRow_eq] at hRest
  rcases Option.ite_none_left_eq_some.mp hRest with
    ⟨hInside, hKept⟩
  split at hKept
  · rename_i hAbove
    rcases Selection.of_cut?_eq_some hKept with
      ⟨_, hScreen, hPastEq, hFirstRow, _, hNonempty⟩
    have hAfter : rest.Within scrolled := by
      refine ⟨Int.le_of_eq hFirstRow.symm, ?_⟩
      rw [hPastEq, hMoves.pastRow_eq]
      omega
    refine ⟨hScreen, hNonempty, Or.inr ⟨hAbove, ?_⟩⟩
    apply
      Selection.chars_cut? hMoves hKept hAbove (by omega)
        hWithin hAfter hCarries.cols_eq
    intro row hLow hHigh
    exact
      hLines row (by omega) (by omega) (by omega) (by omega)
  · rename_i hStays
    cases hKept
    have hAfter : (selection.shift delta).Within scrolled := by
      constructor
      · rw [hMoves.firstRow_eq]
        omega
      · rw [hMoves.pastRow_eq]
        omega
    refine
      ⟨rfl, hMoves.isEmpty_eq.trans hSome, Or.inl ?_⟩
    apply hMoves.chars_eq hWithin hAfter hCarries.cols_eq
    intro row hLow hHigh
    exact
      hLines row (by omega) (by omega) (by omega) (by omega)

/-
  Without one, a selection that is left has the same text,
  unless it encloses the region.
-/
theorem chars_followScroll_of_region
    (hNone : moved = 0)
    (hBottom : bottom < grid.rows)
    (hNotAround :
      ¬(selection.first.row < origin ∧
        bottom < selection.past.row))
    {rest : Selection}
    (hSome : selection.isEmpty = false)
    (hRest :
      followScroll selection scrolled moved origin bottom
        delta selection.screen = some rest) :
    rest.screen = selection.screen ∧
      rest.isEmpty = false ∧
      rest.chars scrolled = selection.chars grid := by
  have hFirst := hWithin.first
  have hPast := hWithin.past
  have hRows := hCarries.rows_eq
  have hSize := hCarries.size_eq hNone
  unfold followScroll Selection.regionScrolled? at hRest
  rw [if_neg (by omega), if_neg (fun hNe => hNe rfl)] at hRest
  rcases Option.ite_none_left_eq_some.mp hRest with
    ⟨hSameSide, hKept⟩
  rw [Decidable.not_not] at hSameSide
  unfold Selection.rowInside at hSameSide hKept
  rw [decide_eq_decide] at hSameSide
  simp only [decide_eq_true_eq] at hKept
  split at hKept
  · rename_i hInside
    have hPastInside := hSameSide.mp hInside
    rw [hMoves.firstRow_eq, hMoves.pastRow_eq] at hKept
    rcases Option.ite_none_left_eq_some.mp hKept with
      ⟨hStays, hMoved⟩
    cases hMoved
    have hAfter : (selection.shift delta).Within scrolled := by
      constructor
      · rw [hMoves.firstRow_eq]
        omega
      · rw [hMoves.pastRow_eq]
        omega
    refine ⟨rfl, hMoves.isEmpty_eq.trans hSome, ?_⟩
    apply hMoves.chars_eq hWithin hAfter hCarries.cols_eq
    intro row hLow hHigh
    exact
      hCarries.inside row (by omega) (by omega) (by omega)
        (by omega)
  · rename_i hOutside
    cases hKept
    have hPastOutside := mt hSameSide.mpr hOutside
    have hAfter : selection.Within scrolled :=
      ⟨by omega, by omega⟩
    refine ⟨rfl, hSome, ?_⟩
    rw [hWithin.chars_eq, hAfter.chars_eq]
    apply List.flatMap_congr
    intro row hRow
    rcases Selection.mem_rowsBetween.mp hRow with
      ⟨hLow, hHigh⟩
    apply Selection.rowChars_congr hCarries.cols_eq
    exact hCarries.outside hNone row (by omega)

end

include hWithin hCarries

/- A selection around the region is left where it is. -/
theorem followScroll_of_around
    (hAround :
      selection.first.row < origin ∧
        bottom < selection.past.row) :
    followScroll selection scrolled moved origin bottom delta
        selection.screen = some selection ∧
      moved = 0 := by
  have hPast := hWithin.past
  have hNone : moved = 0 := by
    rcases Nat.eq_zero_or_pos moved with hZero | hExchange
    · exact hZero
    · rcases hCarries.history hExchange with ⟨hWhole, _⟩
      omega
  refine ⟨?_, hNone⟩
  have hFirstOut :
      Selection.rowInside origin bottom selection.first =
        false := by
    apply decide_eq_false
    omega
  have hPastOut :
      Selection.rowInside origin bottom selection.past =
        false := by
    apply decide_eq_false
    omega
  unfold followScroll Selection.regionScrolled?
  rw [if_neg (by omega), if_neg (fun hNe => hNe rfl),
    hFirstOut, hPastOut, if_neg (fun hNe => hNe rfl)]
  rfl

/-
  Its text is the same exactly if the rows of the region have
  the same selected characters as before.
-/
theorem chars_around_iff
    (hAround :
      selection.first.row < origin ∧
        bottom < selection.past.row)
    (hRegion : origin ≤ bottom)
    (hNone : moved = 0) :
    selection.chars scrolled = selection.chars grid ↔
      (Selection.rowsBetween origin bottom).flatMap
          (selection.rowChars scrolled) =
        (Selection.rowsBetween origin bottom).flatMap
          (selection.rowChars grid) := by
  have hFirst := hWithin.first
  have hPast := hWithin.past
  have hAfter : selection.Within scrolled := by
    constructor
    · rw [hCarries.size_eq hNone]
      exact hFirst
    · rw [hCarries.rows_eq]
      exact hPast
  have hOutside :
      ∀ first last : Int,
        (last < origin ∨ bottom < first) →
          (Selection.rowsBetween first last).flatMap
              (selection.rowChars scrolled) =
            (Selection.rowsBetween first last).flatMap
              (selection.rowChars grid) := by
    intro first last hApart
    apply List.flatMap_congr
    intro row hRow
    rcases Selection.mem_rowsBetween.mp hRow with
      ⟨hLow, hHigh⟩
    apply Selection.rowChars_congr hCarries.cols_eq
    exact hCarries.outside hNone row (by omega)
  -- The rows above the region, its own, and those below it.
  have hRows :
      Selection.rowsBetween selection.first.row
          selection.past.row =
        Selection.rowsBetween selection.first.row
            (origin - 1) ++
          (Selection.rowsBetween origin bottom ++
            Selection.rowsBetween (bottom + 1)
              selection.past.row) := by
    rw [Selection.rowsBetween_append
        (show selection.first.row ≤ (origin : Int) by omega)
        (show (origin : Int) ≤ selection.past.row + 1 by
          omega),
      Selection.rowsBetween_append
        (show (origin : Int) ≤ bottom + 1 by omega)
        (show (bottom : Int) + 1 ≤ selection.past.row + 1 by
          omega),
      Int.add_sub_cancel]
  rw [hWithin.chars_eq, hAfter.chars_eq, hRows]
  simp only [List.flatMap_append]
  rw [hOutside selection.first.row (origin - 1)
      (Or.inl (by omega)),
    hOutside (bottom + 1) selection.past.row
      (Or.inr (by omega)),
    List.append_cancel_left_eq, List.append_cancel_right_eq]

end

------------------------------------------------------------
-- Scrolling
------------------------------------------------------------

section

variable {config : Config} {cols rows : Nat}
  {session : Session}

/- What scrolling some lines does to the screen in use. -/
theorem WellFormed.carries_scrolledGrid
    (hSession : session.WellFormed config cols rows)
    {origin count : Nat}
    (hSome : session.scrollCount origin count ≠ 0)
    (direction : ScrollDirection)
    (retain : Bool) :
    session.active.Carries
      (session.scrolledGrid origin count direction retain).1
      (session.scrolledGrid origin count direction retain).2
      origin session.regionBottom
      (scrollDelta direction
        (session.scrollCount origin count)) := by
  have hRoom := add_scrollCount_le hSome
  unfold Session.scrolledGrid Grid.scrollRegion
  cases direction with
  | up =>
      exact
        hSession.active.carries_scrollUp hSession.region_lt
          (Nat.pos_of_ne_zero hSome) hRoom retain
          session.blank
  | down =>
      exact
        hSession.active.carries_scrollDown hSession.region_lt
          (Nat.pos_of_ne_zero hSome) hRoom retain
          session.blank

/- Only the primary screen has a history. -/
theorem WellFormed.size_grid_le
    (hSession : session.WellFormed config cols rows)
    (hAddressable : session.Addressable)
    (screen : Screen) :
    (session.grid screen).scrollback.size ≤ 2 ^ 62 := by
  cases screen with
  | primary => exact hAddressable.size_le
  | alternate =>
      show session.alternate.scrollback.size ≤ 2 ^ 62
      rw [hSession.alternate.size_eq_zero]
      exact Nat.zero_le _

/- No line moves by more rows than there are. -/
theorem WellFormed.scrollDelta_within
    (hSession : session.WellFormed config cols rows)
    {origin count : Nat}
    (hSome : session.scrollCount origin count ≠ 0)
    (direction : ScrollDirection) :
    -(rows : Int) ≤
        scrollDelta direction
          (session.scrollCount origin count) ∧
      scrollDelta direction
          (session.scrollCount origin count) ≤ rows := by
  have hRoom := add_scrollCount_le hSome
  have hRegion := hSession.region_lt
  cases direction with
  | up =>
      show -(rows : Int) ≤ -_ ∧ -_ ≤ (rows : Int)
      omega
  | down =>
      show -(rows : Int) ≤ (_ : Nat) ∧ (_ : Nat) ≤ (rows : Int)
      omega

/- The rows of a retained selection all move alike. -/
theorem WellFormed.movesBy_scrollDelta
    (hSession : session.WellFormed config cols rows)
    (hAddressable : session.Addressable)
    {selection : Selection}
    (hRetained : selection.Retained session.active)
    {origin count : Nat}
    (hSome : session.scrollCount origin count ≠ 0)
    (direction : ScrollDirection) :
    let delta :=
      scrollDelta direction (session.scrollCount origin count)
    selection.MovesBy delta (selection.shift delta) := by
  have hDelta := hSession.scrollDelta_within hSome direction
  have hSize :=
    hSession.size_grid_le hAddressable session.screen
  have hRows := hAddressable.rows_le
  have hHeight := hSession.active.rows_eq
  have hFirst := hRetained.first
  have hFirstLt := hRetained.first_lt
  have hPast := hRetained.past
  have hLePast := hRetained.le_past
  rw [hSession.rows_eq] at hRows
  unfold Session.active at hFirst hLePast
  exact
    Selection.movesBy_shift ⟨by omega, by omega⟩
      ⟨by omega, by omega⟩

/- Lines that move down lose no row of the history. -/
theorem WellFormed.up_of_lost_row
    (hSession : session.WellFormed config cols rows)
    {origin count : Nat}
    (hSome : session.scrollCount origin count ≠ 0)
    {direction : ScrollDirection}
    {retain : Bool}
    {row : Int}
    (hRow : -session.active.scrollback.size ≤ row)
    (hLost :
      row +
          scrollDelta direction
            (session.scrollCount origin count) <
        -(session.scrolledGrid origin count direction
          retain).1.scrollback.size) :
    direction = .up := by
  cases direction with
  | up => rfl
  | down =>
      have hRoom := add_scrollCount_le hSome
      have hSize :=
        hSession.active.size_scrollDown hSession.region_lt
          (Nat.pos_of_ne_zero hSome) hRoom retain
          session.blank
      have hMoved :=
        (Grid.scrolls_scrollDown hSession.active
          hSession.region_lt (Nat.pos_of_ne_zero hSome) hRoom
          retain session.blank).2
      unfold Session.scrolledGrid Grid.scrollRegion scrollDelta
        at hLost
      dsimp only at hLost
      rw [hSize, hMoved] at hLost
      split at hLost
      · omega
      · omega

/- Only the whole screen gives lines to its history. -/
theorem WellFormed.usesHistory_of_moved
    (hSession : session.WellFormed config cols rows)
    {origin count : Nat}
    (hSome : session.scrollCount origin count ≠ 0)
    {retain : Bool}
    (hExchange :
      0 < (session.scrolledGrid origin count .up retain).2) :
    session.active.usesHistory origin session.regionBottom
      retain := by
  unfold Session.scrolledGrid Grid.scrollRegion at hExchange
  exact
    hSession.active.usesHistory_of_scrollUp
      hSession.region_lt (Nat.pos_of_ne_zero hSome)
      (add_scrollCount_le hSome) retain session.blank
      hExchange

section

variable {selection : Selection}
  (hSession : session.WellFormed config cols rows)
  (hSelection : session.selection = some selection)
  (hScreen : selection.screen = session.screen)
  (hSome : selection.isEmpty = false)
  (hRetained : selection.Retained session.active)
  {origin count : Nat}
  (hMoves : session.scrollCount origin count ≠ 0)
  (direction : ScrollDirection)
  (retain : Bool)

include hMoves

theorem grid_scrollLines :
    (session.scrollLines origin count direction retain).grid
        session.screen =
      (session.scrolledGrid origin count direction
        retain).1 := by
  rw [scrollLines_of_ne_zero hMoves]
  exact grid_modifyActive session _

theorem active_scrollLines :
    (session.scrollLines origin count direction
        retain).active =
      (session.scrolledGrid origin count direction
        retain).1 := by
  rw [← grid_scrollLines hMoves,
    scrollLines_of_ne_zero hMoves]
  exact congrArg (Session.grid _) (screen_modifyActive _ _)

include hSelection hScreen

theorem selection_scrollLines :
    (session.scrollLines origin count direction
        retain).selection =
      followScroll selection
        (session.scrolledGrid origin count direction
          retain).1
        (session.scrolledGrid origin count direction
          retain).2
        origin session.regionBottom
        (scrollDelta direction
          (session.scrollCount origin count))
        selection.screen := by
  rw [scrollLines_of_ne_zero hMoves, hSelection, hScreen]
  rfl

omit hSelection in
theorem selectionText_scrollLines
    {rest : Selection}
    (hRest :
      (session.scrollLines origin count direction
        retain).selection = some rest)
    (hSame : rest.screen = selection.screen)
    (hNonempty : rest.isEmpty = false) :
    (session.scrollLines origin count direction
        retain).selectionText =
      .ok
        (.ofList
          (rest.chars
            (session.scrolledGrid origin count direction
              retain).1)) := by
  rw [selectionText_of_eq_some hRest hNonempty, hSame,
    hScreen, grid_scrollLines hMoves]

include hSession hSome hRetained

/- A selection that does not enclose the region follows. -/
theorem WellFormed.keepsText_of_not_encloses
    (hAddressable : session.Addressable)
    (hApart : ¬session.Encloses selection origin) :
    session.KeepsText
      (session.scrollLines origin count direction retain)
      (session.Evicts selection origin count direction
        retain) := by
  have hWithin := hRetained.toWithin
  have hCarries :=
    hSession.carries_scrolledGrid hMoves direction retain
  have hShifts :=
    hSession.movesBy_scrollDelta hAddressable hRetained hMoves
      direction
  have hBottom :
      session.regionBottom < session.active.rows := by
    rw [hSession.active.rows_eq]
    exact hSession.region_lt
  have hText :=
    selectionText_of_active hSelection hScreen hSome
  have hFollows :=
    selection_scrollLines hSelection hScreen hMoves direction
      retain
  cases hRest :
      (session.scrollLines origin count direction
        retain).selection with
  | none => exact Or.inl hRest
  | some rest =>
      refine Or.inr ?_
      rw [hRest] at hFollows
      rcases Nat.eq_zero_or_pos
          (session.scrolledGrid origin count direction
            retain).2 with
        hNone | hExchange
      · rcases chars_followScroll_of_region hWithin hCarries
            hShifts hNone hBottom hApart hSome
            hFollows.symm with
          ⟨hSame, hNonempty, hChars⟩
        refine Or.inl ?_
        rw [selectionText_scrollLines hScreen hMoves direction
            retain hRest hSame hNonempty,
          hText, hChars]
      · rcases chars_followScroll_of_history hWithin hCarries
            hShifts hExchange hSome hFollows.symm with
          ⟨hSame, hNonempty, hChars⟩
        have hTextAfter :=
          selectionText_scrollLines hScreen hMoves direction
            retain hRest hSame hNonempty
        rcases hChars with hChars | ⟨hLost, hSuffix⟩
        · refine Or.inl ?_
          rw [hTextAfter, hText, hChars]
        · obtain rfl :=
            hSession.up_of_lost_row hMoves hWithin.first hLost
          have hUses :=
            hSession.usesHistory_of_moved hMoves hExchange
          refine
            Or.inr
              ⟨⟨rfl, hUses, hLost⟩, _, _, hText, hTextAfter,
                ?_⟩
          simp only [String.toList_ofList]
          exact hSuffix

/-
  One that does is left where it is, and keeps its text
  exactly if the rows of the region read as before.
-/
theorem WellFormed.keepsText_iff_of_encloses
    (hAround : session.Encloses selection origin)
    (hOrigin : origin ≤ session.regionBottom) :
    session.KeepsText
        (session.scrollLines origin count direction retain)
        (session.Evicts selection origin count direction
          retain) ↔
      session.regionChars selection origin
          (session.scrolledGrid origin count direction
            retain).1 =
        session.regionChars selection origin
          session.active := by
  have hWithin := hRetained.toWithin
  have hCarries :=
    hSession.carries_scrolledGrid hMoves direction retain
  have hText :=
    selectionText_of_active hSelection hScreen hSome
  rcases followScroll_of_around hWithin hCarries hAround with
    ⟨hStays, hNone⟩
  have hRest :=
    (selection_scrollLines hSelection hScreen hMoves direction
      retain).trans hStays
  have hTextAfter :=
    selectionText_scrollLines hScreen hMoves direction retain
      hRest rfl hSome
  have hSameText :=
    chars_around_iff hWithin hCarries hAround hOrigin hNone
  constructor
  · intro hKeeps
    apply hSameText.mp
    rcases hKeeps with hDropped | hSame | ⟨hEvicts, _⟩
    · rw [hRest] at hDropped
      cases hDropped
    · rw [hTextAfter, hText] at hSame
      exact String.ofList_inj.mp (Except.ok.inj hSame)
    · -- The rows that reach the history are the whole screen.
      have hWhole := Grid.whole_of_usesHistory hEvicts.2.1
      have hPast := hWithin.past
      have hBeyond := hAround.2
      omega
  · intro hRegion
    refine Or.inr (Or.inl ?_)
    rw [hTextAfter, hText, hSameText.mpr hRegion]

end

/-
  A selection keeps its text when lines scroll, unless it
  encloses the rows that scroll: it is not dropped then, and
  its text is the same only if those rows show the same.
-/
theorem WellFormed.keepsText_scrollLines_iff
    (hSession : session.WellFormed config cols rows)
    (hAddressable : session.Addressable)
    {selection : Selection}
    (hSelection : session.selection = some selection)
    (hScreen : selection.screen = session.screen)
    (hSome : selection.isEmpty = false)
    (hRetained : selection.Retained session.active)
    {origin count : Nat}
    (hOrigin : origin ≤ session.regionBottom)
    (hCount : 0 < count)
    (direction : ScrollDirection)
    (retain : Bool) :
    session.KeepsText
        (session.scrollLines origin count direction retain)
        (session.Evicts selection origin count direction
          retain) ↔
      (session.Encloses selection origin →
        session.regionChars selection origin
            (session.scrollLines origin count direction
              retain).active =
          session.regionChars selection origin
            session.active) := by
  have hMoves : session.scrollCount origin count ≠ 0 := by
    unfold scrollCount
    omega
  rw [active_scrollLines hMoves]
  by_cases hAround : session.Encloses selection origin
  · rw [hSession.keepsText_iff_of_encloses hSelection hScreen
        hSome hRetained hMoves direction retain hAround
        hOrigin]
    exact ⟨fun hSame _ => hSame, fun hSame => hSame hAround⟩
  · have hKeeps :=
      hSession.keepsText_of_not_encloses hSelection hScreen
        hSome hRetained hMoves direction retain hAddressable
        hAround
    exact
      ⟨fun _ hEncloses => absurd hEncloses hAround,
        fun _ => hKeeps⟩

end

end Session

end VideoTerminal
