import VideoTerminal.Proofs.Selection.Highlight
import VideoTerminal.Proofs.Terminal.Evolves
import VideoTerminal.Text.Linked

/-
  What is copied is what is highlighted.  The text of a
  selection has the characters of the cells that show as
  selected, in their order, and rectangles meet a selection
  where they have one of its cells.

  Main declarations:
    * `Session.Highlights`
    * `Session.WellFormed.highlights_points`
    * `Terminal.Reachable.copies_highlighted`
-/

namespace VideoTerminal

namespace Session

/-
  The cells that a selection highlights, in reading order and
  each of them once.  The second half of a wide character goes
  with the first one.
-/
structure Highlights
    (session : Session)
    (selection : Selection)
    (points : List Point) : Prop where
  ordered : points.Pairwise Point.Before
  mem_iff :
    ∀ point,
      point ∈ points ↔
        selection.contains point selection.screen
            session.cols ∧
          ∃ cell ∈
              (session.grid selection.screen).cellAt? point,
            cell.placeholder = false

section

variable {config : Config} {cols rows : Nat}
  {session : Session}
  (hSession : session.WellFormed config cols rows)

include hSession

theorem WellFormed.highlights_points
    (selection : Selection) :
    session.Highlights selection
      (selection.points (session.grid selection.screen)) where
  ordered := Selection.pairwise_points _ _
  mem_iff := by
    intro point
    rw [Selection.mem_points, Grid.showsAt_iff,
      hSession.cols_eq, hSession.cols_grid]

/- No cell of a terminal breaks its line. -/
theorem WellFormed.char_ne_of_cellAt?
    [TextLibrary]
    (hLegible : session.Legible)
    {screen : Screen}
    {point : Point}
    {cell : Cell}
    (hCell : (session.grid screen).cellAt? point = some cell) :
    cell.char ≠ '\n' := by
  rcases Option.bind_eq_some_iff.mp hCell with
    ⟨line, hLine, hHere⟩
  rcases hSession.grid screen with ⟨_, hGrid⟩
  have hShown :=
    hGrid.legible_of_lineAt? (hLegible screen) hLine
  exact (hShown cell (List.mem_of_getElem? hHere)).char_ne

/- So all that is not visible in the cells are spaces. -/
theorem WellFormed.filter_chars_eq
    [TextLibrary]
    (hLegible : session.Legible)
    (selection : Selection) :
    (selection.chars
        (session.grid selection.screen)).filter Blank.isInk =
      (((selection.points
            (session.grid selection.screen)).filterMap
          (session.grid selection.screen).cellAt?).map
        Cell.char).filter (· != ' ') := by
  rw [Selection.filter_chars]
  apply List.filter_congr
  intro c hChar
  rcases List.mem_map.mp hChar with ⟨cell, hCell, rfl⟩
  rcases List.mem_filterMap.mp hCell with ⟨point, _, hHere⟩
  have hNone := hSession.char_ne_of_cellAt? hLegible hHere
  unfold Blank.isInk
  rw [bne_iff_ne.mpr hNone, Bool.and_true]

end

end Session

namespace Terminal

/-
  The text of a selection is that of the cells that it
  highlights, but for spaces and line breaks.  A rectangle
  meets it exactly if some cell of the rectangle is selected.
-/
theorem Reachable.copies_highlighted
    [TextLibrary]
    {terminal : Terminal}
    (hTerminal : Reachable terminal)
    {selection : Selection}
    (hSelection :
      terminal.session.selection = some selection)
    (hSome : selection.isEmpty = false) :
    (∃ text points,
      terminal.session.selectionText = .ok text ∧
        terminal.session.Highlights selection points ∧
        text.toList.filter Blank.isInk =
          ((points.filterMap
              (terminal.session.grid
                selection.screen).cellAt?).map
            Cell.char).filter (· != ' ')) ∧
      ∀ x₁ y₁ x₂ y₂,
        x₁ ≤ x₂ →
          (selection.overlaps x₁ y₁ x₂ y₂
              terminal.session.cols ↔
            ∃ point : Point,
              (x₁ ≤ point.col ∧ point.col ≤ x₂) ∧
                (y₁ ≤ point.row ∧ point.row ≤ y₂) ∧
                selection.contains point selection.screen
                  terminal.session.cols) := by
  rcases hTerminal.wellFormed with
    ⟨config, cols, rows, hWellFormed⟩
  have hSession := hWellFormed.session
  have hText :=
    Session.selectionText_of_eq_some hSelection hSome
  refine
    ⟨⟨_, _, hText, hSession.highlights_points selection, ?_⟩,
      ?_⟩
  · rw [String.toList_ofList]
    exact hSession.filter_chars_eq hTerminal.legible selection
  · exact fun x₁ y₁ x₂ y₂ hCols =>
      Selection.overlaps_iff hCols

/-
  Text that is soft-wrapped after a wide character.  Part of
  it is selected, and a further line moves it up.
-/
def softWrapped : Terminal :=
  (createRaised 4 2).performAll
    [.process (Utf8.ofString "ab世cd"),
      .beginSelection 1 0 .none .character,
      .extendSelection 2 1,
      .process (Utf8.ofString "\r\n e")]

theorem copies_highlighted_softWrapped :
    ∃ selection points,
      softWrapped.session.selection = some selection ∧
        selection.isEmpty = false ∧
        softWrapped.session.Highlights selection points ∧
        ((points.filterMap
              (softWrapped.session.grid
                selection.screen).cellAt?).map
            Cell.char).filter (· != ' ') =
          ['b', '世', 'c', 'd'] ∧
        ∃ point : Point,
          (2 ≤ point.col ∧ point.col ≤ 3) ∧
            (-1 ≤ point.row ∧ point.row ≤ 0) ∧
            selection.contains point selection.screen
              softWrapped.session.cols := by
  have hSelection :
      softWrapped.session.selection =
        some
          { phase := .dragging
            mode := .character
            snap := .none
            anchor := ⟨1, -1⟩
            current := ⟨2, 0⟩
            first := ⟨1, -1⟩
            past := ⟨2, 0⟩
            screen := .primary } := by
    decide +kernel
  have hReachable : Reachable softWrapped :=
    (Reachable.createRaised 4 2).performAll _
  rcases hReachable.copies_highlighted hSelection rfl with
    ⟨⟨text, points, hText, hHighlights, hChars⟩, hOverlaps⟩
  refine
    ⟨_, points, hSelection, rfl, hHighlights, ?_, ?_⟩
  · have hCopied :
        softWrapped.session.selectionText = .ok "b世cd" := by
      decide +kernel
    have hInk :
        "b世cd".toList.filter Blank.isInk =
          ['b', '世', 'c', 'd'] := by
      decide +kernel
    cases hText.symm.trans hCopied
    exact hChars.symm.trans hInk
  · exact
      (hOverlaps 2 (-1) 3 0 (by decide)).mp
        (by decide +kernel)

end Terminal

end VideoTerminal
