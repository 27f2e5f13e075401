import VideoTerminal.Proofs.Session.Follow
import VideoTerminal.Proofs.Terminal.Reachable
import VideoTerminal.Text.Linked

/-
  The text that is selected in a terminal, when its embedder
  scrolls lines.

  Main declarations:
    * `Terminal.ScrollKeepsText`
    * `Terminal.Reachable.scrollKeepsText_iff`
-/

namespace VideoTerminal

namespace Terminal

------------------------------------------------------------
-- Scrolling by the Embedder
------------------------------------------------------------

section

variable [TextLibrary]

/- The session after some lines have scrolled. -/
def scrolled
    (terminal : Terminal)
    (origin count : Nat)
    (direction : ScrollDirection)
    (retain : Bool) : Session :=
  (terminal.perform
    (.scrollLines origin count direction retain)).1.session

/-
  Scrolling drops a selection, or keeps its text, or the end
  of it where the oldest rows of the selection are evicted
  from the history.
-/
def ScrollKeepsText
    (terminal : Terminal)
    (selection : Selection)
    (origin count : Nat)
    (direction : ScrollDirection)
    (retain : Bool) : Prop :=
  terminal.session.KeepsText
    (terminal.scrolled origin count direction retain)
    (terminal.session.Evicts selection origin count direction
      retain)

/-
  Scrolling keeps the text of a selection unless the selection
  encloses the rows that scroll, and these show something else
  afterwards: such a selection is left where it is.
-/
theorem Reachable.scrollKeepsText_iff
    {terminal : Terminal}
    (hTerminal : Reachable terminal)
    {selection : Selection}
    (hSelection :
      terminal.session.selection = some selection)
    (hScreen : selection.screen = terminal.session.screen)
    (hSome : selection.isEmpty = false)
    (hRetained : selection.Retained terminal.session.active)
    (hAddressable : terminal.session.Addressable)
    {origin count : Nat}
    (hOrigin : origin ≤ terminal.session.regionBottom)
    (hCount : 0 < count)
    (direction : ScrollDirection)
    (retain : Bool) :
    terminal.ScrollKeepsText selection origin count direction
        retain ↔
      (terminal.session.Encloses selection origin →
        terminal.session.regionChars selection origin
            (terminal.scrolled origin count direction
              retain).active =
          terminal.session.regionChars selection origin
            terminal.session.active) := by
  rcases hTerminal.wellFormed with
    ⟨config, cols, rows, hWellFormed⟩
  exact
    hWellFormed.session.keepsText_scrollLines_iff hAddressable
      hSelection hScreen hSome hRetained hOrigin hCount
      direction retain

end

/- Two lines, of which the first one is selected. -/
def firstSelected : Terminal :=
  (createRaised 3 2).performAll
    [.process [0x61, 0x62, 0x0D, 0x0A, 0x63],
      .beginSelection 0 0 .none .character,
      .extendSelection 2 0]

theorem scrollKeepsText_into_history :
    ∃ selection,
      firstSelected.ScrollKeepsText selection 0 1 .up
        true := by
  refine
    ⟨_,
      (Reachable.scrollKeepsText_iff
        ((Reachable.createRaised 3 2).performAll _) rfl rfl
        rfl ⟨⟨?_, ?_⟩, ?_, ?_⟩ ?_ (Nat.zero_le _) Nat.one_pos
        .up true).mpr ?_⟩
  · decide
  · decide
  · decide
  · decide
  · decide
  · intro hEncloses
    exact absurd hEncloses.1 (by decide)

/- All of four lines is selected, and two of them scroll. -/
def allSelected : Terminal :=
  (createRaised 3 4).performAll
    [.process
        [0x61, 0x0D, 0x0A, 0x62, 0x0D, 0x0A, 0x63, 0x0D, 0x0A,
          0x64],
      .beginSelection 0 0 .none .character,
      .extendSelection 1 3,
      .setScrollRegion 1 2]

/- So it is not true that scrolling always keeps the text. -/
theorem not_forall_scrollKeepsText :
    ¬∀ terminal,
      Reachable terminal →
        ∀ selection,
          terminal.session.selection = some selection →
            selection.screen = terminal.session.screen →
              selection.isEmpty = false →
                selection.Retained terminal.session.active →
                  ∀ origin count direction retain,
                    origin ≤ terminal.session.regionBottom →
                      0 < count →
                        terminal.ScrollKeepsText selection
                          origin count direction retain := by
  intro hAlways
  have hSelection :
      allSelected.session.selection =
        some
          { phase := .dragging
            mode := .character
            snap := .none
            anchor := ⟨0, 0⟩
            current := ⟨1, 3⟩
            first := ⟨0, 0⟩
            past := ⟨1, 3⟩
            screen := .primary } := by
    decide +kernel
  have hKeeps :=
    hAlways allSelected
      ((Reachable.createRaised 3 4).performAll _) _ hSelection
      (by decide +kernel) (by decide)
      ⟨⟨by decide +kernel, by decide +kernel⟩,
        by decide +kernel, by decide +kernel⟩
      1 1 .up false
      (by decide +kernel) Nat.one_pos
  rcases hKeeps with hDropped | hSame | ⟨hEvicts, _⟩
  · exact absurd hDropped (by decide +kernel)
  · have hText := congrArg Except.toOption hSame
    exact absurd hText (by decide +kernel)
  · exact absurd hEvicts.2.1 (by decide +kernel)

end Terminal

end VideoTerminal
