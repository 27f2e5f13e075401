import VideoTerminal.Proofs.Grid.Anchor
import VideoTerminal.Proofs.Session.Paints
import VideoTerminal.Proofs.Terminal.Events
import VideoTerminal.Proofs.Terminal.Reachable
import VideoTerminal.Text.Linked

/-
  A view that is scrolled back stays with the lines that it
  shows while the application writes more of them, until the
  history is full and lets go of these lines.

  Main declarations:
    * `Session.Paints.anchors`
    * `Session.WellFormed.anchors_handle`
    * `Session.WellFormed.anchors_handleAll`
    * `Terminal.Reachable.view_anchored`
-/

namespace VideoTerminal

namespace Event

/-
  Neither the terminal is reset nor its history cleared, which
  both bring the view back to the screen.
-/
def KeepsView
    (event : Event) : Prop :=
  ¬event.ClearsHistory ∧ event ≠ .escape none 'c'

instance
    (event : Event) :
    Decidable event.KeepsView :=
  inferInstanceAs (Decidable (_ ∧ _))

end Event

namespace Grid

theorem WellFormed.looksBack
    {cols rows capacity : Nat}
    {grid : Grid}
    (hGrid : grid.WellFormed cols rows capacity)
    (hView : 0 < grid.viewOffset) :
    grid.LooksBack where
  aligned := hGrid.history.aligned
  view_pos := hView
  view_le := hGrid.view_le

/- The lines that a history is left with, the oldest in front. -/
theorem Anchors.toList_eq
    {grid after : Grid}
    {pushed : List Line}
    (hAnchors : Anchors pushed grid after) :
    after.scrollback.toList =
      (grid.scrollback.toList ++ pushed.reverse).drop
        ((grid.scrollback.toList ++ pushed.reverse).length -
          grid.scrollback.capacity) := by
  rw [Scrollback.toList_eq_reverse_retained,
    Scrollback.toList_eq_reverse_retained,
    hAnchors.retained_eq, List.reverse_take,
    ← List.reverse_append, List.length_reverse]

end Grid

namespace Session

------------------------------------------------------------
-- Steps
------------------------------------------------------------

section

variable {config : Config} {cols rows : Nat} {on : Bool}
  {session after : Session}

theorem active_of_primary
    (hScreen : session.screen = .primary) :
    session.active = session.primary := by
  unfold Session.active
  rw [hScreen]
  rfl

theorem primary_modifyActive
    (hScreen : session.screen = .primary)
    (change : Grid → Grid) :
    (session.modifyActive change).primary =
      change session.primary := by
  unfold Session.modifyActive
  rw [hScreen]

theorem WellFormed.anchors_scrollLines
    (hSession : session.WellFormed config cols rows)
    (hScreen : session.screen = .primary)
    (hBack : session.primary.LooksBack)
    (origin count : Nat)
    {direction : ScrollDirection}
    {retain : Bool}
    (hLeaves : direction = .down → retain = false) :
    ∃ pushed,
      Grid.Anchors pushed session.primary
        (session.scrollLines origin count direction
          retain).primary := by
  by_cases hNone : session.scrollCount origin count = 0
  · rw [scrollLines_of_eq_zero hNone]
    exact ⟨[], .of_same hBack rfl rfl rfl⟩
  · have hScrolled :
        (session.scrollLines origin count direction
            retain).primary =
          (session.scrolledGrid origin count direction
            retain).1 := by
      rw [scrollLines_of_ne_zero hNone]
      exact primary_modifyActive hScreen _
    have hSome := Nat.pos_of_ne_zero hNone
    have hRoom := add_scrollCount_le hNone
    rw [hScrolled]
    unfold Session.scrolledGrid Grid.scrollRegion
    rw [active_of_primary hScreen]
    cases direction with
    | up =>
        exact
          hSession.primary.anchors_scrollUp hBack
            hSession.region_lt hSome hRoom retain _
    | down =>
        rw [hLeaves rfl]
        exact
          ⟨[],
            hSession.primary.anchors_scrollDown hBack
              hSession.region_lt hSome hRoom _⟩

/-
  Steps that begin and end on the primary screen do not leave
  it in between, and the view stays with its lines.
-/
theorem Paints.anchors
    (hPaints : session.Paints config cols rows on after)
    (hScreen : session.screen = .primary)
    (hAfter : after.screen = .primary)
    (hBack : session.primary.LooksBack) :
    ∃ pushed,
      Grid.Anchors pushed session.primary after.primary := by
  induction hPaints with
  | same hSame =>
      have hPrimary : _ = _ := congrArg (·.2.1) hSame
      dsimp only [screens] at hPrimary
      rw [hPrimary]
      exact ⟨[], .of_same hBack rfl rfl rfl⟩
  | draw hSession hDraws =>
      rw [active_of_primary hScreen] at hDraws
      rw [primary_modifyActive hScreen]
      exact ⟨[], hDraws.anchors hBack⟩
  | scroll hSession origin count hLeaves =>
      exact
        hSession.anchors_scrollLines hScreen hBack origin count
          hLeaves
  | enter hSession _ _ =>
      rw [Session.useAlternate, hScreen] at hAfter
      cases hAfter
  | leave _ _ hAlternate =>
      rw [hScreen] at hAlternate
      cases hAlternate
  | @trans session between after hFirst hSecond
      hFirstKeeps hSecondKeeps =>
      have hBetween : between.screen = .primary := by
        cases on with
        | true =>
            cases hUsed : between.screen with
            | primary => rfl
            | alternate =>
                have hIn := hSecond.screen_eq hUsed
                rw [hAfter] at hIn
                cases hIn
        | false => exact hFirst.screen_eq hScreen
      rcases hFirstKeeps hScreen hBetween hBack with
        ⟨pushed, hPushed⟩
      have hStill := hPushed.looksBack hBack
      rcases hSecondKeeps hBetween hAfter hStill with
        ⟨next, hNext⟩
      exact ⟨next ++ pushed, hPushed.trans hBack hNext⟩

end

------------------------------------------------------------
-- Events
------------------------------------------------------------

section

variable [TextLibrary]
variable {config : Config} {cols rows : Nat}
  {session : Session}

theorem WellFormed.anchors_handle
    (hSession : session.WellFormed config cols rows)
    {event : Event}
    (hKeeps : event.KeepsView)
    (hScreen : session.screen = .primary)
    (hAfter : (session.handle event).screen = .primary)
    (hBack : session.primary.LooksBack) :
    ∃ pushed,
      Grid.Anchors pushed session.primary
        (session.handle event).primary := by
  rcases hSession.paints_handle hKeeps.1 hKeeps.2 with
    ⟨on, hPaints⟩
  exact hPaints.anchors hScreen hAfter hBack

theorem WellFormed.anchors_handleAll
    (hSession : session.WellFormed config cols rows)
    {events : List Event}
    (hKeeps : ∀ event ∈ events, event.KeepsView)
    (hStays :
      ∀ before,
        before <+: events →
          (before.foldl Session.handle session).screen =
            .primary)
    (hBack : session.primary.LooksBack) :
    ∃ pushed,
      Grid.Anchors pushed session.primary
        (events.foldl Session.handle session).primary := by
  induction events generalizing session with
  | nil => exact ⟨[], .of_same hBack rfl rfl rfl⟩
  | cons event events hRest =>
      have hScreen := hStays [] List.nil_prefix
      have hAfter :=
        hStays [event]
          (List.prefix_cons_inj event |>.mpr List.nil_prefix)
      have hOthers :
          ∀ before,
            before <+: events →
              (before.foldl Session.handle
                  (session.handle event)).screen =
                .primary := by
        intro before hBefore
        exact
          hStays (event :: before)
            ((List.prefix_cons_inj event).mpr hBefore)
      rcases hSession.anchors_handle
          (hKeeps event List.mem_cons_self) hScreen hAfter
          hBack with
        ⟨pushed, hPushed⟩
      rcases hRest (hSession.handle event)
          (fun other hOther =>
            hKeeps other (List.mem_cons_of_mem _ hOther))
          hOthers (hPushed.looksBack hBack) with
        ⟨next, hNext⟩
      exact ⟨next ++ pushed, hPushed.trans hBack hNext⟩

end

end Session

namespace Terminal

------------------------------------------------------------
-- The View Stays with Its Lines
------------------------------------------------------------

/-
  While an application writes on the primary screen, the view
  moves back by the lines that go to the history, as far as
  that reaches.  If it reaches as far as the view, every row
  that showed the history shows the same line as before.
-/
theorem Reachable.view_anchored
    [TextLibrary]
    {terminal : Terminal}
    (hTerminal : Reachable terminal)
    (hScreen : terminal.session.screen = .primary)
    (hView : 0 < terminal.session.active.viewOffset)
    {bytes : List UInt8}
    (hKeeps :
      ∀ event ∈ terminal.events bytes, event.KeepsView)
    (hStays :
      ∀ before,
        before <+: terminal.events bytes →
          (before.foldl Session.handle
            terminal.session).screen = .primary) :
    let grid := terminal.session.active
    let after := (terminal.process bytes).session.active
    ∃ pushed : List Line,
      after.scrollback.head =
          grid.scrollback.head + pushed.length ∧
        after.scrollback.toList =
          (grid.scrollback.toList ++ pushed).drop
            ((grid.scrollback.toList ++ pushed).length -
              grid.scrollback.capacity) ∧
        after.viewOffset =
          min (grid.viewOffset + pushed.length)
            after.scrollback.size ∧
        (grid.viewOffset + pushed.length ≤
            after.scrollback.size →
          ∀ y,
            y < min grid.viewOffset grid.rows →
              ∃ line,
                grid.visibleLine? y = some line ∧
                  after.visibleLine? y = some line) := by
  intro grid after
  rcases hTerminal.wellFormed with
    ⟨config, cols, rows, hWellFormed⟩
  have hSession := hWellFormed.session
  have hGrid : grid = terminal.session.primary :=
    Session.active_of_primary hScreen
  have hProcessed :
      (terminal.process bytes).session =
        (terminal.events bytes).foldl Session.handle
          terminal.session := by
    rw [process_eq]
  have hAfter :
      after =
        ((terminal.events bytes).foldl Session.handle
          terminal.session).primary := by
    rw [← hProcessed]
    apply Session.active_of_primary
    rw [hProcessed]
    exact hStays _ (List.prefix_refl _)
  have hBack : terminal.session.primary.LooksBack := by
    apply hSession.primary.looksBack
    rw [← hGrid]
    exact hView
  rcases hSession.anchors_handleAll hKeeps hStays hBack with
    ⟨pushed, hAnchors⟩
  rw [← hGrid] at hBack
  rw [← hGrid, ← hAfter] at hAnchors
  refine
    ⟨pushed.reverse, ?_, hAnchors.toList_eq, ?_, ?_⟩
  · rw [List.length_reverse]
    exact hAnchors.head_eq
  · rw [List.length_reverse]
    exact hAnchors.view_eq
  · intro hRoom y hRow
    rw [List.length_reverse] at hRoom
    exact
      hAnchors.exists_visibleLine? hBack hRoom (by omega)
        (by omega)

/- Three lines on a screen of two rows, the first in view. -/
def lookingBack : Terminal :=
  (createRaised 3 2).performAll
    [.process [0x61, 0x0A, 0x62, 0x0A, 0x63], .viewUp 1]

/- Two more lines and one character of a third. -/
def moreOutput : List UInt8 :=
  [0x0A, 0x64, 0x0A, 0x65]

/- For one, the first line stays in view while two leave. -/
theorem view_anchored_on_output :
    lookingBack.session.active.viewOffset = 1 ∧
      (lookingBack.process
        moreOutput).session.active.viewOffset = 3 ∧
      (lookingBack.process
          moreOutput).session.active.visibleLine? 0 =
        lookingBack.session.active.visibleLine? 0 := by
  have hReachable : Reachable lookingBack :=
    (Reachable.createRaised 3 2).performAll _
  have hStays :
      ∀ before,
        before <+: lookingBack.events moreOutput →
          (before.foldl Session.handle
            lookingBack.session).screen = .primary := by
    intro before hBefore
    have hEvents :
        (lookingBack.events moreOutput).length = 4 := by
      decide +kernel
    have hLength : before.length < 5 :=
      Nat.lt_succ_of_le (hEvents ▸ hBefore.length_le)
    rw [List.prefix_iff_eq_take.mp hBefore]
    generalize before.length = length at hLength
    revert length
    decide +kernel
  have hOffset :
      lookingBack.session.active.viewOffset = 1 := by
    decide +kernel
  have hHeads :
      lookingBack.session.active.scrollback.head = 1 ∧
        (lookingBack.process
          moreOutput).session.active.scrollback.head = 3 := by
    decide +kernel
  have hSize :
      (lookingBack.process
        moreOutput).session.active.scrollback.size = 3 := by
    decide +kernel
  rcases hReachable.view_anchored (by decide +kernel)
      (by decide +kernel) (by decide +kernel) hStays with
    ⟨pushed, hHead, _, hView, hRows⟩
  rw [hHeads.1, hHeads.2] at hHead
  rw [hOffset, hSize] at hView hRows
  rcases hRows (by omega) 0 (by decide +kernel) with
    ⟨line, hShown, hStill⟩
  refine ⟨hOffset, ?_, hStill.trans hShown.symm⟩
  rw [hView]
  omega

end Terminal

end VideoTerminal
