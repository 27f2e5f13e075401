import Mathlib.Data.List.Induction
import VideoTerminal.Proofs.Mouse.Reports

/-
  Motions in a run of events.  Whether a motion is reported
  depends on all that happened before: the buttons that are
  still down, and the cell of the last report.  What a single
  event does to these is carried through the run.

  Main declarations:
    * `MouseEvent.Down`
    * `MouseEvent.LowestDown`
    * `MouseTracker.run`
    * `MouseTracker.reportAfter?`
    * `MouseTracker.mem_held_run_iff`
    * `MouseTracker.last_run_of_same`
    * `MouseTracker.ReportsMotion`
    * `MouseTracker.reportsMotion_after`
-/

namespace VideoTerminal

------------------------------------------------------------
-- Buttons in a Run of Events
------------------------------------------------------------

namespace MouseEvent

/- The cell that an event is over. -/
def cell
    (event : MouseEvent) : Nat × Nat :=
  (event.col, event.row)

/- An event is a press or a release of a button. -/
def Switches
    (event : MouseEvent)
    (button : MouseButton) : Prop :=
  event.kind ≠ .motion ∧ event.button = some button

/- The last press or release of a button is a press. -/
def Down
    (events : List MouseEvent)
    (button : MouseButton) : Prop :=
  ∃ before press later,
    events = before ++ press :: later ∧
      press.kind = .press ∧ press.button = some button ∧
        ∀ event ∈ later, ¬event.Switches button

/- The button with the lowest number of those down. -/
structure LowestDown
    (events : List MouseEvent)
    (button : MouseButton) : Prop where
  down : Down events button
  number_le :
    ∀ other,
      Down events other → button.number ≤ other.number

section

variable {events : List MouseEvent} {event : MouseEvent}
  {button : MouseButton}

theorem not_down_nil :
    ¬Down [] button := by
  rintro ⟨before, press, later, hEvents, _⟩
  exact List.append_ne_nil_of_right_ne_nil _
    (List.cons_ne_nil _ _) hEvents.symm

/- One more event leaves the other buttons as they are. -/
theorem down_concat_iff :
    Down (events ++ [event]) button ↔
      (event.kind = .press ∧ event.button = some button) ∨
        (Down events button ∧ ¬event.Switches button) := by
  constructor
  · rintro ⟨before, press, later, hEvents, hPress, hButton,
      hLater⟩
    rcases List.eq_nil_or_concat' later with
      rfl | ⟨others, last, rfl⟩
    · rcases List.append_inj' hEvents rfl with ⟨_, hLast⟩
      rw [List.singleton_inj.mp hLast]
      exact Or.inl ⟨hPress, hButton⟩
    · have hSplit :
          events ++ [event] =
            (before ++ press :: others) ++ [last] := by
        rw [hEvents, List.append_assoc]
        rfl
      rcases List.append_inj' hSplit rfl with ⟨hFirst, hLast⟩
      rw [List.singleton_inj.mp hLast]
      refine Or.inr ⟨⟨before, press, others, hFirst, hPress,
        hButton, ?_⟩, ?_⟩
      · intro other hOther
        exact hLater other (List.mem_append_left _ hOther)
      · exact
          hLater last
            (List.mem_append_right _ List.mem_cons_self)
  · rintro (⟨hPress, hButton⟩ | ⟨hDown, hKept⟩)
    · exact
        ⟨events, event, [], rfl, hPress, hButton,
          fun _ hOther => nomatch hOther⟩
    · rcases hDown with
        ⟨before, press, later, rfl, hPress, hButton, hLater⟩
      refine
        ⟨before, press, later ++ [event],
          List.append_assoc _ _ _, hPress, hButton, ?_⟩
      intro other hOther
      rcases List.mem_append.mp hOther with hOld | hNew
      · exact hLater other hOld
      · rw [List.mem_singleton.mp hNew]
        exact hKept

end

end MouseEvent

namespace MouseButton

theorem mem_all
    (button : MouseButton) :
    button ∈ all := by
  cases button <;> decide

/- The buttons are listed by their numbers. -/
theorem pairwise_number_lt :
    all.Pairwise (·.number < ·.number) := by
  decide

end MouseButton

------------------------------------------------------------
-- One Event
------------------------------------------------------------

namespace MouseTracker

section

variable {tracker : MouseTracker} {mode : MouseMode}
  {encoding : MouseEncoding} {event : MouseEvent}
  {button : MouseButton}

/- The held button with the lowest number. -/
theorem lowestHeld_eq_some
    (hLowest : tracker.lowestHeld = some button) :
    button ∈ tracker.held ∧
      ∀ other ∈ tracker.held,
        button.number ≤ other.number := by
  rcases List.find?_eq_some_iff_append.mp hLowest with
    ⟨hHeld, lower, higher, hAll, hLower⟩
  have hOrdered := MouseButton.pairwise_number_lt
  rw [hAll] at hOrdered
  have hHigher :=
    (List.pairwise_cons.mp
      (List.pairwise_append.mp hOrdered).2.1).1
  refine ⟨List.contains_iff_mem.mp hHeld, ?_⟩
  intro other hOther
  have hMem := other.mem_all
  rw [hAll] at hMem
  rcases List.mem_append.mp hMem with hBefore | hMem
  · have hNot := hLower other hBefore
    rw [List.contains_iff_mem.mpr hOther] at hNot
    cases hNot
  · rcases List.mem_cons.mp hMem with rfl | hAfter
    · exact Nat.le_refl _
    · exact Nat.le_of_lt (hHigher other hAfter)

theorem isSome_lowestHeld
    (hHeld : button ∈ tracker.held) :
    tracker.lowestHeld.isSome := by
  unfold lowestHeld
  rw [List.find?_isSome]
  exact
    ⟨button, button.mem_all, List.contains_iff_mem.mpr hHeld⟩

theorem mem_held_hold :
    button ∈ (tracker.hold event).held ↔
      (event.kind = .press ∧ event.button = some button) ∨
        (button ∈ tracker.held ∧
          ¬event.Switches button) := by
  unfold hold MouseEvent.Switches
  cases hKind : event.kind with
  | motion => simp
  | press =>
      cases hButton : event.button with
      | none => simp
      | some pressed =>
          simp only [List.mem_cons, List.mem_filter,
            decide_eq_true_eq, Option.some.injEq]
          grind
  | release =>
      cases hButton : event.button with
      | none => simp
      | some released =>
          simp only [List.mem_filter, decide_eq_true_eq,
            Option.some.injEq]
          grind

theorem last_hold :
    (tracker.hold event).last = tracker.last := by
  unfold hold
  split <;> rfl

theorem held_report :
    (tracker.report mode encoding event).1.held =
      (tracker.hold event).held := by
  unfold report
  dsimp only
  split <;> rfl

theorem hold_of_motion
    (hMotion : event.kind = .motion) :
    tracker.hold event = tracker := by
  unfold hold
  rw [hMotion]

/- A report is remembered by its cell. -/
theorem last_report_of_isSome
    (hReport : (tracker.report mode encoding event).2.isSome) :
    (tracker.report mode encoding event).1.last =
      some event.cell := by
  unfold report at hReport ⊢
  dsimp only at hReport ⊢
  split at hReport
  · cases hReport
  · rfl

/- An event in the cell that is remembered leaves it so. -/
theorem last_report_of_same
    (hLast : tracker.last = some event.cell) :
    (tracker.report mode encoding event).1.last =
      some event.cell := by
  unfold report
  dsimp only
  split
  · exact last_hold.trans hLast
  · rfl

theorem report_of_subject?_eq_none
    (hNone : (tracker.hold event).subject? mode event = none) :
    (tracker.report mode encoding event).2 = none := by
  unfold report
  dsimp only
  rw [hNone]

/- A motion within the cell of the last report is none. -/
theorem report_motion_of_same
    (hMotion : event.kind = .motion)
    (hLast : tracker.last = some event.cell) :
    (tracker.report mode encoding event).2 = none := by
  apply report_of_subject?_eq_none
  rw [hold_of_motion hMotion]
  unfold subject?
  rw [hMotion]
  cases mode with
  | off | x10 | normal => rfl
  | buttonEvent | anyEvent => exact if_pos hLast

theorem report_motion_of_mode
    (hMotion : event.kind = .motion)
    (hMode : mode = .off ∨ mode = .x10 ∨ mode = .normal) :
    (tracker.report mode encoding event).2 = none := by
  apply report_of_subject?_eq_none
  unfold subject?
  rw [hMotion]
  rcases hMode with rfl | rfl | rfl <;> rfl

/- A drag is reported with the lowest button that is held. -/
theorem report_drag_eq_some
    {bytes : List UInt8}
    (hMotion : event.kind = .motion)
    (hReport :
      (tracker.report .buttonEvent encoding event).2 =
        some bytes) :
    ∃ button,
      tracker.lowestHeld = some button ∧
        event.report? encoding
            (event.code .buttonEvent encoding
              (some button)) =
          some bytes := by
  rcases report_eq_some_iff.mp hReport with
    ⟨subject, hSubject, hBytes⟩
  rw [hold_of_motion hMotion] at hSubject
  unfold subject? at hSubject
  rw [hMotion] at hSubject
  dsimp only at hSubject
  split at hSubject
  · cases hSubject
  · rcases Option.map_eq_some_iff.mp hSubject with
      ⟨button, hLowest, rfl⟩
    exact ⟨button, hLowest, hBytes⟩

/- A drag to another cell is reported. -/
theorem isSome_report_drag
    (hMotion : event.kind = .motion)
    (hHeld : button ∈ tracker.held)
    (hLast : tracker.last ≠ some event.cell) :
    (tracker.report .buttonEvent .sgr event).2.isSome := by
  rw [isSome_report_sgr_iff, hold_of_motion hMotion]
  unfold MouseEvent.cell at hLast
  unfold subject?
  rw [hMotion]
  dsimp only
  rw [if_neg hLast, Option.isSome_map]
  exact isSome_lowestHeld hHeld

end

------------------------------------------------------------
-- Runs of Events
------------------------------------------------------------

/- The tracker after a run of events. -/
def run
    (mode : MouseMode)
    (encoding : MouseEncoding)
    (tracker : MouseTracker)
    (events : List MouseEvent) : MouseTracker :=
  events.foldl
    (fun tracker event =>
      (tracker.report mode encoding event).1)
    tracker

/- The report on an event after a run from the beginning. -/
def reportAfter?
    (mode : MouseMode)
    (encoding : MouseEncoding)
    (events : List MouseEvent)
    (event : MouseEvent) : Option (List UInt8) :=
  ((start.run mode encoding events).report mode encoding
    event).2

section

variable (mode : MouseMode) (encoding : MouseEncoding)
  (tracker : MouseTracker)

theorem run_append
    (events others : List MouseEvent) :
    tracker.run mode encoding (events ++ others) =
      (tracker.run mode encoding events).run mode encoding
        others :=
  List.foldl_append

theorem run_cons
    (event : MouseEvent)
    (events : List MouseEvent) :
    tracker.run mode encoding (event :: events) =
      (tracker.report mode encoding event).1.run mode
        encoding events :=
  rfl

/- The tracker holds the buttons that are down, in any mode. -/
theorem mem_held_run_iff
    (events : List MouseEvent)
    (button : MouseButton) :
    button ∈ (start.run mode encoding events).held ↔
      MouseEvent.Down events button := by
  induction events using List.reverseRecOn with
  | nil =>
      exact
        iff_of_false List.not_mem_nil MouseEvent.not_down_nil
  | append_singleton events event hRun =>
      rw [run_append, run_cons, MouseEvent.down_concat_iff,
        ← hRun]
      show
        button ∈
            ((start.run mode encoding events).report mode
              encoding event).1.held ↔ _
      rw [held_report, mem_held_hold]

/- Events in the remembered cell leave it remembered. -/
theorem last_run_of_same
    {cell : Nat × Nat}
    {events : List MouseEvent}
    (hSame : ∀ event ∈ events, event.cell = cell)
    (hLast : tracker.last = some cell) :
    (tracker.run mode encoding events).last = some cell := by
  induction events generalizing tracker with
  | nil => exact hLast
  | cons event events hRest =>
      rcases List.forall_mem_cons.mp hSame with
        ⟨rfl, hOthers⟩
      rw [run_cons]
      exact hRest _ hOthers (last_report_of_same hLast)

end

section

variable {mode : MouseMode} {encoding : MouseEncoding}
  {events : List MouseEvent} {event : MouseEvent}

/- The lowest button that is held is the lowest one down. -/
theorem lowestDown_of_lowestHeld
    {button : MouseButton}
    (hLowest :
      (start.run mode encoding events).lowestHeld =
        some button) :
    MouseEvent.LowestDown events button := by
  rcases lowestHeld_eq_some hLowest with ⟨hHeld, hLeast⟩
  exact
    { down := (mem_held_run_iff mode encoding _ _).mp hHeld
      number_le := fun other hDown =>
        hLeast other
          ((mem_held_run_iff mode encoding _ _).mpr hDown) }

/- A cell is reported again only after another has been seen. -/
theorem exists_other_cell
    {before between : List MouseEvent}
    {earlier : MouseEvent}
    (hMotion : event.kind = .motion)
    (hEarlier :
      (reportAfter? mode encoding before earlier).isSome)
    (hCell : earlier.cell = event.cell)
    (hReport :
      (reportAfter? mode encoding
        (before ++ earlier :: between) event).isSome) :
    ∃ other ∈ between, other.cell ≠ event.cell := by
  by_contra hNone
  push Not at hNone
  have hFirst := last_report_of_isSome hEarlier
  rw [hCell] at hFirst
  have hLast :=
    last_run_of_same mode encoding _ hNone hFirst
  have hSilent :
      ((((start.run mode encoding before).report mode encoding
        earlier).1.run mode encoding between).report mode
          encoding event).2 = none :=
    report_motion_of_same hMotion hLast
  unfold reportAfter? at hReport
  rw [run_append, run_cons, hSilent] at hReport
  cases hReport

/- A drag goes on when the pointer leaves a reported cell. -/
theorem isSome_reportAfter?_drag
    {before : List MouseEvent}
    {earlier : MouseEvent}
    {button : MouseButton}
    (hMotion : event.kind = .motion)
    (hEarlier :
      (reportAfter? .buttonEvent .sgr before earlier).isSome)
    (hCell : earlier.cell ≠ event.cell)
    (hDown : MouseEvent.Down (before ++ [earlier]) button) :
    (reportAfter? .buttonEvent .sgr (before ++ [earlier])
      event).isSome := by
  apply isSome_report_drag hMotion
  · exact (mem_held_run_iff .buttonEvent .sgr _ _).mpr hDown
  · rw [run_append, run_cons]
    intro hLast
    have hFirst := last_report_of_isSome hEarlier
    exact hCell (Option.some.inj (hFirst.symm.trans hLast))

/- A report on a drag tells the button that it is about. -/
theorem report?_eq_some_iff_of_motion
    {button : MouseButton}
    {bytes : List UInt8}
    (hMode : mode ≠ .x10)
    (hMotion : event.kind = .motion)
    (hReport :
      event.report? encoding
          (event.code mode encoding (some button)) =
        some bytes)
    (subject : Option MouseButton) :
    event.report? encoding
          (event.code mode encoding subject) =
        some bytes ↔
      subject = some button := by
  constructor
  · intro hOther
    have hCode :=
      MouseEvent.code_eq_of_report? hOther hReport
    have hTold :
        ∀ other, event.told encoding other = other := by
      intro other
      refine if_neg fun hRelease => ?_
      cases hMotion.symm.trans hRelease.2
    have hSame := (MouseEvent.same_of_code_eq hMode hCode).2.1
    rw [hTold, hTold] at hSame
    exact hSame
  · rintro rfl
    exact hReport

end

/-
  What is reported on a motion after a run of events.  A drag
  is reported if a button is down and then with the lowest
  one, when the pointer leaves the cell of the last report.
-/
structure ReportsMotion
    (mode : MouseMode)
    (encoding : MouseEncoding)
    (events : List MouseEvent)
    (event : MouseEvent) : Prop where
  dragged :
    mode = .buttonEvent →
      ∀ bytes,
        reportAfter? mode encoding events event =
            some bytes →
          ∃ button,
            MouseEvent.LowestDown events button ∧
              ∀ subject,
                event.report? encoding
                      (event.code mode encoding subject) =
                    some bytes ↔
                  subject = some button
  followed :
    mode = .buttonEvent →
      encoding = .sgr →
        ∀ before earlier button,
          events = before ++ [earlier] →
            (reportAfter? mode encoding before
                earlier).isSome →
              earlier.cell ≠ event.cell →
                MouseEvent.Down events button →
                  (reportAfter? mode encoding events
                    event).isSome
  ignored :
    mode = .off ∨ mode = .x10 ∨ mode = .normal →
      reportAfter? mode encoding events event = none
  moved :
    ∀ before earlier between,
      events = before ++ earlier :: between →
        (reportAfter? mode encoding before earlier).isSome →
          earlier.cell = event.cell →
            (reportAfter? mode encoding events
                event).isSome →
              ∃ other ∈ between, other.cell ≠ event.cell

/- Whatever the events are and in whatever order they come. -/
theorem reportsMotion_after
    (mode : MouseMode)
    (encoding : MouseEncoding)
    (events : List MouseEvent)
    {event : MouseEvent}
    (hMotion : event.kind = .motion) :
    ReportsMotion mode encoding events event where
  dragged := by
    rintro rfl bytes hReport
    rcases report_drag_eq_some hMotion hReport with
      ⟨button, hLowest, hBytes⟩
    exact
      ⟨button, lowestDown_of_lowestHeld hLowest,
        report?_eq_some_iff_of_motion (by decide) hMotion
          hBytes⟩
  followed := by
    rintro rfl rfl before earlier button rfl hEarlier hCell
      hDown
    exact
      isSome_reportAfter?_drag hMotion hEarlier hCell hDown
  ignored := report_motion_of_mode hMotion
  moved := by
    rintro before earlier between rfl hEarlier hCell hReport
    exact exists_other_cell hMotion hEarlier hCell hReport

/-
  Two of three buttons are down.  The pointer comes back to a
  cell that was reported from one that was not, because the
  legacy form does not reach it.
-/
def draggedBack : List MouseEvent :=
  let keys : MouseModifiers := ⟨false, false, false⟩
  [⟨.press, some .left, 0, 0, keys⟩,
    ⟨.press, some .right, 0, 0, keys⟩,
    ⟨.press, some .middle, 2, 1, keys⟩,
    ⟨.release, some .left, 300, 0, keys⟩]

theorem reportsMotion_draggedBack :
    let event : MouseEvent :=
      ⟨.motion, none, 2, 1, ⟨false, false, false⟩⟩
    reportAfter? .buttonEvent .legacy draggedBack event =
        some [0x1B, 0x5B, 0x4D, 65, 35, 34] ∧
      ReportsMotion .buttonEvent .legacy draggedBack
        event :=
  ⟨by decide,
    reportsMotion_after .buttonEvent .legacy draggedBack rfl⟩

end MouseTracker

end VideoTerminal
