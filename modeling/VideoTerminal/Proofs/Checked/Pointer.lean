import VideoTerminal.Proofs.Checked.Selection
import VideoTerminal.Proofs.Checked.Writing
import VideoTerminal.Terminal.Pointer

/-
  Selecting and reports of the pointer by operations that can
  fault.  None of them does in a well-formed session.

  Main declarations:
    * `MouseTracker.reportChecked_eq`
    * `Session.reportMouseChecked_eq`
    * `Session.WellFormed.beginSelectionChecked_eq`
    * `Session.WellFormed.extendSelectionChecked_eq`
    * `Session.WellFormed.selectionTextChecked_eq`
-/

namespace VideoTerminal

------------------------------------------------------------
-- Buttons
------------------------------------------------------------

namespace MouseButton

/- The bit of a button in a word of 16 bits. -/
def bitChecked
    (button : MouseButton) : Option Nat := do
  let place ← Checked.sub button.number 1
  Checked.shiftLeft 16 1 place

/- The code of a button in reports. -/
def codeChecked
    (button : MouseButton) : Option Nat :=
  let n := button.number
  if 8 ≤ n then
    Checked.sub (128 + n) 8
  else if 4 ≤ n then
    Checked.sub (64 + n) 4
  else
    Checked.sub n 1

theorem bitChecked_eq
    (button : MouseButton) :
    button.bitChecked = some (2 ^ (button.number - 1)) := by
  cases button <;> rfl

theorem codeChecked_eq
    (button : MouseButton) :
    button.codeChecked = some button.code := by
  cases button <;> rfl

end MouseButton

------------------------------------------------------------
-- Tracking
------------------------------------------------------------

namespace MouseTracker

/- A button is held, which its bit tells. -/
def isHeldChecked
    (tracker : MouseTracker)
    (button : MouseButton) : Option Bool := do
  let _ ← button.bitChecked
  return tracker.held.contains button

/- The held button with the lowest number. -/
def lowestHeldChecked
    (tracker : MouseTracker) : Option (Option MouseButton) :=
  MouseButton.all.findM? tracker.isHeldChecked

/- Take note of a button pressed or released. -/
def holdChecked
    (tracker : MouseTracker)
    (event : MouseEvent) : Option MouseTracker :=
  match event.button with
  | none => some (tracker.hold event)
  | some button => do
    let _ ← button.bitChecked
    return tracker.hold event

/-
  The button that a report on the event is about.  The held
  button is looked up whatever the event.
-/
def subjectChecked
    (tracker : MouseTracker)
    (mode : MouseMode)
    (event : MouseEvent) :
    Option (Option (Option MouseButton)) := do
  let held ← tracker.lowestHeldChecked
  match event.kind, mode with
  | .motion, .anyEvent =>
    return if tracker.last = some (event.col, event.row) then
      none
    else
      some held
  | .motion, .buttonEvent =>
    return if tracker.last = some (event.col, event.row) then
      none
    else
      held.map some
  | _, _ => return tracker.subject? mode event

end MouseTracker

/- The code of an event's button in reports. -/
def MouseEvent.buttonCodeChecked
    (event : MouseEvent)
    (encoding : MouseEncoding)
    (subject : Option MouseButton) : Option Nat :=
  if encoding = .legacy ∧ event.kind = .release then
    some 3
  else
    subject.elim (some 3) MouseButton.codeChecked

/- The code of an event in reports. -/
def MouseEvent.codeChecked
    (event : MouseEvent)
    (mode : MouseMode)
    (encoding : MouseEncoding)
    (subject : Option MouseButton) : Option Nat := do
  let motion := if event.kind = .motion then 32 else 0
  let button ← event.buttonCodeChecked encoding subject
  let modifiers :=
    if mode = .x10 then 0 else event.modifiers.code
  return motion + button + modifiers

/- Take note of an event, and write the report on it. -/
def MouseTracker.reportChecked
    (tracker : MouseTracker)
    (mode : MouseMode)
    (encoding : MouseEncoding)
    (event : MouseEvent) :
    Option (MouseTracker × Option (List UInt8)) := do
  let tracker ← tracker.holdChecked event
  match ← tracker.subjectChecked mode event with
  | none => return (tracker, none)
  | some subject =>
    let code ← event.codeChecked mode encoding subject
    return ({ tracker with last := some (event.col, event.row) },
      event.report? encoding code)

namespace MouseTracker

theorem lowestHeldChecked_eq
    (tracker : MouseTracker) :
    tracker.lowestHeldChecked = some tracker.lowestHeld := by
  have hHeld :
      ∀ button,
        tracker.isHeldChecked button =
          some (tracker.held.contains button) :=
    fun button => Checked.bind_eq button.bitChecked_eq
  unfold lowestHeldChecked lowestHeld
  induction MouseButton.all with
  | nil => rfl
  | cons button buttons hRest =>
      rw [List.findM?, List.find?_cons, hHeld]
      cases tracker.held.contains button with
      | true => rfl
      | false => exact hRest

theorem holdChecked_eq
    (tracker : MouseTracker)
    (event : MouseEvent) :
    tracker.holdChecked event = some (tracker.hold event) := by
  unfold holdChecked
  split
  · rfl
  · exact Checked.bind_eq (MouseButton.bitChecked_eq _)

theorem subjectChecked_eq
    (tracker : MouseTracker)
    (mode : MouseMode)
    (event : MouseEvent) :
    tracker.subjectChecked mode event =
      some (tracker.subject? mode event) := by
  refine
    (Checked.bind_eq tracker.lowestHeldChecked_eq).trans ?_
  unfold subject?
  cases event.kind <;> cases mode <;> rfl

end MouseTracker

theorem MouseEvent.codeChecked_eq
    (event : MouseEvent)
    (mode : MouseMode)
    (encoding : MouseEncoding)
    (subject : Option MouseButton) :
    event.codeChecked mode encoding subject =
      some (event.code mode encoding subject) := by
  have hButton :
      event.buttonCodeChecked encoding subject =
        some
          (if encoding = .legacy ∧ event.kind = .release then
            3
          else
            subject.elim 3 MouseButton.code) := by
    unfold buttonCodeChecked
    split
    · rfl
    · cases subject with
      | none => rfl
      | some button => exact button.codeChecked_eq
  exact Checked.bind_eq hButton

theorem MouseTracker.reportChecked_eq
    (tracker : MouseTracker)
    (mode : MouseMode)
    (encoding : MouseEncoding)
    (event : MouseEvent) :
    tracker.reportChecked mode encoding event =
      some (tracker.report mode encoding event) := by
  unfold report
  refine (Checked.bind_eq (tracker.holdChecked_eq event)).trans ?_
  refine
    (Checked.bind_eq (subjectChecked_eq _ mode event)).trans ?_
  dsimp only
  cases (tracker.hold event).subject? mode event with
  | none => rfl
  | some subject =>
      exact
        Checked.bind_eq
          (event.codeChecked_eq mode encoding subject)

namespace Session

------------------------------------------------------------
-- Reporting
------------------------------------------------------------

/- Report an event of the pointer. -/
def reportMouseChecked
    (session : Session)
    (event : MouseEvent) : Option (Session × Bool) := do
  let (tracker, report) ←
    session.mouseTracker.reportChecked session.mouseMode
      session.mouseEncoding event
  let noted := { session with mouseTracker := tracker }
  match report with
  | none => return (noted, false)
  | some bytes => return (noted.respond bytes, true)

theorem reportMouseChecked_eq
    (session : Session)
    (event : MouseEvent) :
    session.reportMouseChecked event =
      some (session.reportMouse event) := by
  refine
    (Checked.bind_eq
      (session.mouseTracker.reportChecked_eq
        session.mouseMode session.mouseEncoding
        event)).trans ?_
  unfold reportMouse
  rcases session.mouseTracker.report session.mouseMode
    session.mouseEncoding event with ⟨tracker, report⟩
  cases report with
  | none => rfl
  | some bytes => rfl

------------------------------------------------------------
-- Selecting
------------------------------------------------------------

/- Start a selection at a cell in view. -/
def beginSelectionChecked
    (session : Session)
    (x y : Nat)
    (snap : Snap)
    (mode : SelectionMode) : Option Session := do
  let selection ←
    Selection.beginChecked session.active
      session.config.isDelimiter (session.viewportPoint x y)
      snap mode session.screen
  some { session with selection := some selection }

/- Start a selection by a click at a cell in view. -/
def clickSelectionChecked
    (session : Session)
    (x y : Nat)
    (mode : SelectionMode)
    (time : Nat) : Option (Session × Snap) := do
  let (clicks, snap) :=
    session.clicks.click (session.viewportPoint x y) time
      session.config.doubleClickMs session.config.tripleClickMs
  let begun ←
    { session with clicks := clicks }.beginSelectionChecked x y
      snap mode
  return (begun, snap)

/- The selection dragged to a cell in view, if there is one. -/
def draggedChecked
    (session : Session)
    (x y : Nat) : Option (Option Selection) :=
  match session.selection with
  | none => some none
  | some selection => do
    let extended ←
      selection.extendChecked session.active
        session.config.isDelimiter (session.viewportPoint x y)
    return some extended

/- Drag a selection to a cell in view. -/
def extendSelectionChecked
    (session : Session)
    (x y : Nat) : Option Session := do
  let dragged ← session.draggedChecked x y
  some { session with selection := dragged }

/- The text of the selection on a screen, if there is any. -/
def textOnChecked
    (session : Session)
    (screen : Screen) : Option (Option String) :=
  match session.selection with
  | none => some none
  | some selection =>
    selection.textChecked (session.grid screen)

/- The text of the selection. -/
def selectionTextChecked
    (session : Session) :
    Option (Except TerminalError String) := do
  match session.selection with
  | none => return .error .emptySelection
  | some selection =>
    match ← session.textOnChecked selection.screen with
    | none => return .error .emptySelection
    | some text => return .ok text

section

variable {config : Config} {cols rows : Nat}
  {session : Session}
  (hSession : session.WellFormed config cols rows)

include hSession

theorem WellFormed.beginSelectionChecked_eq
    (x y : Nat)
    (snap : Snap)
    (mode : SelectionMode) :
    session.beginSelectionChecked x y snap mode =
      some (session.beginSelection x y snap mode) := by
  have hCols : 0 < session.active.cols :=
    hSession.active.cols_eq.symm ▸ hSession.cols_pos
  exact
    Checked.bind_eq
      (Selection.beginChecked_eq hSession.ring hCols
        _ _ _ _ _)

theorem WellFormed.clickSelectionChecked_eq
    (x y : Nat)
    (mode : SelectionMode)
    (time : Nat) :
    session.clickSelectionChecked x y mode time =
      some (session.clickSelection x y mode time) := by
  have hClicked :
      { session with
        clicks :=
          (session.clicks.click (session.viewportPoint x y)
            time session.config.doubleClickMs
            session.config.tripleClickMs).1 }.WellFormed
        config cols rows :=
    { hSession with }
  exact
    Checked.bind_eq
      (hClicked.beginSelectionChecked_eq _ _ _ _)

theorem WellFormed.extendSelectionChecked_eq
    (x y : Nat) :
    session.extendSelectionChecked x y =
      some (session.extendSelection x y) := by
  have hCols : 0 < session.active.cols :=
    hSession.active.cols_eq.symm ▸ hSession.cols_pos
  have hDragged :
      session.draggedChecked x y =
        some (session.extendSelection x y).selection := by
    unfold draggedChecked Session.extendSelection
    cases session.selection with
    | none => rfl
    | some selection =>
        exact
          Checked.bind_eq
            (Selection.extendChecked_eq hSession.ring hCols
              selection _ _)
  exact Checked.bind_eq hDragged

theorem WellFormed.textOnChecked_eq
    (screen : Screen) :
    session.textOnChecked screen =
      some
        (session.selection.bind
          (·.text? (session.grid screen))) := by
  unfold textOnChecked
  cases session.selection with
  | none => rfl
  | some selection =>
      cases screen with
      | primary =>
          exact
            Selection.textChecked_eq hSession.primary selection
      | alternate =>
          exact
            Selection.textChecked_eq hSession.alternate
              selection

theorem WellFormed.selectionTextChecked_eq :
    session.selectionTextChecked =
      some session.selectionText := by
  unfold selectionTextChecked Session.selectionText
  cases hSelection : session.selection with
  | none => rfl
  | some selection =>
      refine
        (Checked.bind_eq
          (hSession.textOnChecked_eq _)).trans ?_
      rw [hSelection, Option.bind_some, Option.bind_some]
      cases selection.text? (session.grid selection.screen) with
      | none => rfl
      | some text => rfl

end

end Session

end VideoTerminal
