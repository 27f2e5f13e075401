import VideoTerminal.Proofs.Session.Quiet
import VideoTerminal.Proofs.Session.Writing

/-
  What the events of the parser leave alone behind the screen
  in use: the history and the names of the window, and the
  primary screen while the alternate one is in use.  Few
  events reach any of it, and this file tells them apart.

  Main declarations:
    * `Session.records`
    * `Session.aside`
    * `Event.IsLocal`
    * `Event.isLocal_or`
    * `Session.WellFormed.offstage_handle`
    * `Session.WellFormed.aside_handle`
-/

namespace VideoTerminal

------------------------------------------------------------
-- Scrolling Without the History
------------------------------------------------------------

namespace Grid

theorem scrollback_scrollRegion
    (grid : Grid)
    (origin bottom n : Nat)
    (direction : ScrollDirection)
    (blank : Cell) :
    (grid.scrollRegion origin bottom n direction false
      blank).1.scrollback = grid.scrollback := by
  have hKeeps :
      grid.usesHistory origin (min bottom (grid.rows - 1))
        false = false :=
    rfl
  unfold scrollRegion
  cases direction with
  | up =>
      unfold scrollUp
      simp only [hKeeps, Bool.false_eq_true, if_false]
      split
      · rfl
      · split <;> rfl
  | down =>
      unfold scrollDown
      simp only [hKeeps, Bool.false_eq_true, if_false]
      split
      · rfl
      · split <;> rfl

end Grid

namespace Session

------------------------------------------------------------
-- Behind the Screen in Use
------------------------------------------------------------

/- The history and the names of the window. -/
def records
    (session : Session) : Scrollback × String × String :=
  (session.primary.scrollback, session.title,
    session.iconName)

/-
  The primary screen and the cursor saved for it while the
  alternate screen is in use.
-/
def aside
    (session : Session) :
    Option (Grid × Option SavedCursor) :=
  match session.screen with
  | .primary => none
  | .alternate =>
    some (session.primary, session.savedPrimary)

/- Everything behind the screen in use. -/
def offstage
    (session : Session) :
    Option (Grid × Option SavedCursor) ×
      Scrollback × String × String :=
  (session.aside, session.records)

theorem aside_modifyActive
    (session : Session)
    (change : Grid → Grid) :
    (session.modifyActive change).aside = session.aside := by
  rcases session with ⟨_, _, _, screen⟩
  cases screen with
  | primary => rfl
  | alternate => rfl

theorem offstage_modifyActive
    {session : Session}
    {change : Grid → Grid}
    (hHistory :
      (change session.active).scrollback =
        session.active.scrollback) :
    (session.modifyActive change).offstage =
      session.offstage := by
  have hAside := aside_modifyActive session change
  apply Prod.ext hAside
  rcases session with ⟨_, _, _, screen⟩
  cases screen with
  | primary =>
      exact
        congrArg (fun history => (history, _, _)) hHistory
  | alternate => rfl

------------------------------------------------------------
-- Scrolling and Clearing
------------------------------------------------------------

section

variable (session : Session)

theorem offstage_scrollLines
    (origin count : Nat)
    (direction : ScrollDirection) :
    (session.scrollLines origin count direction
      false).offstage = session.offstage := by
  by_cases hNone : session.scrollCount origin count = 0
  · rw [scrollLines_of_eq_zero hNone]
  · rw [scrollLines_of_ne_zero hNone]
    exact
      offstage_modifyActive
        (Grid.scrollback_scrollRegion session.active _ _ _ _ _)

theorem offstage_clearRegion
    (x₁ y₁ x₂ y₂ : Nat) :
    (session.clearRegion x₁ y₁ x₂ y₂).offstage =
      session.offstage :=
  @offstage_modifyActive
    (session.dropSelectionIn _ _ _ _) _
    (Grid.edits_eraseRect session.active x₁ y₁ x₂ y₂
      session.blank).scrollback_eq

theorem offstage_moveTo
    (col row : Nat) :
    (session.moveTo col row).offstage =
      session.offstage := by
  unfold Session.moveTo
  split
  rfl

theorem offstage_setScrollRegion
    (top bottom : Nat) :
    (session.setScrollRegion top bottom).offstage =
      session.offstage :=
  offstage_moveTo (session.confinedTo top bottom) _ _

theorem offstage_saveCursor :
    session.saveCursor.offstage = session.offstage := by
  rcases session with ⟨_, _, _, screen⟩
  cases screen with
  | primary => rfl
  | alternate => rfl

theorem offstage_restoreCursor :
    session.restoreCursor.offstage = session.offstage :=
  offstage_moveTo _ _ _

theorem offstage_reverseIndex :
    session.reverseIndex.offstage = session.offstage := by
  unfold Session.reverseIndex
  dsimp only
  split
  · exact offstage_scrollLines session _ 1 .down
  · rfl

theorem offstage_scrollFromCursor
    (n : Nat)
    (direction : ScrollDirection) :
    (session.scrollFromCursor n direction).offstage =
      session.offstage := by
  unfold Session.scrollFromCursor
  dsimp only
  split
  · exact offstage_scrollLines session _ n direction
  · rfl

theorem offstage_eraseDisplay
    {param : Nat}
    (hParam : param ≠ 3) :
    (session.eraseDisplay param).offstage =
      session.offstage := by
  unfold Session.eraseDisplay
  dsimp only
  split
  · split
    · exact
        (offstage_clearRegion _ _ _ _ _).trans
          (offstage_clearRegion session _ _ _ _)
    · exact offstage_clearRegion session _ _ _ _
  · split
    · exact
        (offstage_clearRegion _ _ _ _ _).trans
          (offstage_clearRegion session _ _ _ _)
    · exact offstage_clearRegion session _ _ _ _
  · exact offstage_clearRegion session _ _ _ _
  · exact absurd rfl hParam
  · rfl

theorem offstage_eraseLine
    (param : Nat) :
    (session.eraseLine param).offstage =
      session.offstage := by
  unfold Session.eraseLine
  dsimp only
  split
  · exact offstage_clearRegion session _ _ _ _
  · exact offstage_clearRegion session _ _ _ _
  · exact offstage_clearRegion session _ _ _ _
  · rfl

theorem offstage_clearTabStops
    (param : Nat) :
    (session.clearTabStops param).offstage =
      session.offstage := by
  unfold Session.clearTabStops
  split <;> rfl

theorem offstage_setCursorStyle
    (param : Nat) :
    (session.setCursorStyle param).offstage =
      session.offstage := by
  unfold Session.setCursorStyle
  split <;> rfl

theorem offstage_reportStatus
    (param : Nat) :
    (session.reportStatus param).offstage =
      session.offstage := by
  unfold Session.reportStatus
  split <;> rfl

theorem offstage_paste
    (text : String) :
    (session.paste text).offstage = session.offstage :=
  @offstage_modifyActive session Grid.resetView
    (setViewOffset_eq session.active 0).2.2

theorem offstage_reportFocus
    (focused : Bool) :
    (session.reportFocus focused).offstage =
      session.offstage := by
  unfold Session.reportFocus
  split <;> rfl

theorem offstage_reportMouse
    (event : MouseEvent) :
    (session.reportMouse event).1.offstage =
      session.offstage := by
  unfold Session.reportMouse
  dsimp only
  split <;> rfl

theorem offstage_alignmentTest :
    session.alignmentTest.offstage = session.offstage :=
  (offstage_moveTo session.aligned 0 0).trans
    (@offstage_modifyActive session
      (·.fillWith 'E' session.config.blank) rfl)

end

theorem offstage_reportIfZero
    {session : Session}
    (param : Nat)
    {report : Session → Session}
    (hReport :
      (report session).offstage = session.offstage) :
    (session.reportIfZero param report).offstage =
      session.offstage := by
  unfold Session.reportIfZero
  split
  · exact hReport
  · rfl

------------------------------------------------------------
-- Edits of the Screen in Use
------------------------------------------------------------

section

variable {config : Config} {cols rows : Nat}
  {session : Session}
  (hSession : session.WellFormed config cols rows)

include hSession

theorem WellFormed.offstage_insertChars
    (n : Nat) :
    (session.insertChars n).offstage = session.offstage :=
  @offstage_modifyActive (session.dropSelectionIn _ _ _ _) _
    (hSession.edits_insertChars n).scrollback_eq

theorem WellFormed.offstage_deleteChars
    (n : Nat) :
    (session.deleteChars n).offstage = session.offstage :=
  @offstage_modifyActive (session.dropSelectionIn _ _ _ _) _
    (hSession.edits_deleteChars n).scrollback_eq

theorem WellFormed.offstage_showSubstitute :
    session.showSubstitute.offstage = session.offstage :=
  offstage_modifyActive
    hSession.edits_showSubstitute.scrollback_eq

theorem WellFormed.offstage_markWrapped :
    session.markWrapped.offstage = session.offstage :=
  offstage_modifyActive
    hSession.edits_softWrapped.scrollback_eq

theorem WellFormed.offstage_putAtCursor
    {width : Nat}
    (hSome : 0 < width)
    (hRoom : session.cursor.col + width ≤ cols)
    (c : Char) :
    (session.putAtCursor width c).offstage =
      session.offstage :=
  @offstage_modifyActive (session.dropSelectionIn _ _ _ _) _
    (hSession.edits_putAtCursor hSome hRoom c).scrollback_eq

end

end Session

------------------------------------------------------------
-- What Events Reach
------------------------------------------------------------

namespace Event

/- The control characters that move to the next line. -/
def lineControls : List Char :=
  ['\n', '\x0B', '\x0C', '\u0084', '\u0085']

/- The history is cleared. -/
def ClearsHistory :
    Event → Prop
  | .sequence action params =>
    action = .eraseDisplay ∧ params.getD 0 0 = 3
  | _ => False

instance
    (event : Event) :
    Decidable event.ClearsHistory :=
  match event with
  | .sequence _ _ => inferInstanceAs (Decidable (_ ∧ _))
  | .print _ | .execute _ | .escape _ _ | .string _ _ =>
    inferInstanceAs (Decidable False)

section

variable [TextLibrary]

theorem handle_of_clearsHistory
    {event : Event}
    (hClears : event.ClearsHistory)
    (session : Session) :
    session.handle event = session.clearScrollback := by
  cases event with
  | sequence action params =>
      rcases hClears with ⟨rfl, hParam⟩
      show session.eraseDisplay (params.getD 0 0) = _
      rw [hParam]
      rfl
  | _ => exact hClears.elim

/- Nothing behind the screen in use is reached. -/
def IsLocal :
    Event → Prop
  | .print _ => False
  | .execute c => c ∉ lineControls
  | .escape intermediate final =>
    intermediate = none → final ∉ ['D', 'E', 'c']
  | .sequence action params =>
    match action with
    | .eraseDisplay => params.getD 0 0 ≠ 3
    | .repeatChar => False
    | .setMode | .resetMode => False
    | .setPrivateMode | .resetPrivateMode => False
    | _ => True
  | .string _ _ => False

/- What handling an event can reach, and through what. -/
inductive Reach
    (event : Event) : Prop where
  | nothing (hLocal : event.IsLocal)
  | write (c : Char)
      (hHandle :
        ∀ session : Session,
          session.handle event = session.writeChar c)
  | repeatLast (n : Nat)
      (hHandle :
        ∀ session : Session,
          session.handle event = session.repeatLast n)
  | newLine (toFirstColumn : Modes → Bool)
      (hHandle :
        ∀ session : Session,
          session.handle event =
            session.newLine (toFirstColumn session.modes))
  | clear (hClears : event.ClearsHistory)
      (hHandle :
        ∀ session : Session,
          session.handle event = session.clearScrollback)
  | reset
      (hHandle :
        ∀ session : Session,
          session.handle event = session.reset)
  | modes (isPrivate on : Bool) (params : Parameters)
      (hHandle :
        ∀ session : Session,
          session.handle event =
            session.setModes isPrivate on params)
  | string (kind : StringKind) (payload : String)
      (hHandle :
        ∀ session : Session,
          session.handle event =
            session.performString kind payload)

theorem reach_execute
    (c : Char) :
    Reach (.execute c) := by
  by_cases hLine : c ∈ lineControls
  · unfold lineControls at hLine
    simp only [List.mem_cons, List.not_mem_nil,
      or_false] at hLine
    rcases hLine with rfl | rfl | rfl | rfl | rfl
    · exact .newLine (·.newLine) fun _ => rfl
    · exact .newLine (·.newLine) fun _ => rfl
    · exact .newLine (·.newLine) fun _ => rfl
    · exact .newLine (fun _ => false) fun _ => rfl
    · exact .newLine (fun _ => true) fun _ => rfl
  · exact .nothing hLine

theorem reach_escape
    (intermediate : Option Char)
    (final : Char) :
    Reach (.escape intermediate final) := by
  by_cases hPlain :
      intermediate = none ∧ final ∈ ['D', 'E', 'c']
  · rcases hPlain with ⟨rfl, hFinal⟩
    simp only [List.mem_cons, List.not_mem_nil,
      or_false] at hFinal
    rcases hFinal with rfl | rfl | rfl
    · exact .newLine (fun _ => false) fun _ => rfl
    · exact .newLine (fun _ => true) fun _ => rfl
    · exact .reset fun _ => rfl
  · exact
      .nothing fun hNone hFinal => hPlain ⟨hNone, hFinal⟩

theorem reach_sequence
    (action : Action)
    (params : Parameters) :
    Reach (.sequence action params) := by
  cases action with
  | eraseDisplay =>
      by_cases hParam : params.getD 0 0 = 3
      · exact
          .clear ⟨rfl, hParam⟩
            (handle_of_clearsHistory ⟨rfl, hParam⟩)
      · exact .nothing hParam
  | repeatChar =>
      exact .repeatLast (params.count 0) fun _ => rfl
  | setMode => exact .modes false true params fun _ => rfl
  | resetMode => exact .modes false false params fun _ => rfl
  | setPrivateMode =>
      exact .modes true true params fun _ => rfl
  | resetPrivateMode =>
      exact .modes true false params fun _ => rfl
  | _ => exact .nothing trivial

/- Each event reaches nothing, or something in one way. -/
theorem reach
    (event : Event) :
    event.Reach := by
  cases event with
  | print c => exact .write c fun _ => rfl
  | execute c => exact reach_execute c
  | escape intermediate final =>
      exact reach_escape intermediate final
  | sequence action params =>
      exact reach_sequence action params
  | string kind payload =>
      exact .string kind payload fun _ => rfl

end

end Event

namespace Session

section

variable {config : Config} {cols rows : Nat}
  {session : Session}
  (hSession : session.WellFormed config cols rows)

include hSession

theorem WellFormed.offstage_execute
    {c : Char}
    (hLocal : Event.IsLocal (.execute c)) :
    (session.execute c).offstage = session.offstage := by
  have hOther : c ∉ Event.lineControls := hLocal
  unfold Session.execute
  split
  · rfl
  · rfl
  · rfl
  · exact absurd (by decide) hOther
  · exact absurd (by decide) hOther
  · exact absurd (by decide) hOther
  · rfl
  · rfl
  · rfl
  · exact hSession.offstage_showSubstitute
  · exact absurd (by decide) hOther
  · exact absurd (by decide) hOther
  · rfl
  · exact offstage_reverseIndex session
  · rfl
  · rfl

omit hSession in
theorem offstage_performEscape
    {intermediate : Option Char}
    {final : Char}
    (hLocal : Event.IsLocal (.escape intermediate final)) :
    (session.performEscape intermediate final).offstage =
      session.offstage := by
  have hOther :
      intermediate = none → final ∉ ['D', 'E', 'c'] :=
    hLocal
  unfold Session.performEscape
  split
  · have hFinal := hOther rfl
    unfold performPlainEscape
    split
    · exact offstage_saveCursor session
    · exact offstage_restoreCursor session
    · exact absurd (by decide) hFinal
    · exact absurd (by decide) hFinal
    · rfl
    · exact offstage_reverseIndex session
    · rfl
    · exact absurd (by decide) hFinal
    · rfl
    · rfl
    · rfl
    · rfl
    · rfl
  · split
    · exact offstage_alignmentTest session
    · rfl
  · split
    · rfl
    · unfold designate
      split <;> rfl

theorem WellFormed.offstage_perform
    [TextLibrary]
    {action : Action}
    {params : Parameters}
    (hLocal : Event.IsLocal (.sequence action params)) :
    (session.perform action params).offstage =
      session.offstage := by
  unfold Session.perform
  dsimp only
  cases action with
  | insertChars => exact hSession.offstage_insertChars _
  | cursorUp => rfl
  | cursorDown => rfl
  | cursorForward => rfl
  | cursorBack => rfl
  | cursorNextLine => rfl
  | cursorPrevLine => rfl
  | cursorColumn => rfl
  | cursorPosition => exact offstage_moveTo session _ _
  | tabForward => rfl
  | eraseDisplay => exact offstage_eraseDisplay session hLocal
  | eraseLine => exact offstage_eraseLine session _
  | insertLines => exact offstage_scrollFromCursor session _ _
  | deleteLines => exact offstage_scrollFromCursor session _ _
  | deleteChars => exact hSession.offstage_deleteChars _
  | scrollUp => exact offstage_scrollLines session _ _ _
  | scrollDown => exact offstage_scrollLines session _ _ _
  | eraseChars => exact offstage_clearRegion session _ _ _ _
  | tabBackward => rfl
  | repeatChar => cases hLocal
  | deviceAttributes => exact offstage_reportIfZero _ rfl
  | secondaryDeviceAttributes =>
      exact offstage_reportIfZero _ rfl
  | linePosition => exact offstage_moveTo session _ _
  | tabClear => exact offstage_clearTabStops session _
  | setMode => cases hLocal
  | resetMode => cases hLocal
  | setPrivateMode => cases hLocal
  | resetPrivateMode => cases hLocal
  | selectRendition => rfl
  | deviceStatus => exact offstage_reportStatus session _
  | setScrollRegion =>
      exact offstage_setScrollRegion session _ _
  | saveCursor => exact offstage_saveCursor session
  | restoreCursor => exact offstage_restoreCursor session
  | setCursorStyle => exact offstage_setCursorStyle session _

theorem WellFormed.offstage_handle
    [TextLibrary]
    {event : Event}
    (hLocal : event.IsLocal) :
    (session.handle event).offstage = session.offstage := by
  cases event with
  | print c => cases hLocal
  | execute c => exact hSession.offstage_execute hLocal
  | escape intermediate final =>
      exact offstage_performEscape hLocal
  | sequence action params =>
      exact hSession.offstage_perform hLocal
  | string kind payload => cases hLocal

end

------------------------------------------------------------
-- Writing Aside the Primary Screen
------------------------------------------------------------

theorem unwritten_aside :
    Unwritten aside where
  screen := aside_modifyActive
  selected := fun _ _ => rfl
  placed := fun _ _ _ _ => rfl
  printed := fun _ _ => rfl

section

variable [TextLibrary]
variable (session : Session)

theorem aside_repeatLast
    (n : Nat) :
    (session.repeatLast n).aside = session.aside := by
  have hTimes (c : Char) :
      ∀ n (session : Session),
        (session.writeCharTimes c n).aside =
          session.aside := by
    intro n
    induction n with
    | zero => exact fun _ => rfl
    | succ n hRest =>
        exact fun session =>
          (hRest _).trans
            (unwritten_aside.writeChar session c)
  unfold Session.repeatLast
  split
  · rfl
  · exact hTimes _ n session

theorem aside_performString
    (kind : StringKind)
    (payload : String) :
    (session.performString kind payload).aside =
      session.aside := by
  rcases performString_eq session kind payload with
    ⟨title, iconName, notices, hPerformed⟩
  rw [hPerformed]
  rfl

end

------------------------------------------------------------
-- Modes
------------------------------------------------------------

/-
  What setting or resetting modes can do behind the screen in
  use.  The primary screen is put aside by setting one only,
  and taken back by resetting one only.
-/
structure Toggles
    (on : Bool)
    (session after : Session) : Prop where
  records_eq : after.records = session.records
  aside :
    after.aside = session.aside ∨
      if on then session.aside = none else after.aside = none

theorem toggles_of_offstage_eq
    {session after : Session}
    (on : Bool)
    (hOffstage : after.offstage = session.offstage) :
    session.Toggles on after where
  records_eq := congrArg Prod.snd hOffstage
  aside := Or.inl (congrArg Prod.fst hOffstage)

theorem Toggles.trans
    {on : Bool}
    {session between after : Session}
    (hFirst : session.Toggles on between)
    (hSecond : between.Toggles on after) :
    session.Toggles on after where
  records_eq := hSecond.records_eq.trans hFirst.records_eq
  aside := by
    have hBefore := hFirst.aside
    have hAfter := hSecond.aside
    cases on with
    | true =>
        rcases hBefore with hSame | hNone
        · rw [hSame] at hAfter
          exact hAfter
        · exact Or.inr hNone
    | false =>
        rcases hAfter with hSame | hNone
        · rw [hSame]
          exact hBefore
        · exact Or.inr hNone

section

variable (session : Session)

theorem toggles_useAlternate :
    session.Toggles true session.useAlternate := by
  have hHistory := (setViewOffset_eq session.primary 0).2.2
  unfold Session.useAlternate
  split
  · exact toggles_of_offstage_eq true rfl
  · rename_i hScreen
    refine ⟨?_, Or.inr ?_⟩
    · exact
        congrArg (fun history => (history, _, _)) hHistory
    · unfold aside
      rw [hScreen]
      rfl

theorem toggles_usePrimary :
    session.Toggles false session.usePrimary := by
  unfold Session.usePrimary
  split
  · exact toggles_of_offstage_eq false rfl
  · exact ⟨rfl, Or.inr rfl⟩

theorem toggles_setAlternate
    (on : Bool) :
    session.Toggles on (session.setAlternate on) := by
  unfold Session.setAlternate
  cases on with
  | true => exact toggles_useAlternate session
  | false => exact toggles_usePrimary session

theorem toggles_setAlternateWithCursor
    (on : Bool) :
    session.Toggles on
      (session.setAlternateWithCursor on) := by
  unfold Session.setAlternateWithCursor
  split
  · exact
      (toggles_of_offstage_eq true
        (offstage_saveCursor session)).trans
          (toggles_useAlternate _)
  · exact
      (toggles_usePrimary session).trans
        (toggles_of_offstage_eq false
          (offstage_restoreCursor _))
  · exact toggles_of_offstage_eq _ rfl

theorem toggles_setPrivateMode?
    {changed : Session}
    {mode : Nat}
    {on : Bool}
    (hChanged :
      session.setPrivateMode? mode on = some changed) :
    session.Toggles on changed := by
  unfold Session.setPrivateMode? at hChanged
  split at hChanged
  all_goals cases hChanged
  · exact toggles_of_offstage_eq on rfl
  · apply toggles_of_offstage_eq on
    unfold setReverseVideo
    split
    · rfl
    · exact offstage_modifyActive rfl
  · exact toggles_of_offstage_eq on (offstage_moveTo _ _ _)
  · exact toggles_of_offstage_eq on rfl
  · exact toggles_of_offstage_eq on rfl
  · exact toggles_of_offstage_eq on rfl
  · exact toggles_setAlternate session on
  · exact toggles_setAlternate session on
  · exact toggles_of_offstage_eq on rfl
  · exact toggles_of_offstage_eq on rfl
  · exact toggles_of_offstage_eq on rfl
  · exact toggles_of_offstage_eq on rfl
  · exact toggles_of_offstage_eq on rfl
  · apply toggles_of_offstage_eq
    split
    · exact offstage_saveCursor session
    · exact offstage_restoreCursor session
  · exact toggles_setAlternateWithCursor session on
  · exact toggles_of_offstage_eq on rfl

theorem toggles_setMode
    (isPrivate on : Bool)
    (mode : Nat) :
    session.Toggles on (session.setMode isPrivate on mode) := by
  unfold Session.setMode
  dsimp only
  split
  · exact toggles_of_offstage_eq on rfl
  · rename_i changed hChanged
    have hToggles : session.Toggles on changed := by
      split at hChanged
      · exact toggles_setPrivateMode? session hChanged
      · unfold Session.setAnsiMode? at hChanged
        split at hChanged
        · cases hChanged
          exact toggles_of_offstage_eq on rfl
        · cases hChanged
          exact toggles_of_offstage_eq on rfl
        · cases hChanged
    exact hToggles.trans (toggles_of_offstage_eq on rfl)

theorem toggles_setModes
    (isPrivate on : Bool)
    (params : Parameters) :
    session.Toggles on
      (session.setModes isPrivate on params) := by
  unfold Session.setModes
  induction params.items.filterMap Parameter.value
    generalizing session with
  | nil => exact toggles_of_offstage_eq on rfl
  | cons mode modes hRest =>
      exact
        (toggles_setMode session isPrivate on mode).trans
          (hRest _)

theorem records_reset :
    session.reset.records = session.records :=
  congrArg (fun history => (history, _, _))
    (setViewOffset_eq
      (session.primary.clear session.config.blank) 0).2.2

end

------------------------------------------------------------
-- The Primary Screen Aside
------------------------------------------------------------

/-
  Once it has been put aside, the primary screen is either
  left as it is or taken back, unless the history is cleared.
-/
theorem WellFormed.aside_handle
    [TextLibrary]
    {config : Config}
    {cols rows : Nat}
    {session : Session}
    (hSession : session.WellFormed config cols rows)
    (hAside : session.aside ≠ none)
    {event : Event}
    (hKeeps : ¬event.ClearsHistory) :
    (session.handle event).aside = session.aside ∨
      (session.handle event).aside = none := by
  cases event.reach with
  | nothing hLocal =>
      exact
        Or.inl
          (congrArg Prod.fst (hSession.offstage_handle hLocal))
  | write c hHandle =>
      rw [hHandle]
      exact Or.inl (unwritten_aside.writeChar session c)
  | repeatLast n hHandle =>
      rw [hHandle]
      exact Or.inl (aside_repeatLast session n)
  | newLine toFirstColumn hHandle =>
      rw [hHandle]
      exact Or.inl (unwritten_aside.newLine session _)
  | clear hClears _ => exact absurd hClears hKeeps
  | reset hHandle =>
      rw [hHandle]
      exact Or.inr rfl
  | modes isPrivate on params hHandle =>
      rw [hHandle]
      have hToggles :=
        (toggles_setModes session isPrivate on params).aside
      cases on with
      | true =>
          exact
            hToggles.imp_right fun hNone =>
              absurd hNone hAside
      | false => exact hToggles
  | string kind payload hHandle =>
      rw [hHandle]
      exact Or.inl (aside_performString session kind payload)

end Session

end VideoTerminal
