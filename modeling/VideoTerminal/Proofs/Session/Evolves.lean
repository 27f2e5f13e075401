import VideoTerminal.Proofs.Grid.Legible
import VideoTerminal.Proofs.Selection.Remains
import VideoTerminal.Proofs.Session.Follow
import VideoTerminal.Proofs.Session.Offstage

/-
  What events do to the screens and to the selection, put
  together from a few steps: drawing what can be shown on the
  screen in use, scrolling it, and some steps that only few
  events and calls take.  Whatever each of these steps keeps,
  every event keeps.

  Main declarations:
    * `RareStep`
    * `Event.May`
    * `Session.Evolves`
    * `Session.WellFormed.evolves_writeChar`
    * `Session.WellFormed.evolves_setModes`
    * `Session.WellFormed.evolves_handle`
-/

namespace VideoTerminal

------------------------------------------------------------
-- Rare Steps
------------------------------------------------------------

/- The steps that only few events and calls take. -/
inductive RareStep where
  /- The alternate screen is put to use, or put away. -/
  | switch (on : Bool)
  /- Lines come back from the history. -/
  | restore
  /- The history is cleared. -/
  | forget
  /- The terminal is reset. -/
  | reset
  /- The view is moved. -/
  | look
  /- The rows are marked as unchanged. -/
  | clean

namespace Event

/- The alternate screen is put away by these events alone. -/
def switchesOn :
    Event → Bool
  | .sequence .resetMode _ => false
  | .sequence .resetPrivateMode _ => false
  | _ => true

/- The rare steps that an event may take. -/
def May
    (event : Event) :
    RareStep → Prop
  | .switch on => event.switchesOn = on
  | .forget => event.ClearsHistory
  | .reset => event = .escape none 'c'
  | .restore => False
  | .look => False
  | .clean => False

end Event

namespace Session

------------------------------------------------------------
-- Steps
------------------------------------------------------------

/- The two screens and which of them is in use. -/
def screens
    (session : Session) : Screen × Grid × Grid :=
  (session.screen, session.primary, session.alternate)

/-
  One session comes from another by steps that leave the user
  out, among them the rare ones that are allowed.  A selection
  is dropped or stays as it is, except where it follows lines
  that scroll.
-/
inductive Evolves
    [TextLibrary]
    (config : Config)
    (cols rows : Nat)
    (may : RareStep → Prop) :
    Session → Session → Prop where
  | same
      {session after : Session}
      (hSame : after.screens = session.screens)
      (hSelected :
        ∀ selection ∈ after.selection,
          selection ∈ session.selection) :
      Evolves config cols rows may session after
  | ink
      {session : Session}
      (hSession : session.WellFormed config cols rows)
      {change : Grid → Grid}
      (hInks : session.active.Inks (change session.active)) :
      Evolves config cols rows may session
        (session.modifyActive change)
  | scroll
      {session : Session}
      (hSession : session.WellFormed config cols rows)
      (origin count : Nat)
      (direction : ScrollDirection)
      (retain : Bool)
      (hMay : direction = .down → retain → may .restore) :
      Evolves config cols rows may session
        (session.scrollLines origin count direction retain)
  | enter
      {session : Session}
      (hSession : session.WellFormed config cols rows)
      (hMay : may (.switch true))
      (hScreen : session.screen = .primary) :
      Evolves config cols rows may session
        session.useAlternate
  | leave
      {session : Session}
      (hSession : session.WellFormed config cols rows)
      (hMay : may (.switch false))
      (hScreen : session.screen = .alternate) :
      Evolves config cols rows may session session.usePrimary
  | forget
      {session : Session}
      (hSession : session.WellFormed config cols rows)
      (hMay : may .forget) :
      Evolves config cols rows may session
        session.clearScrollback
  | reset
      {session : Session}
      (hSession : session.WellFormed config cols rows)
      (hMay : may .reset) :
      Evolves config cols rows may session session.reset
  | look
      {session : Session}
      (hSession : session.WellFormed config cols rows)
      (hMay : may .look)
      (offset : Grid → Nat) :
      Evolves config cols rows may session
        (session.modifyActive fun grid =>
          grid.setViewOffset (offset grid))
  | clean
      {session : Session}
      (hMay : may .clean) :
      Evolves config cols rows may session session.markClean
  | trans
      {session between after : Session}
      (hFirst : Evolves config cols rows may session between)
      (hSecond : Evolves config cols rows may between after) :
      Evolves config cols rows may session after

section

variable {config : Config} {cols rows : Nat}
  {may : RareStep → Prop}
  {session between after : Session}

theorem Evolves.refl
    [TextLibrary]
    (session : Session) :
    session.Evolves config cols rows may session :=
  .same rfl fun _ => id

theorem screens_of_scene_eq
    (hScene : after.scene = session.scene) :
    after.screens = session.screens :=
  congrArg
    (fun scene => (scene.1, scene.2.1, scene.2.2.1)) hScene

section

variable [TextLibrary]

/- The screens and the selection stay. -/
theorem evolves_of_scene_eq
    (hScene : after.scene = session.scene) :
    session.Evolves config cols rows may after := by
  refine .same (screens_of_scene_eq hScene) ?_
  have hSelection : after.selection = session.selection :=
    congrArg (·.2.2.2) hScene
  rw [hSelection]
  exact fun _ => id

/- A step after which what shows nothing is changed. -/
theorem Evolves.then_scene
    (hEvolves : session.Evolves config cols rows may between)
    (hScene : after.scene = between.scene) :
    session.Evolves config cols rows may after :=
  .trans hEvolves (evolves_of_scene_eq hScene)

/- Nothing is selected any more. -/
theorem evolves_drop
    (hSame : after.screens = session.screens)
    (hNone : after.selection = none) :
    session.Evolves config cols rows may after := by
  refine .same hSame ?_
  rw [hNone]
  nofun

end

end

------------------------------------------------------------
-- Blanks
------------------------------------------------------------

section

variable [TextLibrary]

theorem legible_sessionBlank
    (session : Session) :
    session.blank.Legible :=
  Cell.legible_of_space rfl

theorem legible_configBlank
    (config : Config) :
    config.blank.Legible :=
  Cell.legible_of_space rfl

------------------------------------------------------------
-- Writing
------------------------------------------------------------

theorem inks_putChar
    (grid : Grid)
    (pen : Pen)
    (col row width : Nat)
    {c : Char}
    (hChar : TextLibrary.displayWidth c ≠ none) :
    grid.Inks (putChar grid pen col row width c) := by
  have hBroken := Grid.inks_breakWideAt grid col row
  unfold putChar
  dsimp only
  split
  · exact
      ((hBroken.trans
        (Grid.inks_breakWideAt _ (col + 1) row)).trans
          (Grid.inks_set _ (Cell.legible_of_char c rfl hChar)
            col row)).trans
              (Grid.inks_set _ (Cell.legible_of_space rfl)
                (col + 1) row)
  · exact
      hBroken.trans
        (Grid.inks_set _ (Cell.legible_of_char c rfl hChar) col
          row)

section

variable {config : Config} {cols rows : Nat}
  {may : RareStep → Prop}
  {session : Session}
  (hSession : session.WellFormed config cols rows)

include hSession

theorem WellFormed.evolves_scrollUp
    (origin count : Nat)
    (retain : Bool) :
    session.Evolves config cols rows may
      (session.scrollLines origin count .up retain) :=
  .scroll hSession origin count .up retain nofun

theorem WellFormed.evolves_scrollWithin
    (origin count : Nat)
    (direction : ScrollDirection) :
    session.Evolves config cols rows may
      (session.scrollLines origin count direction false) :=
  .scroll hSession origin count direction false nofun

/- Drawing where a selection has been dropped before. -/
theorem WellFormed.evolves_dropped
    (x₁ y₁ x₂ y₂ : Nat)
    {change : Grid → Grid}
    (hInks : session.active.Inks (change session.active)) :
    session.Evolves config cols rows may
      ((session.dropSelectionIn x₁ y₁ x₂ y₂).modifyActive
        change) := by
  have hDropped :
      session.Evolves config cols rows may
        (session.dropSelectionIn x₁ y₁ x₂ y₂) :=
    .same rfl fun _ => selection_of_dropSelectionIn
  exact
    .trans hDropped
      (.ink (hSession.dropSelectionIn x₁ y₁ x₂ y₂) hInks)

theorem WellFormed.evolves_newLine
    (toFirstColumn : Bool) :
    session.Evolves config cols rows may
      (session.newLine toFirstColumn) := by
  unfold Session.newLine
  dsimp only
  split
  · exact (hSession.evolves_scrollUp _ 1 true).then_scene rfl
  · split
    · exact evolves_of_scene_eq rfl
    · exact evolves_of_scene_eq rfl

theorem WellFormed.evolves_reverseIndex :
    session.Evolves config cols rows may
      session.reverseIndex := by
  unfold Session.reverseIndex
  dsimp only
  split
  · exact
      (hSession.evolves_scrollWithin _ 1 .down).then_scene rfl
  · exact evolves_of_scene_eq rfl

theorem WellFormed.evolves_softWrap :
    session.Evolves config cols rows may session.softWrap := by
  have hMarked :
      session.Evolves config cols rows may
        session.markWrapped :=
    .ink hSession (Grid.inks_modifyCell _ _ _ fun _ => id)
  exact
    hMarked.trans (hSession.markWrapped.evolves_newLine true)

theorem WellFormed.evolves_wrapIfPending :
    session.Evolves config cols rows may
      session.wrapIfPending := by
  unfold Session.wrapIfPending
  split
  · exact hSession.evolves_softWrap
  · exact .refl session

theorem WellFormed.evolves_fit
    (wraps : Bool)
    (width : Nat) :
    session.Evolves config cols rows may
      (session.fit wraps width) := by
  unfold Session.fit
  split
  · split
    · exact hSession.evolves_softWrap
    · exact evolves_of_scene_eq rfl
  · exact .refl session

theorem WellFormed.evolves_makeRoom
    (width : Nat) :
    session.Evolves config cols rows may
      (session.makeRoom width) := by
  rw [makeRoom_eq]
  exact
    hSession.evolves_wrapIfPending.trans
      (hSession.wrapIfPending.evolves_fit _ width)

theorem WellFormed.evolves_putAtCursor
    (width : Nat)
    {c : Char}
    (hChar : TextLibrary.displayWidth c ≠ none) :
    session.Evolves config cols rows may
      (session.putAtCursor width c) := by
  unfold Session.putAtCursor
  dsimp only
  apply hSession.evolves_dropped
  split
  · exact
      (Grid.inks_insertBlanks _
        (legible_sessionBlank session) _ _ _).trans
          (inks_putChar _ _ _ _ _ hChar)
  · exact inks_putChar _ _ _ _ _ hChar

theorem WellFormed.evolves_writeChar
    (c : Char) :
    session.Evolves config cols rows may
      (session.writeChar c) := by
  unfold Session.writeChar
  dsimp only
  split
  · exact .refl session
  · exact .refl session
  · rename_i width hZero hWidth
    split
    · exact .refl session
    · have hShown :
          TextLibrary.displayWidth
              (session.charsets.substitute c) ≠ none := by
        rw [hWidth]
        nofun
      have hRoom :=
        hSession.makeRoom (Nat.pos_of_ne_zero hZero)
      exact
        ((hSession.evolves_makeRoom width).trans
          (hRoom.evolves_putAtCursor width
            hShown)).then_scene rfl

theorem WellFormed.evolves_writeCharTimes
    (c : Char)
    (n : Nat) :
    session.Evolves config cols rows may
      (session.writeCharTimes c n) := by
  induction n generalizing session with
  | zero => exact .refl session
  | succ n hRest =>
      exact
        (hSession.evolves_writeChar c).trans
          (hRest (hSession.writeChar c))

theorem WellFormed.evolves_repeatLast
    (n : Nat) :
    session.Evolves config cols rows may
      (session.repeatLast n) := by
  unfold Session.repeatLast
  split
  · exact .refl session
  · exact hSession.evolves_writeCharTimes _ n

------------------------------------------------------------
-- Control Characters
------------------------------------------------------------

theorem WellFormed.evolves_showSubstitute :
    session.Evolves config cols rows may
      session.showSubstitute := by
  unfold Session.showSubstitute
  apply Evolves.ink hSession
  exact
    (Grid.inks_breakWideAt _ _ _).trans
      (Grid.inks_set _
        (Cell.legible_of_ascii '?' rfl (by decide)
          (by decide)) _ _)

theorem WellFormed.evolves_execute
    (c : Char) :
    session.Evolves config cols rows may
      (session.execute c) := by
  unfold Session.execute
  split
  · exact evolves_of_scene_eq rfl
  · exact evolves_of_scene_eq rfl
  · exact evolves_of_scene_eq rfl
  · exact hSession.evolves_newLine _
  · exact hSession.evolves_newLine _
  · exact hSession.evolves_newLine _
  · exact evolves_of_scene_eq rfl
  · exact evolves_of_scene_eq rfl
  · exact evolves_of_scene_eq rfl
  · exact hSession.evolves_showSubstitute
  · exact hSession.evolves_newLine false
  · exact hSession.evolves_newLine true
  · exact evolves_of_scene_eq rfl
  · exact hSession.evolves_reverseIndex
  · exact evolves_of_scene_eq rfl
  · exact .refl session

------------------------------------------------------------
-- Erasing and Editing
------------------------------------------------------------

theorem WellFormed.evolves_scrollFromCursor
    (n : Nat)
    (direction : ScrollDirection) :
    session.Evolves config cols rows may
      (session.scrollFromCursor n direction) := by
  unfold Session.scrollFromCursor
  dsimp only
  split
  · exact hSession.evolves_scrollWithin _ n direction
  · exact .refl session

theorem WellFormed.evolves_clearRegion
    (x₁ y₁ x₂ y₂ : Nat) :
    session.Evolves config cols rows may
      (session.clearRegion x₁ y₁ x₂ y₂) := by
  unfold Session.clearRegion
  apply hSession.evolves_dropped
  exact
    Grid.inks_eraseRect _ (legible_sessionBlank session) _ _ _
      _

theorem WellFormed.evolves_eraseDisplay
    {param : Nat}
    (hMay : param = 3 → may .forget) :
    session.Evolves config cols rows may
      (session.eraseDisplay param) := by
  unfold Session.eraseDisplay
  dsimp only
  split
  · have hErased :
        session.Evolves config cols rows may
          (session.clearRegion session.cursor.col
            session.cursor.row (session.cols - 1)
            session.cursor.row) :=
      hSession.evolves_clearRegion _ _ _ _
    split
    · exact
        hErased.trans
          ((hSession.clearRegion _ _ _ _).evolves_clearRegion
            _ _ _ _)
    · exact hErased
  · split
    · exact
        (hSession.evolves_clearRegion _ _ _ _).trans
          ((hSession.clearRegion _ _ _ _).evolves_clearRegion
            _ _ _ _)
    · exact hSession.evolves_clearRegion _ _ _ _
  · exact hSession.evolves_clearRegion _ _ _ _
  · exact .forget hSession (hMay rfl)
  · exact .refl session

theorem WellFormed.evolves_eraseLine
    (param : Nat) :
    session.Evolves config cols rows may
      (session.eraseLine param) := by
  unfold Session.eraseLine
  dsimp only
  split
  · exact hSession.evolves_clearRegion _ _ _ _
  · exact hSession.evolves_clearRegion _ _ _ _
  · exact hSession.evolves_clearRegion _ _ _ _
  · exact .refl session

theorem WellFormed.evolves_insertChars
    (n : Nat) :
    session.Evolves config cols rows may
      (session.insertChars n) := by
  unfold Session.insertChars Session.editLine
  apply hSession.evolves_dropped
  exact
    Grid.inks_insertBlanks _ (legible_sessionBlank session) _ _
      n

theorem WellFormed.evolves_deleteChars
    (n : Nat) :
    session.Evolves config cols rows may
      (session.deleteChars n) := by
  unfold Session.deleteChars Session.editLine
  apply hSession.evolves_dropped
  exact
    Grid.inks_deleteCells _ (legible_sessionBlank session) _ _
      n

theorem WellFormed.evolves_alignmentTest :
    session.Evolves config cols rows may
      session.alignmentTest := by
  have hFilled :
      session.Evolves config cols rows may
        (session.modifyActive
          (·.fillWith 'E' session.config.blank)) :=
    .ink hSession
      (Grid.inks_clear _
        (Cell.legible_of_ascii 'E' rfl (by decide)
          (by decide)))
  have hAligned :
      session.Evolves config cols rows may session.aligned :=
    hFilled.trans (evolves_drop rfl rfl)
  rw [alignmentTest_eq]
  exact hAligned.then_scene (scene_moveTo _ 0 0)

------------------------------------------------------------
-- Screens and Modes
------------------------------------------------------------

theorem WellFormed.evolves_useAlternate
    (hMay : may (.switch true)) :
    session.Evolves config cols rows may
      session.useAlternate := by
  cases hScreen : session.screen with
  | primary => exact .enter hSession hMay hScreen
  | alternate =>
      unfold Session.useAlternate
      rw [hScreen]
      exact .refl session

theorem WellFormed.evolves_usePrimary
    (hMay : may (.switch false)) :
    session.Evolves config cols rows may
      session.usePrimary := by
  cases hScreen : session.screen with
  | primary =>
      unfold Session.usePrimary
      rw [hScreen]
      exact .refl session
  | alternate => exact .leave hSession hMay hScreen

section

variable {on : Bool} (hMay : may (.switch on))

include hMay

theorem WellFormed.evolves_setAlternate :
    session.Evolves config cols rows may
      (session.setAlternate on) := by
  unfold Session.setAlternate
  cases on with
  | true => exact hSession.evolves_useAlternate hMay
  | false => exact hSession.evolves_usePrimary hMay

theorem WellFormed.evolves_setAlternateWithCursor :
    session.Evolves config cols rows may
      (session.setAlternateWithCursor on) := by
  unfold Session.setAlternateWithCursor
  split
  · exact
      (evolves_of_scene_eq (scene_saveCursor session)).trans
        (hSession.saveCursor.evolves_useAlternate hMay)
  · exact
      (hSession.evolves_usePrimary hMay).then_scene
        (scene_restoreCursor _)
  · exact .refl session

omit hMay in
theorem WellFormed.evolves_setReverseVideo
    (on : Bool) :
    session.Evolves config cols rows may
      (session.setReverseVideo on) := by
  unfold Session.setReverseVideo
  split
  · exact .refl session
  · have hChanged :
        session.Evolves config cols rows may
          (session.modifyModes
            ({ · with reverseVideo := on })) :=
      evolves_of_scene_eq rfl
    have hAfter :=
      hSession.modifyModes ({ · with reverseVideo := on })
    exact
      hChanged.trans (.ink hAfter (Grid.inks_markAllDirty _))

theorem WellFormed.evolves_setPrivateMode?
    {changed : Session}
    {mode : Nat}
    (hChanged :
      session.setPrivateMode? mode on = some changed) :
    session.Evolves config cols rows may changed := by
  unfold Session.setPrivateMode? at hChanged
  split at hChanged
  all_goals cases hChanged
  · exact evolves_of_scene_eq rfl
  · exact hSession.evolves_setReverseVideo on
  · exact evolves_of_scene_eq (scene_moveTo _ _ _)
  · exact evolves_of_scene_eq rfl
  · exact evolves_of_scene_eq rfl
  · exact evolves_of_scene_eq rfl
  · exact hSession.evolves_setAlternate hMay
  · exact hSession.evolves_setAlternate hMay
  · exact evolves_of_scene_eq rfl
  · exact evolves_of_scene_eq rfl
  · exact evolves_of_scene_eq rfl
  · exact evolves_of_scene_eq rfl
  · exact evolves_of_scene_eq rfl
  · split
    · exact evolves_of_scene_eq (scene_saveCursor session)
    · exact evolves_of_scene_eq (scene_restoreCursor session)
  · exact hSession.evolves_setAlternateWithCursor hMay
  · exact evolves_of_scene_eq rfl

theorem WellFormed.evolves_setMode
    (isPrivate : Bool)
    (mode : Nat) :
    session.Evolves config cols rows may
      (session.setMode isPrivate on mode) := by
  unfold Session.setMode
  dsimp only
  split
  · exact .refl session
  · rename_i changed hChanged
    have hEvolves :
        session.Evolves config cols rows may changed := by
      split at hChanged
      · exact hSession.evolves_setPrivateMode? hMay hChanged
      · unfold Session.setAnsiMode? at hChanged
        split at hChanged
        · cases hChanged
          exact evolves_of_scene_eq rfl
        · cases hChanged
          exact evolves_of_scene_eq rfl
        · cases hChanged
    exact hEvolves.then_scene rfl

theorem WellFormed.evolves_setModes
    (isPrivate : Bool)
    (params : Parameters) :
    session.Evolves config cols rows may
      (session.setModes isPrivate on params) := by
  unfold Session.setModes
  induction params.items.filterMap Parameter.value
    generalizing session with
  | nil => exact .refl session
  | cons mode modes hRest =>
      exact
        (hSession.evolves_setMode hMay isPrivate mode).trans
          (hRest (hSession.setMode isPrivate on mode))

end

------------------------------------------------------------
-- Events
------------------------------------------------------------

theorem WellFormed.evolves_perform
    {action : Action}
    {params : Parameters}
    (hMay :
      ∀ step,
        Event.May (.sequence action params) step → may step) :
    session.Evolves config cols rows may
      (session.perform action params) := by
  unfold Session.perform
  dsimp only
  cases action with
  | insertChars => exact hSession.evolves_insertChars _
  | cursorUp => exact evolves_of_scene_eq rfl
  | cursorDown => exact evolves_of_scene_eq rfl
  | cursorForward => exact evolves_of_scene_eq rfl
  | cursorBack => exact evolves_of_scene_eq rfl
  | cursorNextLine => exact evolves_of_scene_eq rfl
  | cursorPrevLine => exact evolves_of_scene_eq rfl
  | cursorColumn => exact evolves_of_scene_eq rfl
  | cursorPosition =>
      exact evolves_of_scene_eq (scene_moveTo _ _ _)
  | tabForward => exact evolves_of_scene_eq rfl
  | eraseDisplay =>
      exact
        hSession.evolves_eraseDisplay fun hParam =>
          hMay .forget ⟨rfl, hParam⟩
  | eraseLine => exact hSession.evolves_eraseLine _
  | insertLines => exact hSession.evolves_scrollFromCursor _ _
  | deleteLines => exact hSession.evolves_scrollFromCursor _ _
  | deleteChars => exact hSession.evolves_deleteChars _
  | scrollUp => exact hSession.evolves_scrollWithin _ _ _
  | scrollDown => exact hSession.evolves_scrollWithin _ _ _
  | eraseChars => exact hSession.evolves_clearRegion _ _ _ _
  | tabBackward => exact evolves_of_scene_eq rfl
  | repeatChar => exact hSession.evolves_repeatLast _
  | deviceAttributes =>
      exact evolves_of_scene_eq (scene_reportIfZero _ rfl)
  | secondaryDeviceAttributes =>
      exact evolves_of_scene_eq (scene_reportIfZero _ rfl)
  | linePosition =>
      exact evolves_of_scene_eq (scene_moveTo _ _ _)
  | tabClear =>
      exact evolves_of_scene_eq (scene_clearTabStops _ _)
  | setMode =>
      exact hSession.evolves_setModes (hMay _ rfl) _ _
  | resetMode =>
      exact hSession.evolves_setModes (hMay _ rfl) _ _
  | setPrivateMode =>
      exact hSession.evolves_setModes (hMay _ rfl) _ _
  | resetPrivateMode =>
      exact hSession.evolves_setModes (hMay _ rfl) _ _
  | selectRendition => exact evolves_of_scene_eq rfl
  | deviceStatus =>
      exact evolves_of_scene_eq (scene_reportStatus _ _)
  | setScrollRegion =>
      exact evolves_of_scene_eq (scene_setScrollRegion _ _ _)
  | saveCursor =>
      exact evolves_of_scene_eq (scene_saveCursor _)
  | restoreCursor =>
      exact evolves_of_scene_eq (scene_restoreCursor _)
  | setCursorStyle =>
      exact evolves_of_scene_eq (scene_setCursorStyle _ _)

theorem WellFormed.evolves_performEscape
    {intermediate : Option Char}
    {final : Char}
    (hMay :
      ∀ step,
        Event.May (.escape intermediate final) step →
          may step) :
    session.Evolves config cols rows may
      (session.performEscape intermediate final) := by
  unfold Session.performEscape
  split
  · unfold performPlainEscape
    split
    · exact evolves_of_scene_eq (scene_saveCursor session)
    · exact evolves_of_scene_eq (scene_restoreCursor session)
    · exact hSession.evolves_newLine false
    · exact hSession.evolves_newLine true
    · exact evolves_of_scene_eq rfl
    · exact hSession.evolves_reverseIndex
    · exact evolves_of_scene_eq rfl
    · exact .reset hSession (hMay .reset rfl)
    · exact evolves_of_scene_eq rfl
    · exact evolves_of_scene_eq rfl
    · exact evolves_of_scene_eq rfl
    · exact evolves_of_scene_eq rfl
    · exact .refl session
  · split
    · exact hSession.evolves_alignmentTest
    · exact .refl session
  · split
    · exact .refl session
    · unfold designate
      split
      · exact .refl session
      · exact evolves_of_scene_eq rfl

/- Every event is made up of these steps. -/
theorem WellFormed.evolves_handle
    {event : Event}
    (hMay : ∀ step, event.May step → may step) :
    session.Evolves config cols rows may
      (session.handle event) := by
  cases event with
  | print c => exact hSession.evolves_writeChar c
  | execute c => exact hSession.evolves_execute c
  | escape intermediate final =>
      exact hSession.evolves_performEscape hMay
  | sequence action params =>
      exact hSession.evolves_perform hMay
  | string kind payload =>
      rcases performString_eq session kind payload with
        ⟨title, iconName, notices, hPerformed⟩
      apply evolves_of_scene_eq
      show (session.performString kind payload).scene = _
      rw [hPerformed]
      rfl

/- The rare ones are those that the event may take. -/
theorem WellFormed.evolves_event
    (event : Event) :
    session.Evolves config cols rows event.May
      (session.handle event) :=
  hSession.evolves_handle fun _ => id

theorem WellFormed.evolves_handleAll
    {events : List Event}
    (hMay :
      ∀ event ∈ events, ∀ step, event.May step → may step) :
    session.Evolves config cols rows may
      (events.foldl Session.handle session) := by
  induction events generalizing session with
  | nil => exact .refl session
  | cons event events hRest =>
      rw [List.forall_mem_cons] at hMay
      exact
        (hSession.evolves_handle hMay.1).trans
          (hRest (hSession.handle event) hMay.2)

end

end

end Session

end VideoTerminal
