import VideoTerminal.Control.Parameters
import VideoTerminal.Terminal.Screens

/-
  This file defines the modes by their numbers: what setting
  and resetting each of them does.

  Key definitions include:
    * `Session.setAnsiMode?`
    * `Session.setPrivateMode?`
    * `Session.setModes`
-/

namespace VideoTerminal

namespace Session

------------------------------------------------------------
-- Single Modes
------------------------------------------------------------

/- Set or reset a standard mode, if it is known. -/
def setAnsiMode?
    (session : Session)
    (mode : Nat)
    (on : Bool) : Option Session :=
  match mode with
  | 4 => some (session.modifyModes ({ · with insert := on }))
  | 20 => some (session.modifyModes ({ · with newLine := on }))
  | _ => none

/- Show the screen in reverse or not. -/
def setReverseVideo
    (session : Session)
    (on : Bool) : Session :=
  if session.modes.reverseVideo = on then
    session
  else
    (session.modifyModes
      ({ · with reverseVideo := on })).modifyActive
        Grid.markAllDirty

/- Start or end origin mode, and move to the first cell. -/
def setOrigin
    (session : Session)
    (on : Bool) : Session :=
  (session.modifyModes
    ({ · with origin := on })).moveToOrigin 0 0

/-
  Track the pointer in one of the modes.  They exclude one
  another, and resetting any of them ends tracking.
-/
def setMouseMode
    (session : Session)
    (mode : MouseMode)
    (on : Bool) : Session :=
  { session with
    mouseMode := if on then mode else .off
    mouseTracker := .start }

/- Use the alternate screen or the primary one. -/
def setAlternate
    (session : Session)
    (on : Bool) : Session :=
  if on then session.useAlternate else session.usePrimary

/-
  Use the alternate screen with a cursor of its own, or return
  to the primary one and its cursor.
-/
def setAlternateWithCursor
    (session : Session)
    (on : Bool) : Session :=
  match session.screen, on with
  | .primary, true => session.saveCursor.useAlternate
  | .alternate, false => session.usePrimary.restoreCursor
  | _, _ => session

/- Set or reset a private mode, if it is known. -/
def setPrivateMode?
    (session : Session)
    (mode : Nat)
    (on : Bool) : Option Session :=
  match mode with
  | 1 =>
    some (session.modifyModes
      ({ · with applicationCursor := on }))
  | 5 => some (session.setReverseVideo on)
  | 6 => some (session.setOrigin on)
  | 7 =>
    some (session.modifyModes ({ · with autoWrap := on }))
  | 9 => some (session.setMouseMode .x10 on)
  | 25 =>
    some (session.modifyCursor ({ · with visible := on }))
  | 47 | 1047 => some (session.setAlternate on)
  | 1000 => some (session.setMouseMode .normal on)
  | 1002 => some (session.setMouseMode .buttonEvent on)
  | 1003 => some (session.setMouseMode .anyEvent on)
  | 1004 =>
    some (session.modifyModes
      ({ · with focusTracking := on }))
  | 1006 =>
    some { session with
      mouseEncoding := if on then .sgr else .legacy }
  | 1048 =>
    some (if on then
      session.saveCursor
    else
      session.restoreCursor)
  | 1049 => some (session.setAlternateWithCursor on)
  | 2004 =>
    some (session.modifyModes
      ({ · with bracketedPaste := on }))
  | _ => none

------------------------------------------------------------
-- Sequences
------------------------------------------------------------

/- Set or reset a mode.  A known one is told about. -/
def setMode
    (session : Session)
    (isPrivate on : Bool)
    (mode : Nat) : Session :=
  let changed :=
    if isPrivate then
      session.setPrivateMode? mode on
    else
      session.setAnsiMode? mode on
  match changed with
  | none => session
  | some changed =>
    changed.notify (.modeChanged mode isPrivate on)

/- Set or reset the modes that the parameters list. -/
def setModes
    (session : Session)
    (isPrivate on : Bool)
    (params : Parameters) : Session :=
  (params.items.filterMap Parameter.value).foldl
    (fun session mode => session.setMode isPrivate on mode)
    session

end Session

end VideoTerminal
