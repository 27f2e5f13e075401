import VideoTerminal.Proofs.Session.Evolves

/-
  What handling an event does to the screens, put together
  from a few steps: drawing on the screen in use, scrolling
  it, and switching screens.  Whatever each of these steps
  keeps, an event keeps, unless it resets the terminal or
  clears the history.

  Main declarations:
    * `Session.Paints`
    * `Session.Evolves.paints`
    * `Session.WellFormed.paints_handle`
    * `Session.Paints.screen_eq`
-/

namespace VideoTerminal

namespace Session

------------------------------------------------------------
-- Steps on the Screens
------------------------------------------------------------

/-
  One session comes from another by steps on the screens.  No
  line comes back from the history, the alternate screen is
  put to use only if `on`, and put away only if not.
-/
inductive Paints
    (config : Config)
    (cols rows : Nat)
    (on : Bool) :
    Session → Session → Prop where
  | same
      {session after : Session}
      (hSame : after.screens = session.screens) :
      Paints config cols rows on session after
  | draw
      {session : Session}
      (hSession : session.WellFormed config cols rows)
      {change : Grid → Grid}
      (hDraws : session.active.Draws (change session.active)) :
      Paints config cols rows on session
        (session.modifyActive change)
  | scroll
      {session : Session}
      (hSession : session.WellFormed config cols rows)
      (origin count : Nat)
      {direction : ScrollDirection}
      {retain : Bool}
      (hLeaves : direction = .down → retain = false) :
      Paints config cols rows on session
        (session.scrollLines origin count direction retain)
  | enter
      {session : Session}
      (hSession : session.WellFormed config cols rows)
      (hOn : on = true)
      (hScreen : session.screen = .primary) :
      Paints config cols rows on session session.useAlternate
  | leave
      {session : Session}
      (hSession : session.WellFormed config cols rows)
      (hOff : on = false)
      (hScreen : session.screen = .alternate) :
      Paints config cols rows on session session.usePrimary
  | trans
      {session between after : Session}
      (hFirst : Paints config cols rows on session between)
      (hSecond : Paints config cols rows on between after) :
      Paints config cols rows on session after

section

variable {config : Config} {cols rows : Nat} {on : Bool}
  {session after : Session}

/- All steps are on the screens if the other ones are rare. -/
theorem Evolves.paints
    [TextLibrary]
    {may : RareStep → Prop}
    (hEvolves : session.Evolves config cols rows may after)
    (hMay : ∀ step, may step → step = .switch on) :
    session.Paints config cols rows on after := by
  induction hEvolves with
  | same hSame _ => exact .same hSame
  | ink hSession hInks => exact .draw hSession hInks.toDraws
  | scroll hSession origin count direction retain hRecalls =>
      apply Paints.scroll hSession origin count
      intro hDown
      by_contra hRetains
      cases hMay _
        (hRecalls hDown (Bool.not_eq_false _ ▸ hRetains))
  | enter hSession hOn hScreen =>
      cases hMay _ hOn
      exact .enter hSession rfl hScreen
  | leave hSession hOff hScreen =>
      cases hMay _ hOff
      exact .leave hSession rfl hScreen
  | forget _ hForgets => cases hMay _ hForgets
  | reset _ hResets => cases hMay _ hResets
  | look _ hLooks _ => cases hMay _ hLooks
  | clean hCleans => cases hMay _ hCleans
  | trans _ _ hFirst hSecond => exact .trans hFirst hSecond

/-
  An event that neither resets the terminal nor clears its
  history is made up of steps on the screens.
-/
theorem WellFormed.paints_handle
    [TextLibrary]
    (hSession : session.WellFormed config cols rows)
    {event : Event}
    (hKeeps : ¬event.ClearsHistory)
    (hOther : event ≠ .escape none 'c') :
    ∃ on,
      session.Paints config cols rows on
        (session.handle event) := by
  have hEvolves := hSession.evolves_event event
  refine ⟨event.switchesOn, hEvolves.paints ?_⟩
  intro step hMay
  cases step with
  | switch on => exact congrArg RareStep.switch hMay.symm
  | forget => exact absurd hMay hKeeps
  | reset => exact absurd hMay hOther
  | restore => exact hMay.elim
  | look => exact hMay.elim
  | clean => exact hMay.elim

------------------------------------------------------------
-- What the Steps Keep
------------------------------------------------------------

/- The screen that switching stays on. -/
def screenFor :
    Bool → Screen
  | true => .alternate
  | false => .primary

/- A screen is not put away by the steps that put it to use. -/
theorem Paints.screen_eq
    (hPaints : session.Paints config cols rows on after)
    (hScreen : session.screen = screenFor on) :
    after.screen = screenFor on := by
  induction hPaints with
  | same hSame => exact (congrArg Prod.fst hSame).trans hScreen
  | draw _ _ => rw [screen_modifyActive, hScreen]
  | @scroll session _ origin count direction retain _ =>
      by_cases hNone : session.scrollCount origin count = 0
      · rw [scrollLines_of_eq_zero hNone, hScreen]
      · rw [scrollLines_of_ne_zero hNone]
        exact (screen_modifyActive _ _).trans hScreen
  | enter _ hOn hPrimary =>
      subst hOn
      rw [hPrimary] at hScreen
      cases hScreen
  | leave _ hOff hAlternate =>
      subst hOff
      rw [hAlternate] at hScreen
      cases hScreen
  | trans _ _ hFirst hSecond =>
      exact hSecond (hFirst hScreen)

end

end Session

end VideoTerminal
