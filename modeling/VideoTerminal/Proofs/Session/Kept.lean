import VideoTerminal.Proofs.Session.Evolves

/-
  What stays as it is in the steps that events are made up of:
  most of them leave the selection and the history in place,
  and after all of them cells can be shown.

  Main declarations:
    * `Session.Stands`
    * `Session.Legible`
    * `Session.Evolves.legible`
-/

namespace VideoTerminal

namespace Session

------------------------------------------------------------
-- What the Steps Leave in Place
------------------------------------------------------------

/-
  Nothing else is selected than before, the screens are as
  high, and their histories are the same.
-/
structure Stands
    (session after : Session) : Prop where
  selected :
    ∀ selection ∈ after.selection,
      selection ∈ session.selection
  rows_eq : after.rows = session.rows
  scrollback_eq :
    ∀ screen,
      (after.grid screen).scrollback =
        (session.grid screen).scrollback

theorem SameCells.stands
    {session after : Session}
    (hSame : session.SameCells after)
    (hSelected :
      ∀ selection ∈ after.selection,
        selection ∈ session.selection) :
    session.Stands after where
  selected := hSelected
  rows_eq := congrArg List.length (hSame.lines_eq .primary)
  scrollback_eq := hSame.scrollback_eq

theorem sameCells_of_screens_eq
    {session after : Session}
    (hSame : after.screens = session.screens) :
    session.SameCells after := by
  unfold screens at hSame
  simp only [Prod.mk.injEq] at hSame
  rcases hSame with ⟨_, hPrimary, hAlternate⟩
  apply sameCells_of_grids
  · rw [hPrimary]
    exact Grid.Edits.refl _
  · rw [hAlternate]
    exact Grid.Edits.refl _

section

variable (session : Session)

theorem stands_setViewOffset
    (offset : Grid → Nat) :
    session.Stands
      (session.modifyActive fun grid =>
        grid.setViewOffset (offset grid)) := by
  apply (sameCells_setViewOffset session offset).stands
  rw [selection_modifyActive]
  exact fun _ => id

theorem stands_markClean :
    session.Stands session.markClean :=
  (sameCells_markClean session).stands fun _ => id

theorem stands_modifyActive
    {change : Grid → Grid}
    (hDraws : session.active.Draws (change session.active)) :
    session.Stands (session.modifyActive change) := by
  constructor
  · rw [selection_modifyActive]
    exact fun _ => id
  · rcases session with ⟨_, _, _, screen⟩
    cases screen with
    | primary => exact hDraws.rows_eq
    | alternate => rfl
  · intro screen
    by_cases hScreen : screen = session.screen
    · subst hScreen
      rw [grid_modifyActive]
      exact hDraws.scrollback_eq
    · rw [grid_modifyActive_of_ne _ _ hScreen]

theorem stands_useAlternate :
    session.Stands session.useAlternate := by
  rcases useAlternate_cases session with hSame | hEnters
  · rw [hSame]
    exact (SameCells.refl session).stands fun _ => id
  · constructor
    · rw [hEnters.selection_eq]
      exact fun _ => id
    · exact congrArg List.length hEnters.primary_lines
    · rintro (_ | _)
      · exact hEnters.primary_scrollback
      · exact hEnters.alternate_scrollback

theorem stands_usePrimary :
    session.Stands session.usePrimary := by
  have hStays := stays_usePrimary session
  apply hStays.same.stands
  rw [hStays.selection_eq]
  exact fun _ => id

end

------------------------------------------------------------
-- What the Steps Keep
------------------------------------------------------------

section

variable [TextLibrary]

/- Both screens and their histories can be shown. -/
def Legible
    (session : Session) : Prop :=
  ∀ screen, (session.grid screen).Legible

section

variable {session : Session} (hLegible : session.Legible)

include hLegible

theorem Legible.of_sameCells
    {after : Session}
    (hSame : session.SameCells after) :
    after.Legible :=
  fun screen =>
    (hLegible screen).of_eq (hSame.lines_eq screen)
      (hSame.scrollback_eq screen)

theorem Legible.modifyActive
    {change : Grid → Grid}
    (hChange : (change session.active).Legible) :
    (session.modifyActive change).Legible := by
  intro screen
  by_cases hScreen : screen = session.screen
  · subst hScreen
    rw [grid_modifyActive]
    exact hChange
  · rw [grid_modifyActive_of_ne _ _ hScreen]
    exact hLegible screen

theorem WellFormed.legible_scrollLines
    {config : Config}
    {cols rows : Nat}
    (hSession : session.WellFormed config cols rows)
    (origin count : Nat)
    (direction : ScrollDirection)
    (retain : Bool) :
    (session.scrollLines origin count direction
      retain).Legible := by
  by_cases hNone : session.scrollCount origin count = 0
  · rw [scrollLines_of_eq_zero hNone]
    exact hLegible
  · have hScrolled :
        (session.modifyActive fun _ =>
          (session.scrolledGrid origin count direction
            retain).1).Legible :=
      hLegible.modifyActive
        (hSession.active.legible_scrollRegion
          (hLegible session.screen)
          (legible_sessionBlank session) hSession.region_lt
          (Nat.pos_of_ne_zero hNone)
          (add_scrollCount_le hNone) direction retain)
    rw [scrollLines_of_ne_zero hNone]
    exact hScrolled

theorem Legible.useAlternate :
    session.useAlternate.Legible := by
  have hView := setViewOffset_eq session.primary 0
  have hBlank := legible_sessionBlank session
  unfold Session.useAlternate
  split
  · exact hLegible
  · rintro (_ | _)
    · exact
        (hLegible .primary).of_eq hView.2.1 hView.2.2
    · exact
        (hLegible .alternate).ink (Grid.inks_clear _ hBlank)

theorem Legible.clearScrollback :
    session.clearScrollback.Legible := by
  intro screen
  cases screen with
  | primary => exact (hLegible .primary).clearScrollback
  | alternate => exact hLegible .alternate

theorem Legible.reset :
    session.reset.Legible := by
  have hBlank := legible_configBlank session.config
  have hView :=
    setViewOffset_eq
      (session.primary.clear session.config.blank) 0
  have hCleared :=
    (hLegible .primary).ink (Grid.inks_clear _ hBlank)
  rintro (_ | _)
  · exact hCleared.of_eq hView.2.1 hView.2.2
  · exact (hLegible .alternate).ink (Grid.inks_clear _ hBlank)

end

section

variable {config : Config} {cols rows : Nat}
  {may : RareStep → Prop}
  {session after : Session}

/- What can be shown stays so. -/
theorem Evolves.legible
    (hEvolves : session.Evolves config cols rows may after)
    (hLegible : session.Legible) :
    after.Legible := by
  induction hEvolves with
  | same hSame _ =>
      exact
        hLegible.of_sameCells (sameCells_of_screens_eq hSame)
  | ink _ hInks =>
      exact hLegible.modifyActive ((hLegible _).ink hInks)
  | scroll hSession origin count direction retain _ =>
      exact
        hSession.legible_scrollLines hLegible origin count
          direction retain
  | enter _ _ _ => exact hLegible.useAlternate
  | leave _ _ _ =>
      exact hLegible.of_sameCells (stays_usePrimary _).same
  | forget _ _ => exact hLegible.clearScrollback
  | reset _ _ => exact hLegible.reset
  | look _ _ offset =>
      exact
        hLegible.of_sameCells
          (sameCells_setViewOffset _ offset)
  | clean _ =>
      exact hLegible.of_sameCells (sameCells_markClean _)
  | trans _ _ hFirst hSecond =>
      exact hSecond (hFirst hLegible)

end

end

end Session

end VideoTerminal
