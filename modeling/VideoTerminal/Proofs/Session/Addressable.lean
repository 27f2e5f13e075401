import VideoTerminal.Proofs.Session.Kept

/-
  Sessions whose lines all have addresses.  Only a few rare
  steps take lines from the history, so that the sessions on
  the way to an addressable one are addressable as well.  What
  each step between such sessions hands on, events hand on.

  Main declarations:
    * `RareStep.Loses`
    * `Session.Evolves.addressable`
    * `Session.HandedOn`
    * `Session.HandedOn.evolves`
    * `Session.handedOn_selectsRemains`
-/

namespace VideoTerminal

/- A step takes lines from the history. -/
def RareStep.Loses :
    RareStep → Prop
  | .restore => True
  | .forget => True
  | .reset => True
  | _ => False

namespace Session

------------------------------------------------------------
-- Steps Between Addressable Sessions
------------------------------------------------------------

section

variable {config : Config} {cols rows : Nat}
  {session after : Session}

theorem Stands.addressable_iff
    (hStands : session.Stands after) :
    after.Addressable ↔ session.Addressable := by
  have hSize :
      after.primary.scrollback = session.primary.scrollback :=
    hStands.scrollback_eq .primary
  constructor
  · rintro ⟨hRows, hLines⟩
    rw [hStands.rows_eq] at hRows
    rw [hSize] at hLines
    exact ⟨hRows, hLines⟩
  · rintro ⟨hRows, hLines⟩
    rw [← hStands.rows_eq] at hRows
    rw [← hSize] at hLines
    exact ⟨hRows, hLines⟩

/- Lines that come back are the only ones that are lost. -/
theorem WellFormed.size_le_scrolledGrid
    (hSession : session.WellFormed config cols rows)
    {origin count : Nat}
    (hSome : session.scrollCount origin count ≠ 0)
    {direction : ScrollDirection}
    {retain : Bool}
    (hLeaves : direction = .down → retain = false) :
    session.active.scrollback.size ≤
      (session.scrolledGrid origin count direction
        retain).1.scrollback.size := by
  have hRoom := add_scrollCount_le hSome
  have hPos := Nat.pos_of_ne_zero hSome
  unfold Session.scrolledGrid Grid.scrollRegion
  cases direction with
  | up =>
      exact
        hSession.active.size_le_size_scrollUp
          hSession.region_lt hPos hRoom retain session.blank
  | down =>
      cases hLeaves rfl
      have hMoved :=
        (Grid.scrolls_scrollDown hSession.active
          hSession.region_lt hPos hRoom false
          session.blank).2
      have hSize :=
        hSession.active.size_scrollDown hSession.region_lt
          hPos hRoom false session.blank
      dsimp only
      rw [hSize, hMoved]
      exact Nat.le_refl _

theorem WellFormed.addressable_of_scrollLines
    (hSession : session.WellFormed config cols rows)
    (origin count : Nat)
    {direction : ScrollDirection}
    {retain : Bool}
    (hLeaves : direction = .down → retain = false)
    (hAfter :
      (session.scrollLines origin count direction
        retain).Addressable) :
    session.Addressable := by
  by_cases hNone : session.scrollCount origin count = 0
  · rw [scrollLines_of_eq_zero hNone] at hAfter
    exact hAfter
  · have hRows :=
      (hSession.scrollLines origin count direction
        retain).rows_eq.trans hSession.rows_eq.symm
    refine ⟨hRows ▸ hAfter.rows_le, ?_⟩
    refine Nat.le_trans ?_ hAfter.size_le
    have hGrows := hSession.size_le_scrolledGrid hNone hLeaves
    have hGrid := grid_scrollLines hNone direction retain
    cases hScreen : session.screen with
    | primary =>
        unfold Session.active at hGrows
        rw [hScreen] at hGrid hGrows
        rw [← hGrid] at hGrows
        exact hGrows
    | alternate =>
        rw [scrollLines_of_ne_zero hNone]
        have hOther : Screen.primary ≠ session.screen := by
          rw [hScreen]
          nofun
        exact
          Nat.le_of_eq
            (congrArg (·.scrollback.size)
              (grid_modifyActive_of_ne session _
                hOther).symm)

/- So a session before an addressable one is addressable. -/
theorem Evolves.addressable
    [TextLibrary]
    {may : RareStep → Prop}
    (hEvolves : session.Evolves config cols rows may after)
    (hNever : ∀ step, may step → ¬step.Loses)
    (hAfter : after.Addressable) :
    session.Addressable := by
  induction hEvolves with
  | same hSame hSelected =>
      exact
        ((sameCells_of_screens_eq hSame).stands
          hSelected).addressable_iff.mp hAfter
  | ink _ hInks =>
      exact
        (stands_modifyActive _
          hInks.toDraws).addressable_iff.mp hAfter
  | scroll hSession origin count direction retain hMay =>
      apply
        hSession.addressable_of_scrollLines origin count _
          hAfter
      intro hDown
      by_contra hRetains
      exact
        hNever _ (hMay hDown (Bool.not_eq_false _ ▸ hRetains))
          trivial
  | enter _ _ _ =>
      exact (stands_useAlternate _).addressable_iff.mp hAfter
  | leave _ _ _ =>
      exact (stands_usePrimary _).addressable_iff.mp hAfter
  | forget _ hMay => exact absurd trivial (hNever _ hMay)
  | reset _ hMay => exact absurd trivial (hNever _ hMay)
  | look _ _ offset =>
      exact
        (stands_setViewOffset _ offset).addressable_iff.mp
          hAfter
  | clean _ =>
      exact (stands_markClean _).addressable_iff.mp hAfter
  | trans _ _ hFirst hSecond => exact hFirst (hSecond hAfter)

end

------------------------------------------------------------
-- What the Steps Hand On
------------------------------------------------------------

/-
  What is so of a session is handed on by every step from an
  addressable session to an addressable one.
-/
structure HandedOn
    (Holds : Session → Prop) : Prop where
  stands :
    ∀ {session after : Session},
      session.Stands after → Holds session → Holds after
  scroll :
    ∀ {config : Config} {cols rows : Nat} {session : Session},
      session.WellFormed config cols rows →
        session.Addressable →
          ∀ origin count direction retain,
            (session.scrollLines origin count direction
                retain).Addressable →
              Holds session →
                Holds
                  (session.scrollLines origin count direction
                    retain)
  forget :
    ∀ {session : Session},
      Holds session → Holds session.clearScrollback
  dropped :
    ∀ {after : Session}, after.selection = none → Holds after

theorem HandedOn.evolves
    [TextLibrary]
    {Holds : Session → Prop}
    (hHandedOn : HandedOn Holds)
    {config : Config}
    {cols rows : Nat}
    {may : RareStep → Prop}
    {session after : Session}
    (hEvolves : session.Evolves config cols rows may after)
    (hNever : ∀ step, may step → ¬step.Loses)
    (hAfter : after.Addressable)
    (hHolds : Holds session) :
    Holds after := by
  induction hEvolves with
  | same hSame hSelected =>
      exact
        hHandedOn.stands
          ((sameCells_of_screens_eq hSame).stands hSelected)
          hHolds
  | ink _ hInks =>
      exact
        hHandedOn.stands
          (stands_modifyActive _ hInks.toDraws) hHolds
  | scroll hSession origin count direction retain hMay =>
      have hBefore :=
        (Evolves.scroll hSession origin count direction retain
          hMay).addressable hNever hAfter
      exact
        hHandedOn.scroll hSession hBefore _ _ _ _ hAfter hHolds
  | enter _ _ _ =>
      exact hHandedOn.stands (stands_useAlternate _) hHolds
  | leave _ _ _ =>
      exact hHandedOn.stands (stands_usePrimary _) hHolds
  | forget _ hMay => exact absurd trivial (hNever _ hMay)
  | reset _ hMay => exact absurd trivial (hNever _ hMay)
  | look _ _ offset =>
      exact
        hHandedOn.stands (stands_setViewOffset _ offset) hHolds
  | clean _ =>
      exact hHandedOn.stands (stands_markClean _) hHolds
  | trans _ hLater hFirst hSecond =>
      have hBetween := hLater.addressable hNever hAfter
      exact hSecond hAfter (hFirst hBetween hHolds)

------------------------------------------------------------
-- What Remains Selected
------------------------------------------------------------

/-
  Whatever is selected is what remains of another selection,
  in rows that words have room for.
-/
def SelectsRemains
    (before : Option Selection)
    (session : Session) : Prop :=
  ∀ rest ∈ session.selection,
    ∃ selection ∈ before,
      selection.Remains rest ∧ rest.InWords

theorem SelectsRemains.of_selected
    {before : Option Selection}
    {session after : Session}
    (hRemains : SelectsRemains before session)
    (hSelected :
      ∀ selection ∈ after.selection,
        selection ∈ session.selection) :
    SelectsRemains before after :=
  fun rest hRest => hRemains rest (hSelected rest hRest)

/- What scrolling leaves selected has been selected before. -/
theorem WellFormed.selectsRemains_scrollLines
    {config : Config}
    {cols rows : Nat}
    {session : Session}
    {before : Option Selection}
    (hSession : session.WellFormed config cols rows)
    (hRemains : SelectsRemains before session)
    {origin count : Nat}
    {direction : ScrollDirection}
    {retain : Bool}
    (hAfter :
      (session.scrollLines origin count direction
        retain).Addressable) :
    SelectsRemains before
      (session.scrollLines origin count direction retain) := by
  by_cases hNone : session.scrollCount origin count = 0
  · rw [scrollLines_of_eq_zero hNone]
    exact hRemains
  · have hScrolled :=
      hSession.scrollLines origin count direction retain
    have hDelta :=
      hSession.scrollDelta_within hNone direction
    have hBottom := hSession.region_lt
    have hRows := hAfter.rows_le
    have hSize :=
      hScrolled.size_grid_le hAfter session.screen
    rw [grid_scrollLines hNone] at hSize
    rw [hScrolled.rows_eq] at hRows
    intro rest hRest
    rw [scrollLines_of_ne_zero hNone] at hRest
    rcases Option.bind_eq_some_iff.mp hRest with
      ⟨selected, hSelected, hFollows⟩
    rcases hRemains selected hSelected with
      ⟨selection, hSelection, hLonger, hWords⟩
    rcases remains_of_followScroll hWords
        ⟨by omega, by omega⟩ hSize (by omega) hFollows with
      ⟨hLeft, hStill⟩
    exact
      ⟨selection, hSelection, hLonger.trans hLeft, hStill⟩

theorem handedOn_selectsRemains
    (before : Option Selection) :
    HandedOn (SelectsRemains before) where
  stands := fun hStands hRemains =>
    hRemains.of_selected hStands.selected
  scroll := fun hSession _ _ _ _ _ hAfter hRemains =>
    hSession.selectsRemains_scrollLines hRemains hAfter
  forget := fun hRemains =>
    hRemains.of_selected fun _ hRest =>
      (Option.filter_eq_some_iff.mp hRest).1
  dropped := fun hNone rest hRest => by
    rw [hNone] at hRest
    cases hRest

end Session

end VideoTerminal
