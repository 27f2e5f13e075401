import VideoTerminal.Proofs.Session.Addressable
import VideoTerminal.Proofs.Terminal.Place
import VideoTerminal.Proofs.Terminal.Stale

/-
  What operating a terminal does to its cells and to its
  selection.  The calls that select aside, and a change of
  size, all of it is put together from the steps that events
  are made up of.

  Main declarations:
    * `Operation.Selects`
    * `Operation.Loses`
    * `Operation.May`
    * `Terminal.WellFormed.evolves_perform`
    * `Terminal.WellFormed.evolves_or_resized`
    * `Session.HandedOn.handle`
    * `Session.HandedOn.perform`
    * `Terminal.Reachable.legible`
-/

namespace VideoTerminal

/- The user begins to select, drags the pointer or stops. -/
def Operation.Selects :
    Operation → Prop
  | .beginSelection .. => True
  | .clickSelection .. => True
  | .extendSelection .. => True
  | .finishSelection => True
  | _ => False

instance
    (operation : Operation) :
    Decidable operation.Selects := by
  unfold Operation.Selects
  split <;> infer_instance

/- An operation that may take lines from the history. -/
def Operation.Loses :
    Operation → Prop
  | .process _ => True
  | .reset => True
  | .scrollLines .. => True
  | .clearScrollback => True
  | _ => False

/-
  Only marking the rows as unchanged takes that step, and only
  few operations take lines from the history.
-/
structure Operation.May
    (operation : Operation)
    (step : RareStep) : Prop where
  clean : step = .clean → operation = .markClean
  loses : step.Loses → operation.Loses

namespace Session

section

variable [TextLibrary]
variable {config : Config} {cols rows : Nat}
  {session : Session}

/- The lines that a change of size fits can be shown. -/
theorem WellFormed.legible_resizeTo
    (hSession : session.WellFormed config cols rows)
    (hLegible : session.Legible)
    (cols' rows' : Nat) :
    (session.resizeTo cols' rows').Legible := by
  have hBlank := legible_configBlank session.config
  have hPlain := isPlain_configBlank session.config
  intro screen
  cases screen with
  | primary =>
      exact
        hSession.primary.legible_resize (hLegible .primary)
          hBlank hPlain cols' rows' session.anchorRow true
  | alternate =>
      exact
        hSession.alternate.legible_resize
          (hLegible .alternate) hBlank hPlain cols' rows'
          session.cursor.row false

theorem legible_start
    (cols rows : Nat)
    (config : Config) :
    (start cols rows config).Legible := by
  intro screen
  cases screen with
  | primary =>
      exact Grid.legible_ofBlank _ _ _ (legible_configBlank _)
  | alternate =>
      exact Grid.legible_ofBlank _ _ _ (legible_configBlank _)

end

end Session

namespace Terminal

section

variable [TextLibrary]
variable {config : Config} {cols rows : Nat}
  {terminal : Terminal}
  (hTerminal : terminal.WellFormed config cols rows)

include hTerminal

/- What neither selects nor changes the size. -/
theorem WellFormed.evolves_perform
    {operation : Operation}
    (hPassive : ¬operation.Selects)
    (hFixed : ∀ cols' rows', operation ≠ .resize cols' rows') :
    terminal.session.Evolves config cols rows operation.May
      (terminal.perform operation).1.session := by
  have hSession := hTerminal.session
  unfold Terminal.perform
  dsimp only
  cases operation with
  | process bytes =>
      dsimp only
      rw [process_eq]
      apply hSession.evolves_handleAll
      intro event _ step hMay
      refine ⟨?_, fun _ => trivial⟩
      rintro rfl
      exact hMay.elim
  | resize cols' rows' =>
      exact absurd rfl (hFixed cols' rows')
  | reset =>
      exact .reset hSession ⟨nofun, fun _ => trivial⟩
  | beginSelection x y snap mode =>
      exact absurd trivial hPassive
  | clickSelection x y mode time =>
      exact absurd trivial hPassive
  | extendSelection x y => exact absurd trivial hPassive
  | finishSelection => exact absurd trivial hPassive
  | clearSelection => exact Session.evolves_drop rfl rfl
  | paste text =>
      have hLooks :
          terminal.session.Evolves config cols rows
            (Operation.May (.paste text))
            (terminal.session.modifyActive fun grid =>
              grid.setViewOffset 0) :=
        .look hSession ⟨nofun, False.elim⟩ fun _ => 0
      exact hLooks.then_scene rfl
  | reportFocus focused =>
      exact
        Session.evolves_of_scene_eq
          (Session.scene_reportFocus _ _)
  | reportMouse event =>
      exact
        Session.evolves_of_scene_eq
          (Session.scene_reportMouse _ _)
  | viewUp n =>
      exact
        .look hSession ⟨nofun, False.elim⟩ (·.viewOffset + n)
  | viewDown n =>
      exact
        .look hSession ⟨nofun, False.elim⟩ (·.viewOffset - n)
  | viewReset =>
      exact .look hSession ⟨nofun, False.elim⟩ fun _ => 0
  | markClean => exact .clean ⟨fun _ => rfl, False.elim⟩
  | markAllDirty =>
      exact .ink hSession (Grid.inks_markAllDirty _)
  | markRowDirty row =>
      have hMarked :
          terminal.session.Evolves config cols rows
            (Operation.May (.markRowDirty row))
            (terminal.session.modifyActive (·.markDirty row)) :=
        .ink hSession (Grid.inks_markDirty _ row)
      exact hMarked
  | scrollLines origin count direction retain =>
      exact
        .scroll hSession origin count direction retain
          fun _ _ => ⟨nofun, fun _ => trivial⟩
  | clearRegion x₁ y₁ x₂ y₂ =>
      exact hSession.evolves_clearRegion x₁ y₁ x₂ y₂
  | clearScrollback =>
      exact .forget hSession ⟨nofun, fun _ => trivial⟩
  | setScrollRegion top bottom =>
      exact
        Session.evolves_of_scene_eq
          (Session.scene_setScrollRegion _ top bottom)
  | useAlternate =>
      exact
        hSession.evolves_useAlternate ⟨nofun, False.elim⟩
  | usePrimary =>
      exact hSession.evolves_usePrimary ⟨nofun, False.elim⟩
  | saveCursor =>
      exact
        Session.evolves_of_scene_eq (Session.scene_saveCursor _)
  | restoreCursor =>
      exact
        Session.evolves_of_scene_eq
          (Session.scene_restoreCursor _)
  | installSink => exact Session.evolves_of_scene_eq rfl
  | removeSink => exact Session.evolves_of_scene_eq rfl
  | takeNotices => exact Session.evolves_of_scene_eq rfl
  | takeResponses => exact Session.evolves_of_scene_eq rfl
  | takeDeliveries => exact Session.evolves_of_scene_eq rfl

/- A change of size is the one other thing that happens. -/
theorem WellFormed.evolves_or_resized
    {operation : Operation}
    (hPassive : ¬operation.Selects) :
    terminal.session.Evolves config cols rows operation.May
        (terminal.perform operation).1.session ∨
      ∃ cols' rows',
        (terminal.perform operation).1.session =
          terminal.session.resizeTo cols' rows' := by
  by_cases hSized :
      ∃ cols' rows', operation = .resize cols' rows'
  · rcases hSized with ⟨cols', rows', rfl⟩
    unfold Terminal.perform
    dsimp only
    rcases terminal.session.resize_cases cols' rows' with
      ⟨error, hRefused⟩ | hSame | hResized
    · rw [hRefused]
      exact Or.inl (.refl _)
    · rw [hSame]
      exact Or.inl (.refl _)
    · rw [hResized]
      exact Or.inr ⟨cols', rows', rfl⟩
  · refine Or.inl (hTerminal.evolves_perform hPassive ?_)
    exact fun cols' rows' hSize => hSized ⟨cols', rows', hSize⟩

theorem WellFormed.legible_perform
    (hLegible : terminal.session.Legible)
    (operation : Operation) :
    (terminal.perform operation).1.session.Legible := by
  by_cases hSelects : operation.Selects
  · unfold Operation.Selects at hSelects
    split at hSelects
    · exact hLegible
    · exact hLegible
    · exact hLegible
    · exact hLegible
    · exact hSelects.elim
  · rcases hTerminal.evolves_or_resized hSelects with
      hEvolves | ⟨cols', rows', hResized⟩
    · exact hEvolves.legible hLegible
    · rw [hResized]
      exact
        hTerminal.session.legible_resizeTo hLegible cols' rows'

end

end Terminal

------------------------------------------------------------
-- What Events and Operations Hand On
------------------------------------------------------------

namespace Session

variable {Holds : Session → Prop}
  (hHandedOn : HandedOn Holds)
  {config : Config} {cols rows : Nat}

include hHandedOn

/- Clearing the history and a reset are single steps. -/
theorem HandedOn.handle
    [TextLibrary]
    {session : Session}
    (hSession : session.WellFormed config cols rows)
    {event : Event}
    (hAfter : (session.handle event).Addressable)
    (hHolds : Holds session) :
    Holds (session.handle event) := by
  by_cases hResets : event = .escape none 'c'
  · subst hResets
    exact hHandedOn.dropped rfl
  · by_cases hClears : event.ClearsHistory
    · rw [Event.handle_of_clearsHistory hClears]
      exact hHandedOn.forget hHolds
    · apply
        hHandedOn.evolves (hSession.evolves_event event) _
          hAfter hHolds
      intro step hMay hLoses
      cases step with
      | forget => exact hClears hMay
      | reset => exact hResets hMay
      | restore => exact hMay
      | switch on => exact hLoses
      | look => exact hLoses
      | clean => exact hLoses

/- So are the operations that take lines from the history. -/
theorem HandedOn.perform
    [TextLibrary]
    {terminal : Terminal}
    (hTerminal : terminal.WellFormed config cols rows)
    {operation : Operation}
    (hSingle : ∀ bytes, operation ≠ .process bytes)
    (hPassive : ¬operation.Selects)
    (hBefore : terminal.session.Addressable)
    (hAfter :
      (terminal.perform operation).1.session.Addressable)
    (hHolds : Holds terminal.session) :
    Holds (terminal.perform operation).1.session := by
  by_cases hLoses : operation.Loses
  · unfold Operation.Loses at hLoses
    split at hLoses
    · exact absurd rfl (hSingle _)
    · exact hHandedOn.dropped rfl
    · exact
        hHandedOn.scroll hTerminal.session hBefore _ _ _ _
          hAfter hHolds
    · exact hHandedOn.forget hHolds
    · exact hLoses.elim
  · rcases hTerminal.evolves_or_resized hPassive with
      hEvolves | ⟨cols', rows', hResized⟩
    · exact
        hHandedOn.evolves hEvolves
          (fun _ hMay hStep => hLoses (hMay.loses hStep))
          hAfter hHolds
    · rw [hResized]
      exact hHandedOn.dropped rfl

end Session

namespace Terminal

/- No terminal shows what has no width. -/
theorem Reachable.legible
    [TextLibrary]
    {terminal : Terminal}
    (hTerminal : Reachable terminal) :
    terminal.session.Legible := by
  induction hTerminal with
  | create hCreated =>
      rcases eq_start_of_created hCreated with ⟨_, _, rfl⟩
      exact Session.legible_start _ _ _
  | createRaised cols rows => exact Session.legible_start _ _ _
  | perform hBefore operation hLegible =>
      rcases hBefore.wellFormed with
        ⟨config, cols, rows, hWellFormed⟩
      exact hWellFormed.legible_perform hLegible operation

end Terminal

end VideoTerminal
