import VideoTerminal.Proofs.Session.Place
import VideoTerminal.Proofs.Terminal.Events
import VideoTerminal.Proofs.Terminal.Reachable

/-
  Where the calls of the embedder leave the cursor, and that
  it stays between the margins in every terminal.

  Main declarations:
    * `Terminal.WellFormed.moves_perform`
    * `Terminal.Reachable.betweenMargins`
-/

namespace VideoTerminal

namespace Session

/- A change of size is refused, needless or carried out. -/
theorem resize_cases
    (session : Session)
    (cols rows : Nat) :
    (∃ error, session.resize cols rows = .error error) ∨
      session.resize cols rows = .ok session ∨
      session.resize cols rows =
        .ok (session.resizeTo cols rows) := by
  unfold Session.resize
  split
  · exact Or.inl ⟨_, rfl⟩
  · split
    · exact Or.inr (Or.inl rfl)
    · exact Or.inr (Or.inr rfl)

/- A change of size makes the whole screen the region. -/
theorem moves_resizeTo
    (session : Session)
    (cols rows : Nat) :
    session.Moves (session.resizeTo cols rows) := by
  refine Or.inr ⟨rfl, fun _ _ => ⟨Nat.zero_le _, ?_⟩⟩
  show min _ (rows - 1) ≤ rows - 1
  exact Nat.min_le_right _ _

theorem place_reportFocus
    (session : Session)
    (focused : Bool) :
    (session.reportFocus focused).place = session.place := by
  unfold Session.reportFocus
  split <;> rfl

theorem place_reportMouse
    (session : Session)
    (event : MouseEvent) :
    (session.reportMouse event).1.place = session.place := by
  unfold Session.reportMouse
  dsimp only
  split <;> rfl

end Session

namespace Terminal

section

variable [TextLibrary]
variable {config : Config} {cols rows : Nat}
  {terminal : Terminal}

/- The input is left to its events. -/
theorem WellFormed.moves_perform
    (hTerminal : terminal.WellFormed config cols rows)
    {operation : Operation}
    (hOther : ∀ bytes, operation ≠ .process bytes) :
    terminal.session.Moves
      (terminal.perform operation).1.session := by
  have hSession := hTerminal.session
  have hActive :=
    Session.place_modifyActive terminal.session
  unfold Terminal.perform
  dsimp only
  cases operation with
  | process bytes => exact absurd rfl (hOther bytes)
  | resize cols' rows' =>
      dsimp only
      rcases terminal.session.resize_cases cols' rows' with
        ⟨error, hRefused⟩ | hSame | hResized
      · rw [hRefused]
        exact .refl _
      · rw [hSame]
        exact .refl _
      · rw [hResized]
        exact Session.moves_resizeTo _ _ _
  | reset => exact Session.moves_reset _
  | beginSelection x y snap mode => exact .of_place_eq rfl
  | clickSelection x y mode time => exact .of_place_eq rfl
  | extendSelection x y => exact .of_place_eq rfl
  | finishSelection => exact .of_place_eq rfl
  | clearSelection => exact .of_place_eq rfl
  | paste text => exact .of_place_eq (hActive _)
  | reportFocus focused =>
      exact .of_place_eq (Session.place_reportFocus _ _)
  | reportMouse event =>
      exact .of_place_eq (Session.place_reportMouse _ _)
  | viewUp n => exact .of_place_eq (hActive _)
  | viewDown n => exact .of_place_eq (hActive _)
  | viewReset => exact .of_place_eq (hActive _)
  | markClean => exact .of_place_eq rfl
  | markAllDirty => exact .of_place_eq (hActive _)
  | markRowDirty row => exact .of_place_eq (hActive _)
  | scrollLines origin count direction retain =>
      exact .of_place_eq (Session.place_scrollLines _ _ _ _ _)
  | clearRegion x₁ y₁ x₂ y₂ =>
      exact .of_place_eq (Session.place_clearRegion _ _ _ _ _)
  | clearScrollback => exact .of_place_eq rfl
  | setScrollRegion top bottom =>
      exact hSession.moves_setScrollRegion top bottom
  | useAlternate =>
      exact .of_place_eq (Session.place_useAlternate _)
  | usePrimary =>
      exact .of_place_eq (Session.place_usePrimary _)
  | saveCursor =>
      exact .of_place_eq (Session.place_saveCursor _)
  | restoreCursor => exact hSession.moves_restoreCursor
  | installSink => exact .of_place_eq rfl
  | removeSink => exact .of_place_eq rfl
  | takeNotices => exact .of_place_eq rfl
  | takeResponses => exact .of_place_eq rfl
  | takeDeliveries => exact .of_place_eq rfl

theorem WellFormed.betweenMargins_perform
    (hTerminal : terminal.WellFormed config cols rows)
    (operation : Operation)
    (hBefore : terminal.session.BetweenMargins) :
    (terminal.perform operation).1.session.BetweenMargins := by
  by_cases hInput : ∃ bytes, operation = .process bytes
  · rcases hInput with ⟨bytes, rfl⟩
    show (terminal.process bytes).session.BetweenMargins
    rw [process_eq]
    exact
      hTerminal.session.betweenMargins_handleAll _ hBefore
  · have hOther : ∀ bytes, operation ≠ .process bytes :=
      fun bytes hInput' => hInput ⟨bytes, hInput'⟩
    exact
      (hTerminal.moves_perform hOther).betweenMargins hBefore

end

theorem betweenMargins_start
    (cols rows : Nat)
    (config : Config) :
    (start cols rows config).session.BetweenMargins :=
  fun hOrigin => nomatch hOrigin

/-
  In origin mode no terminal has its cursor outside of the
  scroll region.
-/
theorem Reachable.betweenMargins
    [TextLibrary]
    {terminal : Terminal}
    (hTerminal : Reachable terminal) :
    terminal.session.BetweenMargins := by
  induction hTerminal with
  | create hCreated =>
      rcases eq_start_of_created hCreated with ⟨_, _, rfl⟩
      exact betweenMargins_start _ _ _
  | createRaised cols rows => exact betweenMargins_start _ _ _
  | perform hBefore operation hMargins =>
      rcases hBefore.wellFormed with
        ⟨config, cols, rows, hWellFormed⟩
      exact
        hWellFormed.betweenMargins_perform operation hMargins

end Terminal

end VideoTerminal
