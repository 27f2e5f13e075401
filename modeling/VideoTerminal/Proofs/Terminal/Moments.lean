import VideoTerminal.Proofs.Terminal.Events
import VideoTerminal.Proofs.Terminal.Evolves

/-
  The single steps that a run of operations is made up of, and
  the terminals in which they are taken.  Input is taken event
  by event, and a character that is to be repeated is written
  time by time.

  Main declarations:
    * `Session.unroll`
    * `Terminal.steps`
    * `Terminal.moments`
    * `Terminal.session_performAll_cases`
    * `Terminal.Sound`
    * `Terminal.InMemory`
    * `Terminal.Sound.handsOn`
    * `Terminal.forall_moments_iff`
    * `Terminal.holds_throughout_iff`
-/

namespace VideoTerminal

namespace Session

------------------------------------------------------------
-- Repetitions
------------------------------------------------------------

/- An event as single ones, each of one character at most. -/
def unroll
    (session : Session) :
    Event → List Event
  | .sequence .repeatChar params =>
    match session.lastPrinted with
    | none => []
    | some c => List.replicate (params.count 0) (.print c)
  | event => [event]

section

variable [TextLibrary]

/- All events in the input as single ones. -/
def unrollAll
    (session : Session) :
    List Event → List Event
  | [] => []
  | event :: events =>
    session.unroll event ++
      (session.handle event).unrollAll events

theorem foldl_replicate
    (session : Session)
    (c : Char)
    (n : Nat) :
    (List.replicate n (Event.print c)).foldl handle session =
      session.writeCharTimes c n := by
  induction n generalizing session with
  | zero => rfl
  | succ n hRest => exact hRest (session.writeChar c)

theorem foldl_unroll
    (session : Session)
    (event : Event) :
    (session.unroll event).foldl handle session =
      session.handle event := by
  unfold unroll
  split
  · rename_i params
    show _ = session.repeatLast (params.count 0)
    unfold repeatLast
    cases session.lastPrinted with
    | none => rfl
    | some c => exact foldl_replicate session c _
  · rfl

theorem foldl_unrollAll
    (session : Session)
    (events : List Event) :
    (session.unrollAll events).foldl handle session =
      events.foldl handle session := by
  induction events generalizing session with
  | nil => rfl
  | cons event events hRest =>
      rw [unrollAll, List.foldl_append, foldl_unroll, hRest,
        List.foldl_cons]

end

end Session

namespace Terminal

------------------------------------------------------------
-- Single Steps
------------------------------------------------------------

/- A step is neither a whole input nor a repetition. -/
def Step.IsSingle :
    Step → Prop
  | .event (.sequence .repeatChar _) => False
  | .operation (.process _) => False
  | _ => True

/- The single steps that an operation is made up of. -/
def steps
    [TextLibrary]
    (terminal : Terminal) :
    Operation → List Step
  | .process bytes =>
    (terminal.session.unrollAll
      (terminal.events bytes)).map .event
  | operation => [.operation operation]

theorem isSingle_of_mem_unroll
    {session : Session}
    {event single : Event}
    (hMem : single ∈ session.unroll event) :
    Step.IsSingle (.event single) := by
  unfold Session.unroll at hMem
  split at hMem
  · split at hMem
    · cases hMem
    · rw [(List.mem_replicate.mp hMem).2]
      trivial
  · rename_i hOther
    rw [List.mem_singleton.mp hMem]
    unfold Step.IsSingle
    split
    · rename_i params hRepeat
      cases hRepeat
      exact hOther params rfl
    · rename_i hInput
      cases hInput
    · trivial

section

variable [TextLibrary]

theorem isSingle_of_mem_unrollAll
    {session : Session}
    {events : List Event}
    {single : Event}
    (hMem : single ∈ session.unrollAll events) :
    Step.IsSingle (.event single) := by
  induction events generalizing session with
  | nil => cases hMem
  | cons event events hRest =>
      rcases List.mem_append.mp hMem with hFirst | hLater
      · exact isSingle_of_mem_unroll hFirst
      · exact hRest hLater

theorem isSingle_of_mem_steps
    {terminal : Terminal}
    {operation : Operation}
    {step : Step}
    (hMem : step ∈ terminal.steps operation) :
    step.IsSingle := by
  unfold steps at hMem
  split at hMem
  · rcases List.mem_map.mp hMem with ⟨single, hSingle, rfl⟩
    exact isSingle_of_mem_unrollAll hSingle
  · rename_i hOther
    rw [List.mem_singleton.mp hMem]
    unfold Step.IsSingle
    split
    · rename_i hEvent
      cases hEvent
    · rename_i bytes hInput
      cases hInput
      exact hOther bytes rfl
    · trivial

/- The steps lead to the session after the operation. -/
theorem session_foldl_take_steps
    (terminal : Terminal)
    (operation : Operation) :
    ((terminal.steps operation).foldl take
        terminal).session =
      (terminal.perform operation).1.session := by
  have hEvents :
      ∀ (events : List Event) (terminal : Terminal),
        ((events.map Step.event).foldl take
            terminal).session =
          events.foldl Session.handle terminal.session := by
    intro events
    induction events with
    | nil => exact fun _ => rfl
    | cons event events hRest =>
        exact fun terminal =>
          hRest (terminal.take (.event event))
  unfold steps
  split
  · rename_i bytes
    rw [hEvents, Session.foldl_unrollAll]
    show _ = (terminal.process bytes).session
    rw [process_eq]
  · rfl

------------------------------------------------------------
-- Moments of a Run
------------------------------------------------------------

/- The steps in turn, each with the terminal before it. -/
def momentsOf :
    Terminal → List Step → List (Terminal × Step)
  | _, [] => []
  | terminal, step :: steps =>
    (terminal, step) :: momentsOf (terminal.take step) steps

/- The single steps of a run, with the terminals before. -/
def moments
    (terminal : Terminal) :
    List Operation → List (Terminal × Step)
  | [] => []
  | operation :: operations =>
    momentsOf terminal (terminal.steps operation) ++
      (terminal.perform operation).1.moments operations

theorem session_foldl_take_cases
    (terminal : Terminal)
    (steps : List Step) :
    (steps.foldl take terminal).session = terminal.session ∨
      ∃ moment ∈ momentsOf terminal steps,
        (steps.foldl take terminal).session =
          (moment.1.take moment.2).session := by
  induction steps generalizing terminal with
  | nil => exact Or.inl rfl
  | cons step steps hRest =>
      refine Or.inr ?_
      rcases hRest (terminal.take step) with
        hSame | ⟨moment, hMem, hEq⟩
      · exact ⟨_, List.mem_cons_self, hSame⟩
      · exact ⟨moment, List.mem_cons_of_mem _ hMem, hEq⟩

/- What a run ends with is what one of its steps leaves. -/
theorem session_performAll_cases
    (terminal : Terminal)
    (operations : List Operation) :
    (terminal.performAll operations).session =
        terminal.session ∨
      ∃ moment ∈ terminal.moments operations,
        (terminal.performAll operations).session =
          (moment.1.take moment.2).session := by
  induction operations generalizing terminal with
  | nil => exact Or.inl rfl
  | cons operation operations hRest =>
      have hFirst :=
        session_foldl_take_cases terminal
          (terminal.steps operation)
      rw [session_foldl_take_steps] at hFirst
      have hSplit :
          ∀ moment,
            moment ∈
                momentsOf terminal
                    (terminal.steps operation) ∨
              moment ∈
                (terminal.perform operation).1.moments
                  operations →
              moment ∈
                terminal.moments (operation :: operations) :=
        fun _ => List.mem_append.mpr
      rcases hRest (terminal.perform operation).1 with
        hSame | ⟨moment, hMem, hEq⟩
      · rcases hFirst with hStart | ⟨moment, hMem, hEq⟩
        · exact Or.inl (hSame.trans hStart)
        · exact
            Or.inr
              ⟨moment, hSplit _ (Or.inl hMem),
                hSame.trans hEq⟩
      · exact Or.inr ⟨moment, hSplit _ (Or.inr hMem), hEq⟩

------------------------------------------------------------
-- What Holds Throughout a Run
------------------------------------------------------------

/- A terminal that is well-formed for its settings and size. -/
def Sound
    (terminal : Terminal) : Prop :=
  ∃ config cols rows, terminal.WellFormed config cols rows

theorem Sound.perform
    {terminal : Terminal}
    (hTerminal : terminal.Sound)
    (operation : Operation) :
    (terminal.perform operation).1.Sound := by
  rcases hTerminal with ⟨config, cols, rows, hWellFormed⟩
  exact ⟨_, _, _, hWellFormed.perform operation⟩

theorem Sound.take
    {terminal : Terminal}
    (hTerminal : terminal.Sound)
    (step : Step) :
    (terminal.take step).Sound := by
  cases step with
  | event event =>
      rcases hTerminal with ⟨config, cols, rows, hWellFormed⟩
      exact
        ⟨_, _, _,
          hWellFormed.modify
            (hWellFormed.session.handle event)⟩
  | operation operation => exact hTerminal.perform operation

/- A step in which the user selects. -/
def Step.Selects :
    Step → Prop
  | .event _ => False
  | .operation call => call.Selects

instance
    (step : Step) :
    Decidable step.Selects := by
  unfold Step.Selects
  split <;> infer_instance

/-
  There are addresses for all lines that a terminal has before
  a step and after it, as there are on every machine.
-/
def InMemory
    (terminal : Terminal)
    (step : Step) : Prop :=
  terminal.session.Addressable ∧
    (terminal.take step).session.Addressable

instance
    (terminal : Terminal)
    (step : Step) :
    Decidable (terminal.InMemory step) := by
  unfold InMemory
  infer_instance

/- What steps hand on is so after a step that selects nothing. -/
theorem Sound.handsOn
    {terminal : Terminal}
    {step : Step}
    (hTerminal : terminal.Sound)
    {Holds : Session → Prop}
    (hHandedOn : Session.HandedOn Holds)
    (hSingle : step.IsSingle)
    (hPassive : ¬step.Selects)
    (hInMemory : terminal.InMemory step)
    (hHolds : Holds terminal.session) :
    Holds (terminal.take step).session := by
  rcases hTerminal with ⟨config, cols, rows, hWellFormed⟩
  cases step with
  | event event =>
      exact
        hHandedOn.handle hWellFormed.session hInMemory.2 hHolds
  | operation operation =>
      apply
        hHandedOn.perform hWellFormed _ hPassive hInMemory.1
          hInMemory.2 hHolds
      rintro bytes rfl
      exact hSingle

section

variable {Kept Holds : Session → Prop}
  {Allowed Breaks : Terminal → Step → Prop}
  (hHolds : ∀ session, Kept session → Holds session)
  (hStep :
    ∀ (terminal : Terminal) (step : Step),
      terminal.Sound →
        Kept terminal.session →
          step.IsSingle →
            Allowed terminal step →
              (Breaks terminal step ∧
                  ¬Holds (terminal.take step).session) ∨
                (¬Breaks terminal step ∧
                  Kept (terminal.take step).session))

include hHolds hStep

theorem forall_momentsOf
    {terminal : Terminal}
    {steps : List Step}
    (hTerminal : terminal.Sound)
    (hStart : Kept terminal.session)
    (hSingle : ∀ step ∈ steps, step.IsSingle)
    (hAllowed :
      ∀ moment ∈ momentsOf terminal steps,
        Allowed moment.1 moment.2) :
    ((∀ moment ∈ momentsOf terminal steps,
        Holds (moment.1.take moment.2).session) ↔
      ∀ moment ∈ momentsOf terminal steps,
        ¬Breaks moment.1 moment.2) ∧
      ((∀ moment ∈ momentsOf terminal steps,
          ¬Breaks moment.1 moment.2) →
        Kept (steps.foldl take terminal).session) := by
  induction steps generalizing terminal with
  | nil =>
      refine ⟨?_, fun _ => hStart⟩
      simp [momentsOf]
  | cons step steps hRest =>
      unfold momentsOf at hAllowed ⊢
      simp only [List.forall_mem_cons] at hAllowed hSingle ⊢
      rcases hStep terminal step hTerminal hStart hSingle.1
          hAllowed.1 with
        ⟨hBreaks, hNot⟩ | ⟨hNot, hKept⟩
      · refine ⟨⟨fun hAll => ?_, fun hAll => ?_⟩, ?_⟩
        · exact absurd hAll.1 hNot
        · exact absurd hBreaks hAll.1
        · exact fun hAll => absurd hBreaks hAll.1
      · rcases hRest (hTerminal.take step) hKept hSingle.2
            hAllowed.2 with
          ⟨hIff, hLast⟩
        refine ⟨⟨fun hAll => ?_, fun hAll => ?_⟩, ?_⟩
        · exact ⟨hNot, hIff.mp hAll.2⟩
        · exact ⟨hHolds _ hKept, hIff.mpr hAll.2⟩
        · exact fun hAll => hLast hAll.2

/-
  What every step keeps unless it breaks it holds throughout a
  run exactly if no step of the run breaks it.
-/
theorem forall_moments_iff
    {terminal : Terminal}
    {operations : List Operation}
    (hTerminal : terminal.Sound)
    (hStart : Kept terminal.session)
    (hAllowed :
      ∀ moment ∈ terminal.moments operations,
        Allowed moment.1 moment.2) :
    (∀ moment ∈ terminal.moments operations,
        Holds (moment.1.take moment.2).session) ↔
      ∀ moment ∈ terminal.moments operations,
        ¬Breaks moment.1 moment.2 := by
  induction operations generalizing terminal with
  | nil => simp [moments]
  | cons operation operations hRest =>
      unfold moments at hAllowed ⊢
      simp only [List.forall_mem_append] at hAllowed ⊢
      rcases forall_momentsOf hHolds hStep hTerminal hStart
          (fun _ => isSingle_of_mem_steps) hAllowed.1 with
        ⟨hIff, hLast⟩
      have hAfter := hTerminal.perform operation
      rw [session_foldl_take_steps] at hLast
      constructor
      · rintro ⟨hFirst, hLater⟩
        have hNone := hIff.mp hFirst
        exact
          ⟨hNone,
            (hRest hAfter (hLast hNone) hAllowed.2).mp hLater⟩
      · rintro ⟨hFirst, hLater⟩
        exact
          ⟨hIff.mpr hFirst,
            (hRest hAfter (hLast hFirst) hAllowed.2).mpr
              hLater⟩

/- Where no step breaks it, it holds when the run is over. -/
theorem holds_throughout_iff
    {terminal : Terminal}
    {operations : List Operation}
    (hTerminal : terminal.Sound)
    (hStart : Kept terminal.session)
    (hAllowed :
      ∀ moment ∈ terminal.moments operations,
        Allowed moment.1 moment.2) :
    ((∀ moment ∈ terminal.moments operations,
        Holds (moment.1.take moment.2).session) ↔
      ∀ moment ∈ terminal.moments operations,
        ¬Breaks moment.1 moment.2) ∧
      ((∀ moment ∈ terminal.moments operations,
          ¬Breaks moment.1 moment.2) →
        Holds (terminal.performAll operations).session) := by
  have hIff :=
    forall_moments_iff hHolds hStep hTerminal hStart hAllowed
  refine ⟨hIff, fun hNever => ?_⟩
  rcases session_performAll_cases terminal operations with
    hSame | ⟨moment, hMem, hLast⟩
  · rw [hSame]
    exact hHolds _ hStart
  · rw [hLast]
    exact hIff.mpr hNever moment hMem

end

end

end Terminal

end VideoTerminal
