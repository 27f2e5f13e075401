import Mathlib.Data.List.Sort
import VideoTerminal.Proofs.Checked.Writing
import VideoTerminal.Proofs.Session.Writing

/-
  Movement between tab stops.  A movement by some number of
  stops ends at the stop with that number among those ahead,
  or at the edge of the screen if there are fewer, and so two
  movements in the same direction add up.

  Main declarations:
    * `Session.stopsRight`
    * `Session.stopsLeft`
    * `Session.Visits`
    * `Session.Visits.iterate_eq`
    * `Session.CountsStops`
    * `Session.countsStops_of_inside`
-/

namespace VideoTerminal

namespace Session

------------------------------------------------------------
-- The Stops Ahead
------------------------------------------------------------

/-
  The tab stops on the right of a column, from left to right.
  One in the last column does not count.
-/
def stopsRight
    (tabStops : List Bool)
    (cols col : Nat) : List Nat :=
  (List.range cols).filter fun stop =>
    col < stop ∧ stop < cols - 1 ∧ isTabStop tabStops stop

/-
  The tab stops on the left of a column, from right to left.
  One in the first column does not count.
-/
def stopsLeft
    (tabStops : List Bool)
    (cols col : Nat) : List Nat :=
  (List.range cols).reverse.filter fun stop =>
    stop < col ∧ 0 < stop ∧ isTabStop tabStops stop

/-
  A step goes to the first of the stops ahead, or to the edge
  if there are none, and the others are ahead of that one.
-/
structure Visits
    (cols edge : Nat)
    (stops : Nat → List Nat)
    (step : Nat → Nat) : Prop where
  edge_lt : edge < cols
  stops_edge : stops edge = []
  stops_lt : ∀ col < cols, ∀ stop ∈ stops col, stop < cols
  step_eq :
    ∀ col < cols, step col = (stops col).head?.getD edge
  stops_eq :
    ∀ col < cols,
      ∀ stop rest, stops col = stop :: rest → stops stop = rest

section

variable {cols edge : Nat} {stops : Nat → List Nat}
  {step : Nat → Nat}
  (hVisits : Visits cols edge stops step)

include hVisits

/-
  On the number of steps: the first one leaves one stop less
  ahead, and at the edge no step moves on.
-/
theorem Visits.iterate_eq
    (n : Nat)
    {col : Nat}
    (hCol : col < cols) :
    iterate step (n + 1) col = (stops col)[n]?.getD edge := by
  induction n generalizing col with
  | zero =>
      rw [← List.head?_eq_getElem?]
      exact hVisits.step_eq col hCol
  | succ n hRest =>
      show iterate step (n + 1) (step col) = _
      rw [hVisits.step_eq col hCol]
      cases hStops : stops col with
      | nil =>
          rw [List.head?_nil, Option.getD_none,
            hRest hVisits.edge_lt, hVisits.stops_edge,
            List.getElem?_nil, List.getElem?_nil]
      | cons stop rest =>
          have hStop : stop < cols :=
            hVisits.stops_lt col hCol stop
              (hStops ▸ List.mem_cons_self)
          rw [List.head?_cons, Option.getD_some, hRest hStop,
            hVisits.stops_eq col hCol stop rest hStops,
            List.getElem?_cons_succ]

theorem Visits.step_lt
    {col : Nat}
    (hCol : col < cols) :
    step col < cols := by
  rw [hVisits.step_eq col hCol]
  cases hStops : stops col with
  | nil => exact hVisits.edge_lt
  | cons stop rest =>
      exact
        hVisits.stops_lt col hCol stop
          (hStops ▸ List.mem_cons_self)

theorem Visits.iterate_lt
    (n : Nat)
    {col : Nat}
    (hCol : col < cols) :
    iterate step n col < cols := by
  induction n generalizing col with
  | zero => exact hCol
  | succ n hRest => exact hRest (hVisits.step_lt hCol)

end

theorem iterate_add
    (step : Nat → Nat)
    (m n col : Nat) :
    iterate step (m + n) col =
      iterate step n (iterate step m col) := by
  induction m generalizing col with
  | zero => rw [Nat.zero_add]; rfl
  | succ m hRest =>
      rw [Nat.succ_add]
      exact hRest (step col)

------------------------------------------------------------
-- Each Step Visits the Next Stop
------------------------------------------------------------

/-
  Ahead of the first of some ordered columns are the others.
-/
theorem ahead_eq_rest
    {before : Nat → Nat → Prop}
    [Std.Irrefl before]
    [IsTrans Nat before]
    {inner : Nat → Prop}
    {stops : Nat → List Nat}
    (hOrder : ∀ col, (stops col).Pairwise before)
    (hMem :
      ∀ col stop,
        stop ∈ stops col ↔ before col stop ∧ inner stop)
    {col stop : Nat}
    {rest : List Nat}
    (hStops : stops col = stop :: rest) :
    stops stop = rest := by
  have hFirst : before col stop :=
    ((hMem col stop).mp (hStops ▸ List.mem_cons_self)).1
  rcases List.pairwise_cons.mp (hStops ▸ hOrder col) with
    ⟨hLater, hRest⟩
  apply (hOrder stop).eq_of_mem_iff hRest
  intro other
  rw [hMem]
  constructor
  · rintro ⟨hAhead, hInner⟩
    have hOther : other ∈ stops col :=
      (hMem col other).mpr
        ⟨IsTrans.trans col stop other hFirst hAhead, hInner⟩
    rw [hStops] at hOther
    rcases List.mem_cons.mp hOther with rfl | hOther
    · exact absurd hAhead (Std.Irrefl.irrefl other)
    · exact hOther
  · intro hOther
    refine ⟨hLater other hOther, ?_⟩
    exact
      ((hMem col other).mp
        (hStops ▸ List.mem_cons_of_mem _ hOther)).2

section

variable (tabStops : List Bool) (cols : Nat)

theorem mem_stopsRight_iff
    (col stop : Nat) :
    stop ∈ stopsRight tabStops cols col ↔
      col < stop ∧
        stop < cols - 1 ∧ isTabStop tabStops stop := by
  unfold stopsRight
  rw [List.mem_filter, List.mem_range, decide_eq_true_iff]
  exact and_iff_right_of_imp (by omega)

theorem mem_stopsLeft_iff
    (col stop : Nat) :
    stop ∈ stopsLeft tabStops cols col ↔
      stop < col ∧
        stop < cols ∧ 0 < stop ∧ isTabStop tabStops stop := by
  unfold stopsLeft
  rw [List.mem_filter, List.mem_reverse, List.mem_range,
    decide_eq_true_iff]
  exact and_left_comm

theorem pairwise_stopsRight
    (col : Nat) :
    (stopsRight tabStops cols col).Pairwise (· < ·) :=
  List.pairwise_lt_range.filter _

theorem pairwise_stopsLeft
    (col : Nat) :
    (stopsLeft tabStops cols col).Pairwise (· > ·) :=
  (List.pairwise_reverse.mpr List.pairwise_lt_range).filter _

theorem stopsRight_eq
    (col : Nat) :
    stopsRight tabStops cols col =
      (List.range' (col + 1) (cols - 1 - (col + 1))).filter
        (isTabStop tabStops) := by
  apply (pairwise_stopsRight tabStops cols col).eq_of_mem_iff
    ((List.pairwise_lt_range').filter _)
  intro stop
  rw [mem_stopsRight_iff, List.mem_filter, List.mem_range'_1,
    ← and_assoc]
  exact and_congr_left fun _ => by omega

theorem stopsLeft_eq
    {cols col : Nat}
    (hCol : col < cols) :
    stopsLeft tabStops cols col =
      (List.range' 1 (col - 1)).reverse.filter
        (isTabStop tabStops) := by
  apply (pairwise_stopsLeft tabStops cols col).eq_of_mem_iff
    ((List.pairwise_reverse.mpr
      List.pairwise_lt_range').filter _)
  intro stop
  rw [mem_stopsLeft_iff, List.mem_filter, List.mem_reverse,
    List.mem_range'_1, ← and_assoc, ← and_assoc]
  exact and_congr_left fun _ => by omega

end

theorem visits_nextTabStop
    (tabStops : List Bool)
    {cols : Nat}
    (hCols : 0 < cols) :
    Visits cols (cols - 1) (stopsRight tabStops cols)
      (nextTabStop tabStops cols) where
  edge_lt := Nat.sub_one_lt_of_lt hCols
  stops_edge := by
    apply List.eq_nil_iff_forall_not_mem.mpr
    intro stop hStop
    rw [mem_stopsRight_iff] at hStop
    omega
  stops_lt := by
    intro col _ stop hStop
    rw [mem_stopsRight_iff] at hStop
    omega
  step_eq := by
    intro col hCol
    rw [stopsRight_eq, List.head?_filter]
    unfold nextTabStop
    split
    · rfl
    · rename_i hLast
      have hNone : cols - 1 - (col + 1) = 0 := by omega
      rw [hNone]
      show col = cols - 1
      omega
  stops_eq := fun _ _ _ _ hStops =>
    ahead_eq_rest (pairwise_stopsRight tabStops cols)
      (mem_stopsRight_iff tabStops cols) hStops

theorem visits_previousTabStop
    (tabStops : List Bool)
    {cols : Nat}
    (hCols : 0 < cols) :
    Visits cols 0 (stopsLeft tabStops cols)
      (previousTabStop tabStops) where
  edge_lt := hCols
  stops_edge := by
    apply List.eq_nil_iff_forall_not_mem.mpr
    intro stop hStop
    rw [mem_stopsLeft_iff] at hStop
    omega
  stops_lt := by
    intro col _ stop hStop
    rw [mem_stopsLeft_iff] at hStop
    exact hStop.2.1
  step_eq := by
    intro col hCol
    rw [stopsLeft_eq tabStops hCol, List.head?_filter]
    rfl
  stops_eq := fun _ _ _ _ hStops =>
    ahead_eq_rest (pairwise_stopsLeft tabStops cols)
      (mem_stopsLeft_iff tabStops cols) hStops

------------------------------------------------------------
-- Movements of the Cursor
------------------------------------------------------------

/-
  A movement ends at the stop that it counts to, or at the
  edge, in the same row and without a pending wrap, and it
  does not fault.  Movements in the same direction add up.
-/
structure CountsStops
    (session : Session) : Prop where
  forward :
    ∀ n,
      session.tabForward (n + 1) =
        session.placed
          ((stopsRight session.tabStops session.cols
            session.cursor.col)[n]?.getD (session.cols - 1))
          session.cursor.row false
  backward :
    ∀ n,
      session.tabBackward (n + 1) =
        session.placed
          ((stopsLeft session.tabStops session.cols
            session.cursor.col)[n]?.getD 0)
          session.cursor.row false
  forwardChecked :
    ∀ n,
      session.tabForwardChecked n = some (session.tabForward n)
  backwardChecked :
    ∀ n,
      session.tabBackwardChecked n =
        some (session.tabBackward n)
  forward_add :
    ∀ m n,
      (session.tabForward m).tabForward n =
        session.tabForward (m + n)
  backward_add :
    ∀ m n,
      (session.tabBackward m).tabBackward n =
        session.tabBackward (m + n)

section

variable {session : Session}
  (hCol : session.cursor.col < session.cols)

include hCol

theorem tabForward_eq
    (n : Nat) :
    session.tabForward n =
      session.placed
        (iterate (nextTabStop session.tabStops session.cols) n
          session.cursor.col)
        session.cursor.row false := by
  have hVisits :=
    visits_nextTabStop session.tabStops
      (Nat.zero_lt_of_lt hCol)
  have hInside := hVisits.iterate_lt n hCol
  unfold tabForward
  dsimp only
  rw [Nat.min_eq_left (Nat.le_sub_one_of_lt hInside)]
  rfl

theorem tabBackward_eq
    (n : Nat) :
    session.tabBackward n =
      session.placed
        (iterate (previousTabStop session.tabStops) n
          session.cursor.col)
        session.cursor.row false := by
  have hVisits :=
    visits_previousTabStop session.tabStops
      (Nat.zero_lt_of_lt hCol)
  have hInside := hVisits.iterate_lt n hCol
  unfold tabBackward
  dsimp only
  rw [Nat.min_eq_left (Nat.le_sub_one_of_lt hInside)]
  rfl

theorem tabForward_add
    (m n : Nat) :
    (session.tabForward m).tabForward n =
      session.tabForward (m + n) := by
  have hVisits :=
    visits_nextTabStop session.tabStops
      (Nat.zero_lt_of_lt hCol)
  rw [tabForward_eq hCol, tabForward_eq hCol, iterate_add]
  exact tabForward_eq (hVisits.iterate_lt m hCol) n

theorem tabBackward_add
    (m n : Nat) :
    (session.tabBackward m).tabBackward n =
      session.tabBackward (m + n) := by
  have hVisits :=
    visits_previousTabStop session.tabStops
      (Nat.zero_lt_of_lt hCol)
  rw [tabBackward_eq hCol, tabBackward_eq hCol, iterate_add]
  exact tabBackward_eq (hVisits.iterate_lt m hCol) n

end

/-
  From every column, whatever the tab stops are, movements go
  by the number of stops.
-/
theorem countsStops_of_inside
    {session : Session}
    (hStops : session.tabStops.length = session.cols)
    (hCol : session.cursor.col < session.cols) :
    session.CountsStops := by
  have hCols := Nat.zero_lt_of_lt hCol
  have hRight := visits_nextTabStop session.tabStops hCols
  have hLeft := visits_previousTabStop session.tabStops hCols
  exact
    { forward := by
        intro n
        rw [tabForward_eq hCol, hRight.iterate_eq n hCol]
      backward := by
        intro n
        rw [tabBackward_eq hCol, hLeft.iterate_eq n hCol]
      forwardChecked := tabForwardChecked_eq hStops hCol
      backwardChecked := tabBackwardChecked_eq hStops hCol
      forward_add := tabForward_add hCol
      backward_add := tabBackward_add hCol }

/-
  Between stops, of which two are in the first and in the last
  column, with a wrap pending.
-/
def betweenStops : Session :=
  { (start 8 2 .default).placed 4 1 true with
    tabStops :=
      [true, false, true, true, true, false, true, true] }

example :
    stopsRight betweenStops.tabStops 8 4 = [6] ∧
      stopsLeft betweenStops.tabStops 8 4 = [3, 2] := by
  decide

theorem countsStops_betweenStops :
    betweenStops.tabStops.length = betweenStops.cols ∧
      betweenStops.cursor.col < betweenStops.cols ∧
        betweenStops.CountsStops :=
  ⟨rfl, by decide, countsStops_of_inside rfl (by decide)⟩

end Session

end VideoTerminal
