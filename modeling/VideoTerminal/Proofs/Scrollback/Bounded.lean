import VideoTerminal.Proofs.Scrollback

/-
  The ring of a history refines a plain list of bounded
  length.  The same calls, made of both, leave the same lines
  and are answered alike, in whichever order the ring grows,
  turns over, gives lines back and is emptied.

  Main declarations:
    * `Scrollback.Call`
    * `Scrollback.Call.onRing`
    * `Scrollback.Call.onList`
    * `Scrollback.Call.Fits`
    * `Scrollback.Shows`
    * `Scrollback.refines_bounded_list`
-/

namespace VideoTerminal

namespace Scrollback

------------------------------------------------------------
-- Calls
------------------------------------------------------------

/- What a history is asked to do. -/
inductive Call where
  | push (line : Line) (blank : Cell)
  | pop (line : Line)
  | clear
  | resizeCols (cols : Nat) (blank : Cell)
  deriving DecidableEq, Repr

namespace Call

/- Make a call of a ring.  It may be answered by a line. -/
def onRing
    (ring : Scrollback) :
    Call → Scrollback × Option Line
  | .push line blank =>
    let (next, recycled) := ring.push line blank
    (next, some recycled)
  | .pop line =>
    match ring.pop? line with
    | some (next, newest) => (next, some newest)
    | none => (ring, none)
  | .clear => (ring.clear, none)
  | .resizeCols cols blank =>
    (ring.resizeCols cols blank, none)

/-
  Make a call of a list of at most `capacity` lines, which has
  the oldest line in front.
-/
def onList
    (capacity : Nat)
    (lines : List Line) :
    Call → List Line × Option Line
  | .push line blank =>
    let longer := lines ++ [line]
    (if capacity < longer.length then longer.tail else longer,
      some (.ofBlank line.width blank))
  | .pop _ => (lines.dropLast, lines.getLast?)
  | .clear => ([], none)
  | .resizeCols cols blank =>
    (lines.map (·.resize cols blank), none)

/- The line of a call has the given width. -/
def Fits
    (cols : Nat) : Call → Prop
  | .push line _ => line.width = cols
  | .pop line => line.width = cols
  | .clear => True
  | .resizeCols _ _ => True

/- The width of the lines after a call. -/
def colsAfter
    (cols : Nat) : Call → Nat
  | .resizeCols cols' _ => cols'
  | _ => cols

/- Make calls one after the other, and collect the answers. -/
def runAll
    {σ : Type}
    (make : σ → Call → σ × Option Line)
    (state : σ) :
    List Call → σ × List (Option Line)
  | [] => (state, [])
  | call :: calls =>
    let (next, answer) := make state call
    let (last, answers) := runAll make next calls
    (last, answer :: answers)

/-
  The lines of some calls have the width of their time, which
  is `cols` at first.
-/
def AllFit
    (cols : Nat) : List Call → Prop
  | [] => True
  | call :: calls =>
    call.Fits cols ∧ AllFit (call.colsAfter cols) calls

end Call

------------------------------------------------------------
-- A Ring That Shows a List
------------------------------------------------------------

/-
  The ring retains the lines of the list, all its slots have
  one width, and its counts fit.
-/
structure Shows
    (capacity cols : Nat)
    (lines : List Line)
    (ring : Scrollback) : Prop where
  aligned : ring.Aligned
  capacity_eq : ring.capacity = capacity
  widths : ∀ line ∈ ring.slots, line.width = cols
  retained_eq : ring.retained = lines.reverse

theorem shows_empty
    (capacity cols : Nat) :
    Shows capacity cols [] (empty capacity) where
  aligned := aligned_empty capacity
  capacity_eq := rfl
  widths := by simp [empty]
  retained_eq := rfl

namespace Shows

variable {capacity cols : Nat} {lines : List Line}
  {ring : Scrollback}

theorem size_eq
    (hRing : Shows capacity cols lines ring) :
    ring.size = lines.length := by
  rw [← hRing.aligned.length_retained, hRing.retained_eq,
    List.length_reverse]

theorem length_le
    (hRing : Shows capacity cols lines ring) :
    lines.length ≤ capacity := by
  rw [← hRing.size_eq, ← hRing.capacity_eq]
  exact hRing.aligned.size_le_capacity

/-
  Going over the capacity by one line, a list without its
  oldest line is the newest part of it.
-/
private theorem reverse_bounded
    (hLength : lines.length ≤ capacity)
    (line : Line) :
    (if capacity < (lines ++ [line]).length then
        (lines ++ [line]).tail
      else
        lines ++ [line]).reverse =
      (line :: lines.reverse).take capacity := by
  have hReverse :
      line :: lines.reverse = (lines ++ [line]).reverse := by
    simp
  rw [hReverse, List.take_reverse]
  split
  · rename_i hOver
    have hDropped :
        (lines ++ [line]).length - capacity = 1 := by
      rw [List.length_append] at hOver ⊢
      simp only [List.length_singleton] at hOver ⊢
      omega
    rw [hDropped, List.drop_one]
  · rename_i hRoom
    rw [Nat.sub_eq_zero_of_le (Nat.not_lt.mp hRoom),
      List.drop_zero]

theorem push
    (hRing : Shows capacity cols lines ring)
    {line : Line}
    (hLine : line.width = cols)
    (blank : Cell) :
    Shows capacity cols
        ((Call.push line blank).onList capacity lines).1
        (ring.push line blank).1 ∧
      (ring.push line blank).2 =
        .ofBlank line.width blank := by
  refine ⟨⟨?_, ?_, ?_, ?_⟩, ?_⟩
  · exact hRing.aligned.push line blank
  · rw [capacity_push, hRing.capacity_eq]
  · intro other hMem
    rcases mem_slots_push hMem with hOld | hNew
    · exact hRing.widths other hOld
    · exact hNew ▸ hLine
  · rw [hRing.aligned.retained_push, hRing.retained_eq,
      hRing.capacity_eq]
    exact (reverse_bounded hRing.length_le line).symm
  · rw [snd_push hRing.widths hLine, hLine]

/- The list before a line is taken out ends with that line. -/
theorem pop
    (hRing : Shows capacity cols lines ring)
    {line : Line}
    (hLine : line.width = cols)
    {next : Scrollback}
    {newest : Line}
    (hPop : ring.pop? line = some (next, newest)) :
    Shows capacity cols lines.dropLast next ∧
      lines.getLast? = some newest := by
  have hRetained := hRing.aligned.retained_eq_cons hPop
  rw [hRing.retained_eq] at hRetained
  have hLines : lines = next.retained.reverse ++ [newest] := by
    rw [← List.reverse_reverse lines, hRetained,
      List.reverse_cons]
  refine ⟨⟨?_, ?_, ?_, ?_⟩, ?_⟩
  · exact hRing.aligned.pop? hPop
  · rw [capacity_pop? hPop, hRing.capacity_eq]
  · intro other hMem
    rcases mem_slots_pop? hPop hMem with hOld | hGiven
    · exact hRing.widths other hOld
    · exact hGiven ▸ hLine
  · rw [hLines, List.dropLast_concat, List.reverse_reverse]
  · rw [hLines, List.getLast?_concat]

theorem resizeCols
    (hRing : Shows capacity cols lines ring)
    (cols' : Nat)
    (blank : Cell) :
    Shows capacity cols'
      (lines.map (·.resize cols' blank))
      (ring.resizeCols cols' blank) where
  aligned := hRing.aligned.resizeCols cols' blank
  capacity_eq := hRing.capacity_eq
  widths := by
    intro line hMem
    rcases Array.mem_map.mp hMem with ⟨old, hOld, hEq⟩
    rw [← hEq, Line.width_resize]
  retained_eq := by
    rw [retained_resizeCols, hRing.retained_eq,
      List.map_reverse]

------------------------------------------------------------
-- Runs of Calls
------------------------------------------------------------

/- A call keeps ring and list together, and they answer alike. -/
theorem call
    (hRing : Shows capacity cols lines ring)
    {call : Call}
    (hFits : call.Fits cols) :
    Shows capacity (call.colsAfter cols)
        (call.onList capacity lines).1
        (call.onRing ring).1 ∧
      (call.onRing ring).2 = (call.onList capacity lines).2 := by
  cases call with
  | push line blank =>
      rcases hRing.push hFits blank with ⟨hNext, hRecycled⟩
      exact ⟨hNext, congrArg some hRecycled⟩
  | pop line =>
      unfold Call.onRing Call.onList
      dsimp only [Call.colsAfter]
      cases hPop : ring.pop? line with
      | some popped =>
          rcases hRing.pop hFits hPop with ⟨hNext, hNewest⟩
          exact ⟨hNext, hNewest.symm⟩
      | none =>
          have hSize :=
            (hRing.aligned.pop?_eq_none_iff line).mp hPop
          have hEmpty : lines = [] := by
            apply List.eq_nil_of_length_eq_zero
            rw [← hRing.size_eq, hSize]
          subst hEmpty
          exact ⟨hRing, rfl⟩
  | clear =>
      have hCleared : ring.clear = empty capacity :=
        congrArg empty hRing.capacity_eq
      refine ⟨?_, rfl⟩
      show Shows capacity cols [] ring.clear
      rw [hCleared]
      exact shows_empty capacity cols
  | resizeCols cols' blank =>
      exact ⟨hRing.resizeCols cols' blank, rfl⟩

theorem runAll
    (hRing : Shows capacity cols lines ring)
    {calls : List Call}
    (hCalls : Call.AllFit cols calls) :
    (∃ cols',
      Shows capacity cols'
        (Call.runAll (Call.onList capacity) lines calls).1
        (Call.runAll Call.onRing ring calls).1) ∧
      (Call.runAll Call.onRing ring calls).2 =
        (Call.runAll (Call.onList capacity) lines calls).2 := by
  induction calls generalizing cols lines ring with
  | nil => exact ⟨⟨cols, hRing⟩, rfl⟩
  | cons call calls hRest =>
      rcases hCalls with ⟨hFits, hOthers⟩
      rcases hRing.call hFits with ⟨hNext, hAnswer⟩
      rcases hRest hNext hOthers with ⟨hLast, hAnswers⟩
      exact
        ⟨hLast, List.cons_eq_cons.mpr ⟨hAnswer, hAnswers⟩⟩

end Shows

/-
  Calls on an empty ring are answered as those on an empty
  list of the same bound, and the ring then shows that list.
  The slot of a line it retains is never looked for in front
  of the first one or modulo zero.
-/
theorem refines_bounded_list
    (capacity cols : Nat)
    (calls : List Call)
    (hCalls : Call.AllFit cols calls) :
    let ran := Call.runAll Call.onRing (empty capacity) calls
    let kept := Call.runAll (Call.onList capacity) [] calls
    ran.2 = kept.2 ∧
      ran.1.toList = kept.1 ∧
      (∀ age, ran.1.get? age = kept.1.reverse[age]?) ∧
      ran.1.size = kept.1.length ∧
      ran.1.size ≤ capacity ∧
      ∀ age, age < ran.1.size →
        age + 1 ≤ ran.1.head ∧
          0 < ran.1.capacity ∧
          ran.1.slot age < ran.1.slots.size := by
  intro ran kept
  rcases (shows_empty capacity cols).runAll hCalls with
    ⟨⟨cols', hShows⟩, hAnswers⟩
  have hRing := hShows.aligned
  have hCapacity := hShows.capacity_eq
  refine ⟨hAnswers, ?_, ?_, hShows.size_eq, ?_, ?_⟩
  · rw [toList_eq_reverse_retained, hShows.retained_eq,
      List.reverse_reverse]
  · intro age
    rw [← hRing.getElem?_retained, hShows.retained_eq]
  · rw [hShows.size_eq]
    exact hShows.length_le
  · intro age hAge
    have hHead := hRing.size_le_head
    have hBound := hRing.size_le_capacity
    refine ⟨?_, ?_, hRing.slot_lt hAge⟩
    · exact Nat.le_trans hAge hHead
    · exact Nat.lt_of_lt_of_le (Nat.zero_lt_of_lt hAge) hBound

/- A line of equal letters. -/
def letters
    (cols : Nat)
    (char : Char) : Line :=
  .ofBlank cols (.styled char .plain 7 0)

/-
  Two slots are filled and turned over, a line is taken back
  so that its slot holds another one, and the rest widened.
-/
def turningCalls : List Call :=
  let blank := Cell.blank 7 0
  [.push (letters 2 'a') blank, .push (letters 2 'b') blank,
    .push (letters 2 'c') blank, .pop (letters 2 'd'),
    .resizeCols 3 blank, .push (letters 3 'e') blank]

theorem refines_after_turn :
    Call.AllFit 2 turningCalls ∧
      (Call.runAll Call.onRing (empty 2) turningCalls).1.toList =
        [(letters 2 'b').resize 3 (.blank 7 0),
          letters 3 'e'] := by
  have hFit : Call.AllFit 2 turningCalls :=
    ⟨rfl, rfl, rfl, rfl, trivial, rfl, trivial⟩
  have hRefines := refines_bounded_list 2 2 turningCalls hFit
  exact ⟨hFit, hRefines.2.1⟩

end Scrollback

end VideoTerminal
