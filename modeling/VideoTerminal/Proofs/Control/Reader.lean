import Mathlib.Tactic.Tauto
import VideoTerminal.Control.Parser

/-
  The reader that a parser amounts to.  It has nothing but
  what it is in the middle of, while a parser has the
  parameters, the string and the pending kind of whatever came
  before it as well.  Those never show: parser and reader go
  on alike, whatever is left behind in the parser.

  Main declarations:
    * `Reader`
    * `Reader.run`
    * `Parser.reader`
    * `Parser.reader_step`
    * `Parser.reader_run`
    * `Parser.observe`
-/

namespace VideoTerminal

/-
  A reader, which keeps at most `maxStringBytes` bytes of any
  one string.
-/
structure Reader where
  state : Parser.State
  maxStringBytes : Nat
  deriving DecidableEq, Repr

namespace Reader

open VideoTerminal.Parser
  (State isControl isIntermediate isUpperControl)

------------------------------------------------------------
-- Control Characters
------------------------------------------------------------

/- Read a control character outside every string. -/
def control
    (state : State)
    (c : Char) : State × Option Event :=
  match c with
  | '\x1B' => (.escape none, none)
  | '\x18' => (.ground, none)
  | '\x1A' => (.ground, some (.execute c))
  | '\u0090' => (.string .deviceControl "", none)
  | '\u009B' => (.parameters .empty, none)
  | '\u009C' => (state, none)
  | '\u009D' => (.string .systemCommand "", none)
  | '\u009E' => (.string .privacyMessage "", none)
  | '\u009F' => (.string .applicationCommand "", none)
  | _ => (state, some (.execute c))

------------------------------------------------------------
-- Escape Sequences
------------------------------------------------------------

/- Read the character after an escape character. -/
def escape
    (c : Char) : State × Option Event :=
  match c with
  | '[' => (.parameters .empty, none)
  | ']' => (.string .systemCommand "", none)
  | 'P' => (.string .deviceControl "", none)
  | '^' => (.string .privacyMessage "", none)
  | '_' => (.string .applicationCommand "", none)
  | 'k' => (.string .title "", none)
  | '\\' => (.ground, none)
  | _ =>
    if isIntermediate c then
      (.escapeIntermediate c, none)
    else if 0x30 ≤ c.toNat ∧ c.toNat ≤ 0x7E then
      (.ground, some (.escape none c))
    else
      (.ground, none)

/-
  Read the character after an escape character that broke into
  a string.
-/
def afterInterruption
    (kind : StringKind)
    (payload : String)
    (c : Char) : State × Option Event :=
  if c = '\\' then
    (.ground, some (.string kind payload))
  else
    escape c

------------------------------------------------------------
-- Control Sequences
------------------------------------------------------------

/- Read a character inside a control sequence. -/
def sequence
    (params : Parameters)
    (c : Char) : State × Option Event :=
  if '0'.toNat ≤ c.toNat ∧ c.toNat ≤ '9'.toNat then
    (.parameters
      (params.pushDigit (c.toNat - '0'.toNat)), none)
  else if c = ';' then
    (.parameters (params.pushSeparator false), none)
  else if c = ':' then
    (.parameters (params.pushSeparator true), none)
  else if '<'.toNat ≤ c.toNat ∧ c.toNat ≤ '?'.toNat then
    (.parameters (params.pushMarker c), none)
  else if isIntermediate c then
    (.parameters (params.pushIntermediate c), none)
  else if 0x40 ≤ c.toNat ∧ c.toNat ≤ 0x7E then
    (.ground, Parser.finishSequence params c)
  else
    (.ground, none)

------------------------------------------------------------
-- Strings
------------------------------------------------------------

/- Append a character to a string if there is room for it. -/
def appendWithin
    (maxBytes : Nat)
    (payload : String)
    (c : Char) : String :=
  if payload.utf8ByteSize + c.utf8Size ≤ maxBytes then
    payload.push c
  else
    payload

/- Read a character inside a string. -/
def string
    (maxBytes : Nat)
    (kind : StringKind)
    (payload : String)
    (c : Char) : State × Option Event :=
  if c = '\x07' ∨ c = '\u009C' then
    (.ground, some (.string kind payload))
  else if c = '\x1B' then
    (.escape (some (kind, payload)), none)
  else if c = '\x18' ∨ c = '\x1A' ∨ isUpperControl c then
    control .ground c
  else
    (.string kind (appendWithin maxBytes payload c), none)

------------------------------------------------------------
-- Steps and Runs
------------------------------------------------------------

/- The state after a character, and the event it completes. -/
def next
    (maxBytes : Nat)
    (state : State)
    (c : Char) : State × Option Event :=
  match state with
  | .string kind payload => string maxBytes kind payload c
  | state =>
    if isControl c then
      control state c
    else
      match state with
      | .escape none => escape c
      | .escape (some (kind, payload)) =>
        afterInterruption kind payload c
      | .escapeIntermediate intermediate =>
        (.ground, some (.escape (some intermediate) c))
      | .parameters params => sequence params c
      | state => (state, some (.print c))

/- Read one character. -/
def step
    (reader : Reader)
    (c : Char) : Reader × Option Event :=
  let (state, event) :=
    next reader.maxStringBytes reader.state c
  ({ reader with state := state }, event)

/- Read characters one after the other. -/
def run
    (reader : Reader) :
    List Char → Reader × List Event
  | [] => (reader, [])
  | c :: chars =>
    let (middle, event) := reader.step c
    let (last, events) := middle.run chars
    (last, event.toList ++ events)

theorem run_cons
    (reader : Reader)
    (c : Char)
    (chars : List Char) :
    reader.run (c :: chars) =
      (((reader.step c).1.run chars).1,
        (reader.step c).2.toList ++
          ((reader.step c).1.run chars).2) :=
  rfl

theorem run_append
    (reader : Reader)
    (chars rest : List Char) :
    reader.run (chars ++ rest) =
      (((reader.run chars).1.run rest).1,
        (reader.run chars).2 ++
          ((reader.run chars).1.run rest).2) := by
  induction chars generalizing reader with
  | nil => rfl
  | cons c chars hRest =>
      rw [List.cons_append, run_cons, run_cons, hRest,
        List.append_assoc]

/- An escape character ends whatever has been begun. -/
theorem step_escape
    (reader : Reader) :
    ∃ interrupted,
      reader.step '\x1B' =
        ({ reader with state := .escape interrupted },
          none) := by
  unfold step next
  rcases reader with ⟨state, maxBytes⟩
  cases state with
  | string kind payload => exact ⟨some (kind, payload), rfl⟩
  | ground => exact ⟨none, rfl⟩
  | escape interrupted => exact ⟨none, rfl⟩
  | escapeIntermediate intermediate => exact ⟨none, rfl⟩
  | parameters params => exact ⟨none, rfl⟩

end Reader

namespace Parser

------------------------------------------------------------
-- What a Parser Amounts To
------------------------------------------------------------

/- The reader that goes on as the parser does. -/
def reader
    (parser : Parser) : Reader :=
  ⟨parser.state, parser.maxStringBytes⟩

/-
  The step of a reader is the one that a parser makes, when
  both have had the same in the middle.
-/
def Mirrors
    (parser : Parser)
    (after : State × Option Event)
    (result : Parser × Option Event) : Prop :=
  result.1.reader = ⟨after.1, parser.maxStringBytes⟩ ∧
    result.2 = after.2

section

variable (parser : Parser) (c : Char)

theorem mirrors_control
    {state : State}
    (hState : parser.state = state) :
    parser.Mirrors (Reader.control state c)
      (parser.control c) := by
  subst hState
  fun_cases control parser c
  case case10 =>
    -- None of the other characters is left for the reader.
    unfold Reader.control
    split <;> first | contradiction | exact ⟨rfl, rfl⟩
  all_goals exact ⟨rfl, rfl⟩

theorem mirrors_plainEscape :
    parser.Mirrors (Reader.escape c)
      (parser.plainEscape c) := by
  unfold Reader.escape plainEscape
  split
  case h_8 =>
    repeat' split
    all_goals first | contradiction | exact ⟨rfl, rfl⟩
  all_goals exact ⟨rfl, rfl⟩

theorem mirrors_sequence :
    parser.Mirrors (Reader.sequence parser.params c)
      (parser.sequence c) := by
  unfold Reader.sequence sequence
  repeat' split
  all_goals exact ⟨rfl, rfl⟩

theorem mirrors_appendChar
    {kind : StringKind}
    (hMode : parser.mode = .string kind) :
    parser.Mirrors
      (.string kind
        (Reader.appendWithin parser.maxStringBytes
          parser.string c), none)
      (parser.appendChar c, none) := by
  unfold Reader.appendWithin appendChar
  split
  all_goals
    refine ⟨?_, rfl⟩
    unfold reader state
    dsimp only
    rw [hMode]

/- What was collected of a string is forgotten by a cut. -/
theorem mirrors_stringChar
    {kind : StringKind}
    (hMode : parser.mode = .string kind) :
    parser.Mirrors
      (Reader.string parser.maxStringBytes kind
        parser.string c)
      (parser.stringChar kind c) := by
  unfold Reader.string stringChar
  split
  · exact ⟨rfl, rfl⟩
  · split
    · exact ⟨rfl, rfl⟩
    · by_cases hCancel : c = '\x18'
      · subst hCancel
        exact ⟨rfl, rfl⟩
      · by_cases hSubstitute : c = '\x1A'
        · subst hSubstitute
          exact ⟨rfl, rfl⟩
        · rw [if_neg hCancel, if_neg hSubstitute]
          by_cases hUpper : isUpperControl c
          · rw [if_pos hUpper,
              if_pos (Or.inr (Or.inr hUpper))]
            exact mirrors_control parser.endString c rfl
          · rw [if_neg hUpper, if_neg (by tauto)]
            exact mirrors_appendChar parser c hMode

theorem mirrors_interrupted
    {kind : StringKind}
    (hPending : parser.pending = some kind) :
    parser.Mirrors
      (Reader.afterInterruption kind parser.string c)
      (parser.escape c) := by
  unfold escape Reader.afterInterruption
  rw [hPending]
  dsimp only
  split
  · exact ⟨rfl, rfl⟩
  · exact
      mirrors_plainEscape
        { parser with pending := none, string := "" } c

/- One character. -/
theorem mirrors_step :
    parser.Mirrors
      (Reader.next parser.maxStringBytes parser.state c)
      (parser.step c) := by
  have hControl := @mirrors_control parser c parser.state rfl
  rcases parser with
    ⟨mode, params, string, isTruncated, pending, maxBytes⟩
  unfold Reader.next step
  cases mode with
  | string kind => exact mirrors_stringChar _ c rfl
  | ground =>
      cases hClass : isControl c with
      | true => exact hControl
      | false => exact ⟨rfl, rfl⟩
  | escapeIntermediate intermediate =>
      cases hClass : isControl c with
      | true => exact hControl
      | false => exact ⟨rfl, rfl⟩
  | parameters =>
      cases hClass : isControl c with
      | true => exact hControl
      | false => exact mirrors_sequence _ c
  | escape =>
      cases hClass : isControl c with
      | true => cases pending <;> exact hControl
      | false =>
          cases pending with
          | none => exact mirrors_plainEscape _ c
          | some kind => exact mirrors_interrupted _ c rfl

end

/- One character. -/
theorem reader_step
    (parser : Parser)
    (c : Char) :
    parser.reader.step c =
      ((parser.step c).1.reader, (parser.step c).2) := by
  rcases mirrors_step parser c with ⟨hReader, hEvent⟩
  rw [hReader, hEvent]
  rfl

/- Any number of characters, by what each of them does. -/
theorem reader_run
    (parser : Parser)
    (chars : List Char) :
    parser.reader.run chars =
      ((parser.run chars).1.reader, (parser.run chars).2) := by
  induction chars generalizing parser with
  | nil => rfl
  | cons c chars hRest =>
      rw [Reader.run_cons, reader_step, hRest]
      rfl

------------------------------------------------------------
-- What Shows of a Parser
------------------------------------------------------------

theorem run_cons
    (parser : Parser)
    (c : Char)
    (chars : List Char) :
    parser.run (c :: chars) =
      (((parser.step c).1.run chars).1,
        (parser.step c).2.toList ++
          ((parser.step c).1.run chars).2) :=
  rfl

theorem run_append
    (parser : Parser)
    (chars rest : List Char) :
    parser.run (chars ++ rest) =
      (((parser.run chars).1.run rest).1,
        (parser.run chars).2 ++
          ((parser.run chars).1.run rest).2) := by
  induction chars generalizing parser with
  | nil => rfl
  | cons c chars hRest =>
      rw [List.cons_append, run_cons, run_cons, hRest,
        List.append_assoc]

/-
  What shows of a run: what the parser is in the middle of at
  the end, and the events.
-/
def observe
    (parser : Parser)
    (chars : List Char) : State × List Event :=
  ((parser.run chars).1.state, (parser.run chars).2)

theorem observe_eq
    (parser : Parser)
    (chars : List Char) :
    parser.observe chars =
      ((parser.reader.run chars).1.state,
        (parser.reader.run chars).2) := by
  rw [reader_run]
  rfl

/- The events are those that the reader yields. -/
theorem events_run
    (parser : Parser)
    (chars : List Char) :
    (parser.run chars).2 = (parser.reader.run chars).2 := by
  rw [reader_run]

/-
  Parsers that are in the middle of the same go on alike,
  whatever else they hold.
-/
theorem step_of_reader_eq
    {parser other : Parser}
    (hSame : parser.reader = other.reader)
    (c : Char) :
    (parser.step c).1.reader = (other.step c).1.reader ∧
      (parser.step c).2 = (other.step c).2 := by
  have hStep := reader_step parser c
  rw [hSame, reader_step] at hStep
  exact
    ⟨(congrArg Prod.fst hStep).symm,
      (congrArg Prod.snd hStep).symm⟩

theorem observe_eq_of_reader_eq
    {parser other : Parser}
    (hSame : parser.reader = other.reader)
    (chars : List Char) :
    parser.observe chars = other.observe chars := by
  rw [observe_eq, observe_eq, hSame]

theorem state_eq_ground_iff
    (parser : Parser) :
    parser.state = .ground ↔ parser.mode = .ground := by
  unfold state
  split <;> simp_all

/- No step changes how much of a string is kept. -/
theorem maxStringBytes_step
    (parser : Parser)
    (c : Char) :
    (parser.step c).1.maxStringBytes =
      parser.maxStringBytes :=
  congrArg Reader.maxStringBytes (mirrors_step parser c).1

theorem maxStringBytes_run
    (parser : Parser)
    (chars : List Char) :
    (parser.run chars).1.maxStringBytes =
      parser.maxStringBytes := by
  induction chars generalizing parser with
  | nil => rfl
  | cons c chars hRest =>
      rw [run_cons]
      exact (hRest _).trans (parser.maxStringBytes_step c)

/-
  A parser that is in the middle of nothing goes on as one
  that has just started.
-/
theorem observe_append_of_ground
    {parser : Parser}
    {chars : List Char}
    {events : List Event}
    (hDone : parser.observe chars = (.ground, events))
    (rest : List Char) :
    parser.observe (chars ++ rest) =
      (((start parser.maxStringBytes).observe rest).1,
        events ++
          ((start parser.maxStringBytes).observe rest).2) := by
  rcases Prod.mk.injEq _ _ _ _ ▸ hDone with
    ⟨hState, hEvents⟩
  have hReader :
      (parser.run chars).1.reader =
        (start parser.maxStringBytes).reader := by
    unfold reader
    rw [hState, maxStringBytes_run]
    rfl
  rw [← observe_eq_of_reader_eq hReader, ← hEvents]
  unfold observe
  rw [run_append]

end Parser

end VideoTerminal
