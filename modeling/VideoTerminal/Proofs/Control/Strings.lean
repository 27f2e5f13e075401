import VideoTerminal.Proofs.Control.Sequence

/-
  The framing of strings.  Between an introducer and a
  terminator every character is data, and the string arrives
  as it was sent.  A string that is cut leaves no trace: what
  comes afterwards is read as if it had never been begun.

  Main declarations:
    * `StringKind.Introduces`
    * `Parser.isStringData`
    * `Parser.Terminates`
    * `Parser.Cuts`
    * `Reader.StepFits`
    * `Parser.run_framed_string`
-/

namespace VideoTerminal

------------------------------------------------------------
-- Introducers
------------------------------------------------------------

namespace StringKind

/- The letter that introduces a string after `ESC`. -/
def letter :
    StringKind → Char
  | deviceControl => 'P'
  | systemCommand => ']'
  | privacyMessage => '^'
  | applicationCommand => '_'
  | title => 'k'

/- The single character that introduces a string, if any. -/
def single? :
    StringKind → Option Char
  | deviceControl => some '\u0090'
  | systemCommand => some '\u009D'
  | privacyMessage => some '\u009E'
  | applicationCommand => some '\u009F'
  | title => none

/- Some characters introduce a string of a kind. -/
inductive Introduces
    (kind : StringKind) :
    List Char → Prop where
  | escape : Introduces kind ['\x1B', kind.letter]
  | single
      {c : Char}
      (hSingle : kind.single? = some c) :
      Introduces kind [c]

end StringKind

namespace Parser

------------------------------------------------------------
-- Data, Terminators and Cuts
------------------------------------------------------------

/- A character that is data inside a string. -/
def isStringData
    (c : Char) : Bool :=
  !List.contains ['\x07', '\x1B', '\x18', '\x1A'] c &&
    !isUpperControl c

/- Some characters complete a string. -/
inductive Terminates :
    List Char → Prop where
  | bell : Terminates ['\x07']
  | single : Terminates ['\u009C']
  | escape : Terminates ['\x1B', '\\']

/- Some characters end a string without completing it. -/
inductive Cuts :
    List Char → Prop where
  | cancel : Cuts ['\x18']
  | substitute : Cuts ['\x1A']
  | escape
      {c : Char}
      (hPrintable : isControl c = false)
      (hOther : c ≠ '\\') :
      Cuts ['\x1B', c]

end Parser

namespace Reader

open VideoTerminal.Parser
  (Cuts State Terminates finishSequence isControl
    isStringData isUpperControl)

------------------------------------------------------------
-- Inside a String
------------------------------------------------------------

theorem run_singleton
    (reader : Reader)
    (c : Char) :
    reader.run [c] =
      ((reader.step c).1, (reader.step c).2.toList) := by
  rw [run_cons]
  exact congrArg _ (List.append_nil _)

/- Whatever had been begun, a string begins. -/
theorem run_introducer
    (reader : Reader)
    {kind : StringKind}
    {introducer : List Char}
    (hIntroducer : kind.Introduces introducer) :
    reader.run introducer =
      ({ reader with state := .string kind "" }, []) := by
  rcases reader with ⟨state, maxBytes⟩
  cases hIntroducer with
  | escape => cases kind <;> cases state <;> rfl
  | single hSingle =>
      cases kind <;> cases hSingle <;> cases state <;> rfl

theorem string_of_isStringData
    {c : Char}
    (hData : isStringData c)
    (maxBytes : Nat)
    (kind : StringKind)
    (payload : String) :
    string maxBytes kind payload c =
      (.string kind (appendWithin maxBytes payload c),
        none) := by
  unfold isStringData at hData
  simp only [List.contains_cons, List.contains_nil,
    Bool.or_false, Bool.and_eq_true, Bool.not_eq_true',
    Bool.or_eq_false_iff, beq_eq_false_iff_ne] at hData
  rcases hData with
    ⟨⟨hBell, hEscape, hCancel, hSubstitute⟩, hUpper⟩
  have hTerminator : c ≠ '\u009C' := by
    rintro rfl
    exact absurd hUpper (by decide)
  unfold string
  simp only [hBell, hEscape, hCancel, hSubstitute, hUpper,
    hTerminator, or_self, if_false, Bool.false_eq_true]

/- Data is collected as far as there is room for it. -/
theorem run_data
    (maxBytes : Nat)
    (kind : StringKind)
    (payload : String)
    {chars : List Char}
    (hData : ∀ c ∈ chars, isStringData c) :
    run ⟨.string kind payload, maxBytes⟩ chars =
      (⟨.string kind
          (chars.foldl (appendWithin maxBytes) payload),
        maxBytes⟩, []) := by
  induction chars generalizing payload with
  | nil => rfl
  | cons c chars hRest =>
      have hFirst := hData c List.mem_cons_self
      have hOthers : ∀ other ∈ chars, isStringData other :=
        fun other hMem =>
          hData other (List.mem_cons_of_mem _ hMem)
      rw [run_cons]
      unfold step next
      dsimp only
      rw [string_of_isStringData hFirst, hRest _ hOthers]
      rfl

/- Where all of it has room, all of it is collected. -/
theorem foldl_appendWithin
    {maxBytes : Nat}
    {payload : String}
    {chars : List Char}
    (hFits :
      (payload ++ String.ofList chars).utf8ByteSize ≤
        maxBytes) :
    chars.foldl (appendWithin maxBytes) payload =
      payload ++ String.ofList chars := by
  induction chars generalizing payload with
  | nil => exact String.append_empty.symm
  | cons c chars hRest =>
      have hSplit :
          payload ++ String.ofList (c :: chars) =
            payload.push c ++ String.ofList chars := by
        rw [← List.singleton_append, String.ofList_append,
          ← String.append_assoc, String.push_eq_append]
        rfl
      rw [hSplit] at hFits ⊢
      have hRoom :
          payload.utf8ByteSize + c.utf8Size ≤ maxBytes := by
        rw [String.utf8ByteSize_append,
          String.utf8ByteSize_push] at hFits
        omega
      rw [List.foldl_cons, appendWithin, if_pos hRoom]
      exact hRest hFits

------------------------------------------------------------
-- The End of a String
------------------------------------------------------------

theorem run_terminator
    (maxBytes : Nat)
    (kind : StringKind)
    (payload : String)
    {terminator : List Char}
    (hTerminator : Terminates terminator) :
    run ⟨.string kind payload, maxBytes⟩ terminator =
      (⟨.ground, maxBytes⟩, [.string kind payload]) := by
  cases hTerminator <;> rfl

/- A printable character is read alike after either escape. -/
theorem next_interrupted
    {c : Char}
    (hPrintable : isControl c = false)
    (hOther : c ≠ '\\')
    (maxBytes : Nat)
    (interrupted : StringKind × String) :
    next maxBytes (.escape (some interrupted)) c =
      next maxBytes (.escape none) c := by
  rcases interrupted with ⟨kind, payload⟩
  unfold next
  simp only [hPrintable, Bool.false_eq_true, if_false]
  exact if_neg hOther

/- A cut is read as if there had been no string. -/
theorem run_cut
    (maxBytes : Nat)
    (kind : StringKind)
    (payload : String)
    {cut : List Char}
    (hCut : Cuts cut) :
    run ⟨.string kind payload, maxBytes⟩ cut =
      run ⟨.ground, maxBytes⟩ cut := by
  cases hCut with
  | cancel => rfl
  | substitute => rfl
  | escape hPrintable hOther =>
      have hSame :=
        next_interrupted hPrintable hOther maxBytes
          (kind, payload)
      calc
        run ⟨.string kind payload, maxBytes⟩ ['\x1B', _] =
            run ⟨.escape (some (kind, payload)), maxBytes⟩
              [_] :=
          rfl
        _ = run ⟨.escape none, maxBytes⟩ [_] := by
          rw [run_singleton, run_singleton]
          unfold step
          dsimp only
          rw [hSame]
        _ = run ⟨.ground, maxBytes⟩ ['\x1B', _] := rfl

/- A cut completes no string. -/
theorem string_notMem_of_cuts
    {cut : List Char}
    (hCut : Cuts cut)
    (maxBytes : Nat)
    (kind : StringKind)
    (payload : String) :
    .string kind payload ∉
      (run ⟨.ground, maxBytes⟩ cut).2 := by
  have hEscape :
      ∀ c, (escape c).2 ≠ some (.string kind payload) := by
    intro c
    unfold escape
    repeat' split
    all_goals simp
  cases hCut with
  | cancel => exact List.not_mem_nil
  | substitute =>
      show _ ∉ [Event.execute '\x1A']
      simp
  | @escape c hPrintable hOther =>
      have hNext :
          next maxBytes (.escape none) c = escape c := by
        unfold next
        simp only [hPrintable, Bool.false_eq_true, if_false]
      show _ ∉ (run ⟨.escape none, maxBytes⟩ [c]).2
      rw [run_singleton]
      unfold step
      dsimp only
      rw [hNext, Option.mem_toList]
      exact hEscape c

------------------------------------------------------------
-- The Length of Strings
------------------------------------------------------------

/- What is held of a string is no longer than allowed. -/
def Fits
    (maxBytes : Nat) :
    State → Prop
  | .string _ payload => payload.utf8ByteSize ≤ maxBytes
  | .escape (some (_, payload)) =>
    payload.utf8ByteSize ≤ maxBytes
  | _ => True

/-
  After a step, what is held of a string and what arrives of
  one is no longer than allowed.
-/
structure StepFits
    (maxBytes : Nat)
    (after : State × Option Event) : Prop where
  state : Fits maxBytes after.1
  event :
    ∀ kind payload,
      after.2 = some (.string kind payload) →
        payload.utf8ByteSize ≤ maxBytes

theorem utf8ByteSize_appendWithin_le
    {maxBytes : Nat}
    {payload : String}
    (hPayload : payload.utf8ByteSize ≤ maxBytes)
    (c : Char) :
    (appendWithin maxBytes payload c).utf8ByteSize ≤
      maxBytes := by
  unfold appendWithin
  split
  · rw [String.utf8ByteSize_push]
    assumption
  · exact hPayload

section

variable {maxBytes : Nat}

theorem stepFits_control
    {state : State}
    (hState : Fits maxBytes state)
    (c : Char) :
    StepFits maxBytes (control state c) := by
  unfold control
  split <;> constructor <;> simp_all [Fits]

theorem stepFits_escape
    (c : Char) :
    StepFits maxBytes (escape c) := by
  unfold escape
  repeat' split
  all_goals constructor <;> simp [Fits]

theorem stepFits_sequence
    (params : Parameters)
    (c : Char) :
    StepFits maxBytes (sequence params c) := by
  unfold sequence
  repeat' split
  all_goals constructor <;> simp [Fits, finishSequence]

theorem stepFits_string
    {payload : String}
    (hPayload : payload.utf8ByteSize ≤ maxBytes)
    (kind : StringKind)
    (c : Char) :
    StepFits maxBytes (string maxBytes kind payload c) := by
  have hMore := utf8ByteSize_appendWithin_le hPayload c
  have hGround : Fits maxBytes .ground := trivial
  unfold string
  split
  · constructor <;> simp_all [Fits]
  · split
    · constructor <;> simp_all [Fits]
    · split
      · exact stepFits_control hGround c
      · constructor <;> simp_all [Fits]

theorem stepFits_next
    {state : State}
    (hState : Fits maxBytes state)
    (c : Char) :
    StepFits maxBytes (next maxBytes state c) := by
  have hControl := stepFits_control hState c
  unfold next
  split
  · exact stepFits_string hState _ c
  · split
    · exact hControl
    · split
      · exact stepFits_escape c
      · unfold afterInterruption
        split
        · constructor <;> simp_all [Fits]
        · exact stepFits_escape c
      · constructor <;> simp [Fits]
      · exact stepFits_sequence _ c
      · exact ⟨hState, nofun⟩

/- No string of a run is longer than allowed. -/
theorem utf8ByteSize_le_of_mem_run
    {state : State}
    (hState : Fits maxBytes state)
    {chars : List Char}
    {kind : StringKind}
    {payload : String}
    (hMem :
      .string kind payload ∈
        (run ⟨state, maxBytes⟩ chars).2) :
    payload.utf8ByteSize ≤ maxBytes := by
  induction chars generalizing state with
  | nil => cases hMem
  | cons c chars hRest =>
      have hNext := stepFits_next hState c
      rw [run_cons] at hMem
      rcases List.mem_append.mp hMem with hFirst | hLater
      · exact
          hNext.event kind payload
            (Option.mem_toList.mp hFirst)
      · exact hRest hNext.state hLater

end

end Reader

namespace Parser

------------------------------------------------------------
-- Whole Strings
------------------------------------------------------------

/-
  Whatever the parser is in the middle of, and whatever it has
  left behind, it reads a string that has room as a single
  event, with control characters as part of the data.  A
  string that is cut completes nothing, and from the cut on
  all is read as by a parser that has just started.  No string
  that arrives is longer than allowed.
-/
theorem run_framed_string
    (parser : Parser)
    {kind : StringKind}
    {introducer chars : List Char}
    (hIntroducer : kind.Introduces introducer)
    (hData : ∀ c ∈ chars, isStringData c) :
    ((String.ofList chars).utf8ByteSize ≤
        parser.maxStringBytes →
      ∀ terminator,
        Terminates terminator →
          parser.observe (introducer ++ chars ++ terminator) =
            (.ground, [.string kind (.ofList chars)])) ∧
      (∀ cut,
        Cuts cut →
          (∀ kind payload,
            .string kind payload ∉
              (parser.observe
                (introducer ++ chars ++ cut)).2) ∧
            ∀ rest,
              parser.observe
                  (introducer ++ chars ++ cut ++ rest) =
                (start parser.maxStringBytes).observe
                  (cut ++ rest)) ∧
      ∀ input kind payload,
        .string kind payload ∈
            ((start parser.maxStringBytes).observe input).2 →
          payload.utf8ByteSize ≤ parser.maxStringBytes := by
  have hStart :
      (start parser.maxStringBytes).reader =
        ⟨.ground, parser.maxStringBytes⟩ :=
    rfl
  have hCollected :
      parser.reader.run (introducer ++ chars) =
        (⟨.string kind
            (chars.foldl
              (Reader.appendWithin parser.maxStringBytes) ""),
          parser.maxStringBytes⟩, []) := by
    rw [Reader.run_append,
      Reader.run_introducer _ hIntroducer]
    exact
      Reader.run_data parser.maxStringBytes kind "" hData
  have hCut :
      ∀ cut,
        Cuts cut →
          parser.reader.run (introducer ++ chars ++ cut) =
            (start parser.maxStringBytes).reader.run cut := by
    intro cut hCut
    rw [Reader.run_append, hCollected]
    exact Reader.run_cut _ kind _ hCut
  refine ⟨?_, ?_, ?_⟩
  · intro hFits terminator hTerminator
    have hAll :
        chars.foldl
            (Reader.appendWithin parser.maxStringBytes) "" =
          String.ofList chars := by
      rw [Reader.foldl_appendWithin] <;>
        rw [String.empty_append]
      exact hFits
    rw [observe_eq, Reader.run_append, hCollected, hAll,
      Reader.run_terminator _ kind _ hTerminator]
    rfl
  · intro cut hEnds
    refine ⟨?_, ?_⟩
    · intro kind payload
      rw [observe_eq, hCut cut hEnds]
      exact
        Reader.string_notMem_of_cuts hEnds _ kind payload
    · intro rest
      rw [observe_eq, observe_eq, Reader.run_append,
        hCut cut hEnds, Reader.run_append]
  · intro input kind payload hMem
    rw [observe_eq] at hMem
    exact
      Reader.utf8ByteSize_le_of_mem_run
        (show Reader.Fits _ State.ground from trivial) hMem

/- A window title of four characters in five bytes. -/
def fourCharacters : List Char :=
  ['a', '\n', 'é', '\x7F']

/-
  A parser after a string that was cancelled behind an escape
  character.  It holds the string still.
-/
def cancelled : Parser where
  mode := .ground
  params := .empty
  string := "0;a"
  isTruncated := false
  pending := some .systemCommand
  maxStringBytes := 5

/-
  For one, a title where a command is broken off, completed
  and cut.
-/
theorem run_framed_title :
    cancelled.observe
          (['\x1B', 'k'] ++ fourCharacters ++
            ['\x1B', '\\']) =
        (.ground, [.string .title (.ofList fourCharacters)]) ∧
      cancelled.observe
          (['\x1B', 'k'] ++ fourCharacters ++ ['\x1B', 'x'] ++
            ['\x1B', '\\']) =
        (start 5).observe
          (['\x1B', 'x'] ++ ['\x1B', '\\']) := by
  have hFramed :=
    run_framed_string cancelled
      (show StringKind.title.Introduces ['\x1B', 'k'] from
        .escape)
      (List.all_eq_true.mp
        (show fourCharacters.all isStringData by decide))
  exact
    ⟨hFramed.1 (by decide) _ .escape,
      (hFramed.2.1 _ (.escape (by decide) (by decide))).2 _⟩

end Parser

end VideoTerminal
