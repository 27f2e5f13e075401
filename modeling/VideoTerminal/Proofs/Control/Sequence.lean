import VideoTerminal.Proofs.Control.Parameters
import VideoTerminal.Proofs.Control.Reader

/-
  The grammar of control sequences, and what the parser makes
  of one, whatever it was in the middle of.  Control
  characters may be strewn in: they act at once, and the
  sequence is read as if they were not there.

  Main declarations:
    * `ControlSequence`
    * `ControlSequence.Conveys`
    * `Parser.isInline`
    * `Reader.Silent`
    * `Reader.Silent.run_strewn`
    * `Parser.run_strewn_sequence`
-/

namespace VideoTerminal

------------------------------------------------------------
-- Control Sequences
------------------------------------------------------------

/- The forms of the introducer: `ESC [` and `U+009B`. -/
inductive Introducer where
  | escape
  | single
  deriving DecidableEq, Repr

namespace Introducer

/- The character that it begins with. -/
def lead :
    Introducer → Char
  | escape => '\x1B'
  | single => '\u009B'

/- The characters after that. -/
def rest :
    Introducer → List Char
  | escape => ['[']
  | single => []

end Introducer

/- A control sequence as it is written. -/
structure ControlSequence where
  introducer : Introducer
  marker : Option Char
  parameters : ParameterText
  intermediate : Option Char
  final : Char
  isMarker : ∀ c ∈ marker, c ∈ ['<', '=', '>', '?']
  isIntermediate :
    ∀ c ∈ intermediate, Parser.isIntermediate c
  isFinal : 0x40 ≤ final.toNat ∧ final.toNat ≤ 0x7E

namespace ControlSequence

/- What is between the lead and the final character. -/
def body
    (sequence : ControlSequence) : List Char :=
  sequence.introducer.rest ++ sequence.marker.toList ++
    sequence.parameters.chars ++ sequence.intermediate.toList

/- The parameters that a reader of the sequence keeps. -/
def kept
    (sequence : ControlSequence) : Parameters :=
  { sequence.parameters.chars.foldl Parameters.read
      { Parameters.empty with marker := sequence.marker } with
    intermediate := sequence.intermediate }

/- They are the first ones of those that are written. -/
theorem keeps_kept
    (sequence : ControlSequence) :
    sequence.kept.Keeps sequence.parameters.written := by
  have hRead :=
    (Parameters.keeps_empty sequence.marker).readAll_chars
      sequence.parameters
  exact
    ⟨hRead.started_eq, hRead.values_eq, hRead.present_eq,
      hRead.attached_eq⟩

theorem items_kept
    (sequence : ControlSequence) :
    sequence.kept.items =
      sequence.parameters.written.take Parameters.maxCount :=
  sequence.keeps_kept.items_eq

end ControlSequence

------------------------------------------------------------
-- What a Sequence Conveys
------------------------------------------------------------

namespace ParameterText

/- The number of parameters that the text starts. -/
def count
    (text : ParameterText) : Nat :=
  if text.chars = [] then 0 else text.others.length + 1

/- The numeral of a parameter, if it is there. -/
def numeral?
    (text : ParameterText) :
    Nat → Option Numeral
  | 0 => some text.first
  | index + 1 => text.others[index]?.map Prod.snd

/- A parameter follows a colon. -/
def followsColon
    (text : ParameterText) :
    Nat → Bool
  | 0 => false
  | index + 1 => text.others[index]?.any Prod.fst

/- The number of parameters attached to a parameter. -/
def attached
    (text : ParameterText)
    (index : Nat) : Nat :=
  ((text.others.drop index).takeWhile Prod.fst).length

end ParameterText

/-
  Some parameters are those of a sequence, of which the first
  ones count.
-/
structure ControlSequence.Conveys
    (sequence : ControlSequence)
    (params : Parameters) : Prop where
  length_eq :
    params.length =
      min sequence.parameters.count Parameters.maxCount
  get?_eq :
    ∀ index < Parameters.maxCount,
      params.get? index =
        (sequence.parameters.numeral? index).bind
          Numeral.value?
  isSub_eq :
    ∀ index < Parameters.maxCount,
      params.isSub index =
        sequence.parameters.followsColon index
  subCount_eq :
    ∀ index,
      params.subCount index =
        min (sequence.parameters.attached index)
          (Parameters.maxCount - 1 - index)
  marker_eq : params.marker = sequence.marker
  intermediate_eq :
    params.intermediate = sequence.intermediate

namespace ParameterText

theorem length_written
    (text : ParameterText) :
    text.written.length = text.count := by
  unfold written count
  split
  · rfl
  · rw [List.length_cons, List.length_map]

/- The empty text has a single numeral without digits. -/
theorem of_chars_eq_nil
    {text : ParameterText}
    (hEmpty : text.chars = []) :
    text.first.digits = [] ∧ text.others = [] := by
  unfold chars at hEmpty
  rcases List.append_eq_nil_iff.mp hEmpty with
    ⟨hFirst, hOthers⟩
  refine ⟨hFirst, ?_⟩
  cases hItems : text.others with
  | nil => rfl
  | cons item others =>
      rw [hItems, List.flatMap_cons] at hOthers
      cases hOthers

theorem getElem?_written
    (text : ParameterText)
    (index : Nat) :
    (text.written[index]?).bind Parameter.value =
        (text.numeral? index).bind Numeral.value? ∧
      (text.written[index]?).any Parameter.sub =
        text.followsColon index := by
  unfold written
  split
  · rename_i hEmpty
    rcases of_chars_eq_nil hEmpty with ⟨hFirst, hOthers⟩
    cases index with
    | zero =>
        simp [numeral?, followsColon, Numeral.value?, hFirst]
    | succ index => simp [numeral?, followsColon, hOthers]
  · cases index with
    | zero => exact ⟨rfl, rfl⟩
    | succ index =>
        rw [List.getElem?_cons_succ, List.getElem?_map]
        dsimp only [numeral?, followsColon]
        cases text.others[index]? with
        | none => exact ⟨rfl, rfl⟩
        | some item => exact ⟨rfl, rfl⟩

/- The parameters attached to one are those up to the next. -/
theorem takeWhile_written
    (text : ParameterText)
    (index : Nat) :
    ((text.written.drop (index + 1)).takeWhile
        Parameter.sub).length =
      text.attached index := by
  unfold written attached
  split
  · rename_i hEmpty
    rw [(of_chars_eq_nil hEmpty).2, List.drop_nil,
      List.drop_nil]
    rfl
  · rw [List.drop_succ_cons, ← List.map_drop,
      List.takeWhile_map, List.length_map]
    rfl

end ParameterText

theorem ParameterText.of_mem_chars
    {text : ParameterText}
    {c : Char}
    (hMem : c ∈ text.chars) :
    c.isDigit ∨ c = ';' ∨ c = ':' := by
  rcases List.mem_append.mp hMem with hFirst | hOthers
  · exact Or.inl (text.first.isDigit c hFirst)
  · rcases List.mem_flatMap.mp hOthers with
      ⟨⟨sub, numeral⟩, _, hItem⟩
    rcases List.mem_cons.mp hItem with hSeparator | hDigit
    · rw [hSeparator]
      cases sub with
      | false => exact Or.inr (Or.inl rfl)
      | true => exact Or.inr (Or.inr rfl)
    · exact Or.inl (numeral.isDigit c hDigit)

/- The parameters that are kept are those of the sequence. -/
theorem ControlSequence.conveys_kept
    (sequence : ControlSequence) :
    sequence.Conveys sequence.kept where
  length_eq := by
    rw [sequence.keeps_kept.length_eq,
      ParameterText.length_written]
  get?_eq := by
    intro index hIndex
    rw [← (ParameterText.getElem?_written _ index).1,
      Parameters.get?_eq, sequence.items_kept,
      List.getElem?_take_of_lt hIndex]
  isSub_eq := by
    intro index hIndex
    rw [← (ParameterText.getElem?_written _ index).2,
      Parameters.isSub_eq, sequence.items_kept,
      List.getElem?_take_of_lt hIndex]
  subCount_eq := by
    intro index
    rw [← ParameterText.takeWhile_written, Nat.min_comm,
      Parameters.subCount_eq, sequence.items_kept,
      List.drop_take, ← List.take_takeWhile,
      List.length_take, Nat.sub_sub, Nat.add_comm 1]
  marker_eq :=
    (Parameters.qualifiers_readAll _ _).1
  intermediate_eq := rfl

/- Neither marker nor intermediate character is lost. -/
theorem ControlSequence.finishSequence_kept
    (sequence : ControlSequence) :
    Parser.finishSequence sequence.kept sequence.final =
      (Action.lookup? sequence.final sequence.marker
        sequence.intermediate).map
          (.sequence · sequence.kept) := by
  unfold Parser.finishSequence
  rw [sequence.conveys_kept.marker_eq,
    sequence.conveys_kept.intermediate_eq]

namespace Parser

------------------------------------------------------------
-- Control Characters within a Sequence
------------------------------------------------------------

/-
  A control character that neither introduces anything nor
  cancels what has been begun.
-/
def isInline
    (c : Char) : Bool :=
  isControl c &&
    !List.contains
      ['\x1B', '\x18', '\x1A', '\u0090', '\u009B',
        '\u009D', '\u009E', '\u009F']
      c

/-
  The events of the control characters among some characters.
  The string terminator is none of them.
-/
def inlineEvents
    (chars : List Char) : List Event :=
  ((chars.filter isInline).filter (· != '\u009C')).map
    .execute

/- The characters that control sequences are made of. -/
theorem isControl_eq_false
    {c : Char}
    (hPrintable : 0x20 ≤ c.toNat ∧ c.toNat ≤ 0x7E) :
    isControl c = false := by
  unfold isControl isUpperControl
  have hDelete : c ≠ '\x7F' := by
    rintro rfl
    exact absurd hPrintable.2 (by decide)
  rw [decide_eq_false (by omega), decide_eq_false (by omega),
    beq_false_of_ne hDelete]
  rfl

/- A string is being collected. -/
def State.IsString :
    State → Prop
  | .string _ _ => True
  | _ => False

end Parser

namespace Reader

open VideoTerminal.Parser
  (State finishSequence inlineEvents isControl isInline
    isIntermediate)

theorem control_of_isInline
    {c : Char}
    (hInline : isInline c)
    (state : State) :
    control state c =
      (state,
        if c = '\u009C' then
          none
        else
          some (.execute c)) := by
  unfold control
  split
  · cases hInline
  · cases hInline
  · cases hInline
  · cases hInline
  · cases hInline
  · rfl
  · cases hInline
  · cases hInline
  · cases hInline
  · rename_i hTerminator _ _ _
    rw [if_neg hTerminator]

theorem next_of_isInline
    {state : State}
    (hOutside : ¬state.IsString)
    {c : Char}
    (hInline : isInline c)
    (maxBytes : Nat) :
    next maxBytes state c =
      (state,
        if c = '\u009C' then
          none
        else
          some (.execute c)) := by
  have hControl : isControl c :=
    (Bool.and_eq_true_iff.mp hInline).1
  have hActs := control_of_isInline hInline
  unfold next
  cases state with
  | string kind payload => exact absurd trivial hOutside
  | ground => exact (if_pos hControl).trans (hActs _)
  | escape interrupted =>
      exact (if_pos hControl).trans (hActs _)
  | escapeIntermediate intermediate =>
      exact (if_pos hControl).trans (hActs _)
  | parameters params =>
      exact (if_pos hControl).trans (hActs _)

/-
  Reading some characters outside of strings, none of which
  completes anything.
-/
inductive Silent
    (maxBytes : Nat) :
    State → List Char → State → Prop where
  | nil
      {state : State}
      (hOutside : ¬state.IsString) :
      Silent maxBytes state [] state
  | cons
      {state middle last : State}
      {c : Char}
      {chars : List Char}
      (hOutside : ¬state.IsString)
      (hNext : next maxBytes state c = (middle, none))
      (hRest : Silent maxBytes middle chars last) :
      Silent maxBytes state (c :: chars) last

theorem Silent.append
    {maxBytes : Nat}
    {state middle last : State}
    {chars rest : List Char}
    (hFirst : Silent maxBytes state chars middle)
    (hRest : Silent maxBytes middle rest last) :
    Silent maxBytes state (chars ++ rest) last := by
  induction hFirst with
  | nil hOutside => exact hRest
  | cons hOutside hNext _ hAppended =>
      exact .cons hOutside hNext (hAppended hRest)

/- Control characters strewn in are executed in passing. -/
theorem Silent.run_strewn
    {maxBytes : Nat}
    {state last : State}
    {plain chars : List Char}
    (hSilent : Silent maxBytes state plain last)
    (hStrewn : chars.filter (!isInline ·) = plain) :
    run ⟨state, maxBytes⟩ chars =
      (⟨last, maxBytes⟩, inlineEvents chars) := by
  induction chars generalizing state plain with
  | nil =>
      subst hStrewn
      cases hSilent
      rfl
  | cons c chars hRest =>
      rw [run_cons]
      unfold step
      dsimp only
      cases hInline : isInline c with
      | true =>
          rw [List.filter_cons_of_neg (by simp [hInline])]
            at hStrewn
          have hOutside : ¬state.IsString := by
            cases hSilent with
            | nil hOutside => exact hOutside
            | cons hOutside _ _ => exact hOutside
          rw [next_of_isInline hOutside hInline,
            hRest hSilent hStrewn]
          unfold inlineEvents
          rw [List.filter_cons_of_pos hInline]
          by_cases hTerminator : c = '\u009C'
          · simp [hTerminator]
          · simp [hTerminator]
      | false =>
          rw [List.filter_cons_of_pos (by simp [hInline])]
            at hStrewn
          subst hStrewn
          cases hSilent with
          | cons hOutside hNext hSilent =>
              rw [hNext, hRest hSilent rfl]
              unfold inlineEvents
              rw [List.filter_cons_of_neg (by simp [hInline])]
              rfl

------------------------------------------------------------
-- The Parts of a Sequence
------------------------------------------------------------

/- The introducer leaves whatever had been begun. -/
theorem next_lead
    (introducer : Introducer)
    (maxBytes : Nat)
    (state : State) :
    ∃ middle,
      next maxBytes state introducer.lead = (middle, none) ∧
        Silent maxBytes middle introducer.rest
          (.parameters .empty) := by
  have hDone :
      Silent maxBytes (.parameters .empty) []
        (.parameters .empty) :=
    .nil id
  cases introducer with
  | single =>
      refine ⟨.parameters .empty, ?_, hDone⟩
      cases state <;> rfl
  | escape =>
      have hBracket :
          ∀ interrupted,
            Silent maxBytes (.escape interrupted) ['[']
              (.parameters .empty) := by
        intro interrupted
        apply Silent.cons id _ hDone
        cases interrupted <;> rfl
      cases state with
      | string kind payload =>
          exact ⟨_, rfl, hBracket (some (kind, payload))⟩
      | ground => exact ⟨_, rfl, hBracket none⟩
      | escape interrupted => exact ⟨_, rfl, hBracket none⟩
      | escapeIntermediate intermediate =>
          exact ⟨_, rfl, hBracket none⟩
      | parameters params => exact ⟨_, rfl, hBracket none⟩

theorem silent_marker
    (maxBytes : Nat)
    {marker : Option Char}
    (hMarker : ∀ c ∈ marker, c ∈ ['<', '=', '>', '?']) :
    Silent maxBytes (.parameters .empty) marker.toList
      (.parameters
        { Parameters.empty with marker := marker }) := by
  cases marker with
  | none => exact .nil id
  | some c =>
      apply Silent.cons id _ (.nil id)
      have hOne := hMarker c rfl
      simp only [List.mem_cons, List.not_mem_nil, or_false]
        at hOne
      rcases hOne with rfl | rfl | rfl | rfl <;> rfl

theorem next_parameterChar
    (maxBytes : Nat)
    (params : Parameters)
    {c : Char}
    (hChar : c.isDigit ∨ c = ';' ∨ c = ':') :
    next maxBytes (.parameters params) c =
      (.parameters (params.read c), none) := by
  rcases hChar with hDigit | rfl | rfl
  · have hRange :
        '0'.toNat ≤ c.toNat ∧ c.toNat ≤ '9'.toNat := by
      unfold Char.isDigit at hDigit
      simpa [UInt32.le_iff_toNat_le] using hDigit
    have hControl : isControl c = false := by
      apply Parser.isControl_eq_false
      simp only [Char.reduceToNat] at hRange
      omega
    unfold next sequence Parameters.read
    simp only [hControl, Bool.false_eq_true, if_false]
    rw [if_pos hRange, if_pos hDigit]
  · rfl
  · rfl

theorem silent_chars
    (maxBytes : Nat)
    {chars : List Char}
    (hChars :
      ∀ c ∈ chars, c.isDigit ∨ c = ';' ∨ c = ':')
    (params : Parameters) :
    Silent maxBytes (.parameters params) chars
      (.parameters (chars.foldl Parameters.read params)) := by
  induction chars generalizing params with
  | nil => exact .nil id
  | cons c chars hRest =>
      have hFirst := hChars c List.mem_cons_self
      have hOthers :
          ∀ other ∈ chars,
            other.isDigit ∨ other = ';' ∨ other = ':' :=
        fun other hMem =>
          hChars other (List.mem_cons_of_mem _ hMem)
      exact
        .cons id (next_parameterChar maxBytes params hFirst)
          (hRest hOthers _)

theorem silent_intermediate
    (maxBytes : Nat)
    (params : Parameters)
    {intermediate : Option Char}
    (hIntermediate :
      ∀ c ∈ intermediate, isIntermediate c)
    (hNone : params.intermediate = none) :
    Silent maxBytes (.parameters params) intermediate.toList
      (.parameters
        { params with intermediate := intermediate }) := by
  cases intermediate with
  | none =>
      have hSame :
          { params with intermediate := none } = params := by
        rw [← hNone]
      rw [hSame]
      exact .nil id
  | some c =>
      have hClass := hIntermediate c rfl
      have hRange : 0x20 ≤ c.toNat ∧ c.toNat ≤ 0x2F :=
        of_decide_eq_true hClass
      have hControl : isControl c = false :=
        Parser.isControl_eq_false (by omega)
      have hSemicolon : c ≠ ';' := by
        rintro rfl
        exact absurd hRange.2 (by decide)
      have hColon : c ≠ ':' := by
        rintro rfl
        exact absurd hRange.2 (by decide)
      refine .cons id ?_ (.nil id)
      unfold next sequence
      simp only [Char.reduceToNat, hControl, hSemicolon,
        hColon, hClass, if_true, if_false,
        Bool.false_eq_true]
      rw [if_neg (by omega), if_neg (by omega)]
      rfl

/- The final character completes the sequence. -/
theorem next_final
    (maxBytes : Nat)
    (params : Parameters)
    {final : Char}
    (hFinal : 0x40 ≤ final.toNat ∧ final.toNat ≤ 0x7E) :
    next maxBytes (.parameters params) final =
      (.ground, finishSequence params final) := by
  have hControl : isControl final = false :=
    Parser.isControl_eq_false (by omega)
  have hClass : isIntermediate final = false :=
    decide_eq_false (by omega)
  have hSemicolon : final ≠ ';' := by
    rintro rfl
    exact absurd hFinal.1 (by decide)
  have hColon : final ≠ ':' := by
    rintro rfl
    exact absurd hFinal.1 (by decide)
  unfold next sequence
  simp only [Char.reduceToNat, hControl, hSemicolon, hColon,
    hClass, if_false, Bool.false_eq_true]
  rw [if_neg (by omega), if_neg (by omega), if_pos hFinal]

------------------------------------------------------------
-- Whole Sequences
------------------------------------------------------------

/- Before the final character nothing is completed. -/
theorem silent_body
    (maxBytes : Nat)
    (sequence : ControlSequence)
    {middle : State}
    (hIntroduced :
      Silent maxBytes middle sequence.introducer.rest
        (.parameters .empty)) :
    Silent maxBytes middle sequence.body
      (.parameters sequence.kept) := by
  have hMarker := silent_marker maxBytes sequence.isMarker
  have hChars :=
    silent_chars maxBytes
      (fun _ => sequence.parameters.of_mem_chars)
      { Parameters.empty with marker := sequence.marker }
  exact
    ((hIntroduced.append hMarker).append hChars).append
      (silent_intermediate maxBytes _
        sequence.isIntermediate
        (Parameters.qualifiers_readAll _ _).2)

/-
  A sequence is completed by its final character, if all that
  is in front of that is read as its body is.
-/
theorem run_of_body
    (reader : Reader)
    (sequence : ControlSequence)
    {chars : List Char}
    {events : List Event}
    (hChars :
      ∀ middle,
        Silent reader.maxStringBytes middle sequence.body
            (.parameters sequence.kept) →
          run ⟨middle, reader.maxStringBytes⟩ chars =
            (⟨.parameters sequence.kept, reader.maxStringBytes⟩,
              events)) :
    reader.run
        (sequence.introducer.lead ::
          (chars ++ [sequence.final])) =
      ({ reader with state := .ground },
        events ++
          (finishSequence sequence.kept
            sequence.final).toList) := by
  rcases reader with ⟨state, maxBytes⟩
  rcases next_lead sequence.introducer maxBytes state with
    ⟨middle, hLead, hIntroduced⟩
  have hBody :=
    hChars middle (silent_body maxBytes sequence hIntroduced)
  have hLast :
      run ⟨.parameters sequence.kept, maxBytes⟩
          [sequence.final] =
        (⟨.ground, maxBytes⟩,
          (finishSequence sequence.kept
            sequence.final).toList) := by
    rw [run_cons]
    unfold step
    dsimp only
    rw [next_final maxBytes _ sequence.isFinal]
    exact congrArg _ (List.append_nil _)
  rw [run_cons]
  unfold step
  dsimp only
  rw [hLead, run_append, hBody, hLast]
  rfl

/- The sequence as a whole, among control characters. -/
theorem run_among_controls
    (reader : Reader)
    (sequence : ControlSequence)
    (strewn : List Char)
    (hStrewn :
      strewn.filter (!isInline ·) = sequence.body) :
    reader.run
        (sequence.introducer.lead ::
          (strewn ++ [sequence.final])) =
      ({ reader with state := .ground },
        inlineEvents strewn ++
          (finishSequence sequence.kept
            sequence.final).toList) := by
  apply reader.run_of_body
  exact fun _ hBody => hBody.run_strewn hStrewn

end Reader

namespace Parser

/-
  Whatever the parser is in the middle of, and whatever it has
  left behind, it reads a control sequence in which control
  characters are strewn: it executes those, and then acts on
  the sequence if it is a known one, with the parameters that
  are written there.  Afterwards it goes on as a parser that
  has just started.
-/
theorem run_strewn_sequence
    (parser : Parser)
    (sequence : ControlSequence)
    (strewn : List Char)
    (hStrewn :
      strewn.filter (!isInline ·) = sequence.body) :
    ∃ params,
      sequence.Conveys params ∧
        let input :=
          sequence.introducer.lead ::
            (strewn ++ [sequence.final])
        let events :=
          inlineEvents strewn ++
            ((Action.lookup? sequence.final sequence.marker
              sequence.intermediate).map
                (.sequence · params)).toList
        parser.observe input = (.ground, events) ∧
          ∀ rest,
            (parser.observe (input ++ rest)).2 =
              events ++
                ((start parser.maxStringBytes).observe
                  rest).2 := by
  refine ⟨sequence.kept, sequence.conveys_kept, ?_⟩
  intro input events
  have hRead :
      parser.observe input = (.ground, events) := by
    rw [observe_eq,
      parser.reader.run_among_controls sequence strewn hStrewn,
      sequence.finishSequence_kept]
  exact
    ⟨hRead, fun rest =>
      congrArg Prod.snd (observe_append_of_ground hRead rest)⟩

/-
  A parser that is collecting a string, with the parameters of
  a sequence before it and the kind of an older string.
-/
def leftover : Parser where
  mode := .string .systemCommand
  params :=
    { Parameters.empty.pushDigit 5 with marker := some '?' }
  string := "0;a"
  isTruncated := true
  pending := some .deviceControl
  maxStringBytes := 10

/- A curly underline, and a parameter past the maximum. -/
def underlining : ControlSequence where
  introducer := .escape
  marker := none
  parameters :=
    { first := ⟨['4'], by simp⟩
      others :=
        [(true, ⟨['3'], by simp⟩), (false, ⟨[], nofun⟩),
          (false, ⟨['7', '0', '0', '0', '0'], by simp⟩)] }
  intermediate := none
  final := 'm'
  isMarker := nofun
  isIntermediate := nofun
  isFinal := by decide

/- For one, where a string is broken off. -/
theorem run_strewn_underlining :
    ∃ params,
      underlining.Conveys params ∧
        let input :=
          ['\x1B', '\n', '[', '4', ':', '\u009C', '3', ';',
            '\x07', ';', '7', '0', '0', '0', '0', '\x7F',
            'm']
        let events :=
          [.execute '\n', .execute '\x07', .execute '\x7F',
            .sequence .selectRendition params]
        leftover.observe input = (.ground, events) ∧
          ∀ rest,
            (leftover.observe (input ++ rest)).2 =
              events ++ ((start 10).observe rest).2 :=
  run_strewn_sequence leftover underlining
    ['\n', '[', '4', ':', '\u009C', '3', ';', '\x07', ';',
      '7', '0', '0', '0', '0', '\x7F']
    (by decide)

end Parser

end VideoTerminal
