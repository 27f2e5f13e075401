import VideoTerminal.Proofs.Session.Printing
import VideoTerminal.Proofs.Terminal.Attributes
import VideoTerminal.Proofs.Terminal.Sequences
import VideoTerminal.Text.Linked

/-
  Sequences that select a rendition.  Sending the groups of
  one together or each by itself is the same to a terminal,
  whatever it has read in part, and a group whose colour is
  not all there leaves the pen as it is.

  Main declarations:
    * `ControlSequence.selecting`
    * `Terminal.resumed`
    * `Terminal.process_sequence_resumed`
    * `Terminal.select`
    * `Terminal.selectEach`
    * `Terminal.select_join`
-/

namespace VideoTerminal

------------------------------------------------------------
-- Selecting a Rendition
------------------------------------------------------------

theorem isFinal_selecting :
    0x40 ≤ 'm'.toNat ∧ 'm'.toNat ≤ 0x7E := by
  decide

/- The sequence that selects a rendition by its parameters. -/
def ControlSequence.selecting
    (introducer : Introducer)
    (text : ParameterText) : ControlSequence where
  introducer := introducer
  marker := none
  parameters := text
  intermediate := none
  final := 'm'
  isMarker := Terminal.isMarker_none
  isIntermediate := Terminal.isIntermediate_none
  isFinal := isFinal_selecting

/-
  Without any text the first parameter is left out, which is
  the reset.
-/
theorem Pen.select_written
    {params : Parameters}
    {text : ParameterText}
    (hItems : params.items = text.written)
    (config : Config)
    (pen : Pen) :
    pen.select config params =
      pen.applyAll config text.items := by
  unfold select
  rw [params.isEmpty_eq, hItems]
  unfold ParameterText.written
  split
  · rename_i hEmpty
    rcases ParameterText.of_chars_eq_nil hEmpty with
      ⟨hFirst, hOthers⟩
    have hReset : text.items = [⟨none, false⟩] := by
      unfold ParameterText.items ParameterText.parameter
      rw [hOthers, Numeral.value?, if_pos hFirst]
      rfl
    show config.pen = pen.applyAll config text.items
    rw [hReset, applyAll]
    show
      config.pen =
        (pen.applyCode config 0 none).applyAll config []
    rw [applyAll]
    rfl
  · rfl

/- All its parameters are kept if there is room for them. -/
theorem Session.handleSequence_selecting
    [TextLibrary]
    (session : Session)
    (introducer : Introducer)
    {text : ParameterText}
    (hRoom : text.items.length ≤ Parameters.maxCount) :
    session.handleSequence (.selecting introducer text) =
      session.modifyCursor fun cursor =>
        { cursor with
          pen := cursor.pen.applyAll session.config
            text.items } := by
  have hWritten :
      text.written.length ≤ Parameters.maxCount := by
    unfold ParameterText.written
    split
    · exact Nat.zero_le _
    · exact hRoom
  have hKept :
      (ControlSequence.selecting introducer text).kept.items =
        text.written := by
    rw [ControlSequence.items_kept]
    exact List.take_of_length_le hWritten
  unfold handleSequence
  rw [(ControlSequence.selecting introducer
    text).finishSequence_kept]
  show
    (session.modifyCursor fun cursor =>
      { cursor with
        pen := cursor.pen.select session.config
          (ControlSequence.selecting introducer
            text).kept }) = _
  simp only [Pen.select_written hKept]

------------------------------------------------------------
-- What Has Been Read in Part
------------------------------------------------------------

namespace Terminal

section

variable [TextLibrary]

section

variable {terminal : Terminal}

/-
  The session after what has been read in part is broken off.
-/
def resumed
    (terminal : Terminal) : Session :=
  (terminal.parser.run terminal.decoder.brokenOff).2.foldl
    Session.handle terminal.session

theorem resumed_of_start
    (hDecoder : terminal.decoder = .start) :
    terminal.resumed = terminal.session := by
  unfold resumed
  rw [hDecoder]
  rfl

theorem manner_resumed
    (terminal : Terminal) :
    terminal.resumed.manner = terminal.session.manner := by
  unfold resumed Utf8.Decoder.brokenOff
  split
  · rcases terminal.session.handleAll_replacement
        terminal.parser with
      hNothing | hWritten
    · rw [hNothing]
    · rw [hWritten]
      exact Session.unwritten_manner.writeChar _ _
  · rfl

/- A sequence breaks off what has been read, and then acts. -/
theorem process_sequence_resumed
    (hDecoder : terminal.decoder.AwaitsContinuation)
    (sequence : ControlSequence) :
    (terminal.process sequence.bytes).inUse =
      (.start,
        ⟨.ground, terminal.parser.maxStringBytes⟩,
        terminal.resumed.handleSequence sequence) := by
  have hPushed :
      terminal.decoder.pushAll sequence.bytes =
        (.start,
          terminal.decoder.brokenOff ++
            sequence.introducer.lead ::
              (sequence.body ++ [sequence.final])) :=
    hDecoder.pushAll_encodeAll _ _
  exact process_of_pushAll hPushed

end

------------------------------------------------------------
-- Groups Together and by Themselves
------------------------------------------------------------

/- Send the sequence that selects a rendition. -/
def select
    (introducer : Introducer)
    (terminal : Terminal)
    (text : ParameterText) : Terminal :=
  terminal.process
    (ControlSequence.selecting introducer text).bytes

/- Send a sequence for each of some groups. -/
def selectEach
    (introducer : Introducer)
    (terminal : Terminal)
    (groups : List AttributeGroup) : Terminal :=
  groups.foldl
    (fun terminal group =>
      terminal.select introducer group.text)
    terminal

end

end Terminal

/- The session after some groups have acted on its pen. -/
def Session.applyGroups
    (session : Session)
    (groups : List AttributeGroup) : Session :=
  session.modifyCursor fun cursor =>
    { cursor with
      pen :=
        groups.foldl (Pen.applyGroup session.config)
          cursor.pen }

theorem Session.handleSequence_groups
    [TextLibrary]
    (session : Session)
    (introducer : Introducer)
    {text : ParameterText}
    {groups : List AttributeGroup}
    (hItems : text.items = groups.flatMap (·.text.items))
    (hRoom : text.items.length ≤ Parameters.maxCount) :
    session.handleSequence (.selecting introducer text) =
      session.applyGroups groups := by
  rw [handleSequence_selecting session introducer hRoom,
    hItems]
  unfold applyGroups
  simp only [Pen.applyAll_flatMap]

namespace Terminal

section

variable [TextLibrary]

section

variable {terminal : Terminal}
  (hDecoder : terminal.decoder.AwaitsContinuation)
  (introducer : Introducer)

include hDecoder

theorem select_groups
    {text : ParameterText}
    {groups : List AttributeGroup}
    (hItems : text.items = groups.flatMap (·.text.items))
    (hRoom : text.items.length ≤ Parameters.maxCount) :
    (terminal.select introducer text).inUse =
      (.start,
        ⟨.ground, terminal.parser.maxStringBytes⟩,
        terminal.resumed.applyGroups groups) := by
  unfold select
  rw [process_sequence_resumed hDecoder,
    Session.handleSequence_groups _ introducer hItems hRoom]

theorem select_group
    {group : AttributeGroup}
    (hRoom :
      group.text.items.length ≤ Parameters.maxCount) :
    (terminal.select introducer group.text).inUse =
      (.start,
        ⟨.ground, terminal.parser.maxStringBytes⟩,
        terminal.resumed.applyGroups [group]) :=
  select_groups hDecoder introducer
    (List.flatMap_singleton (·.text.items) group).symm hRoom

/- Only the first sequence breaks off anything. -/
theorem selectEach_cons
    (group : AttributeGroup)
    (groups : List AttributeGroup)
    (hRoom :
      ∀ other ∈ group :: groups,
        other.text.items.length ≤ Parameters.maxCount) :
    (terminal.selectEach introducer (group :: groups)).inUse =
      (.start,
        ⟨.ground, terminal.parser.maxStringBytes⟩,
        terminal.resumed.applyGroups (group :: groups)) := by
  induction groups generalizing terminal group with
  | nil =>
      exact
        select_group hDecoder introducer
          (hRoom group List.mem_cons_self)
  | cons next groups hRest =>
      have hFirst :=
        select_group hDecoder introducer
          (hRoom group List.mem_cons_self)
      have hAfter :
          (terminal.select introducer
            group.text).decoder = .start :=
        congrArg Prod.fst hFirst
      have hBytes :
          (terminal.select introducer
              group.text).parser.maxStringBytes =
            terminal.parser.maxStringBytes :=
        congrArg (·.2.1.maxStringBytes) hFirst
      have hSession :
          (terminal.select introducer group.text).session =
            terminal.resumed.applyGroups [group] :=
        congrArg (·.2.2) hFirst
      have hOthers :
          ∀ other ∈ next :: groups,
            other.text.items.length ≤ Parameters.maxCount :=
        fun other hMem =>
          hRoom other (List.mem_cons_of_mem _ hMem)
      show
        ((terminal.select introducer group.text).selectEach
          introducer (next :: groups)).inUse = _
      rw [hRest (hAfter ▸ Utf8.awaitsContinuation_start) next
          hOthers,
        resumed_of_start hAfter, hBytes, hSession]
      rfl

theorem awaitsContinuation_selectEach
    (groups : List AttributeGroup) :
    (terminal.selectEach introducer
      groups).decoder.AwaitsContinuation := by
  induction groups generalizing terminal with
  | nil => exact hDecoder
  | cons group groups hRest =>
      have hFirst :
          (terminal.select introducer
            group.text).decoder.AwaitsContinuation := by
        unfold select
        rw [process_eq]
        exact hDecoder.pushAll _
      exact hRest hFirst

/- A colour that is not all there leaves the pen as it is. -/
theorem pen_select_of_not_givesColour
    {group : AttributeGroup}
    (hRoom : group.text.items.length ≤ Parameters.maxCount)
    (hLeader : group.leader.AnnouncesColour)
    (hNone : ¬group.GivesColour) :
    (terminal.select introducer
        group.text).session.cursor.pen =
      terminal.session.cursor.pen := by
  have hPen : terminal.resumed.cursor.pen = _ :=
    congrArg Session.Manner.pen terminal.manner_resumed
  have hSession :
      (terminal.select introducer group.text).session =
        terminal.resumed.applyGroups [group] :=
    congrArg (·.2.2) (select_group hDecoder introducer hRoom)
  rw [hSession]
  show
    Pen.applyGroup terminal.resumed.config
      terminal.resumed.cursor.pen group = _
  rw [Pen.applyGroup_eq_self hLeader hNone]
  exact hPen

end

/-
  Whatever a terminal has read in part and whatever its pen
  is, the groups of a sequence do together what they do one
  after the other.  A group whose colour is not all there
  leaves the pen as it is.  A sequence without any group is
  that of a single code that is left out.
-/
theorem select_join
    {terminal : Terminal}
    (hDecoder : terminal.decoder.AwaitsContinuation)
    (introducer : Introducer)
    (group : AttributeGroup)
    (groups : List AttributeGroup)
    (hRoom :
      (group.text.join (groups.map (·.text))).items.length ≤
        Parameters.maxCount) :
    (terminal.select introducer
        (group.text.join (groups.map (·.text)))).inUse =
      (terminal.selectEach introducer
        (group :: groups)).inUse ∧
      ∀ front other back,
        group :: groups = front ++ other :: back →
          other.leader.AnnouncesColour →
            ¬other.GivesColour →
              (terminal.selectEach introducer
                  (front ++ [other])).session.cursor.pen =
                (terminal.selectEach introducer
                  front).session.cursor.pen := by
  have hItems :
      (group.text.join (groups.map (·.text))).items =
        (group :: groups).flatMap (·.text.items) := by
    rw [ParameterText.items_join, List.flatMap_map,
      List.flatMap_cons]
  have hEach :
      ∀ other ∈ group :: groups,
        other.text.items.length ≤ Parameters.maxCount := by
    intro other hMem
    have hPart :
        other.text.items.Sublist
          ((group :: groups).flatMap (·.text.items)) :=
      List.sublist_flatten_of_mem (List.mem_map_of_mem hMem)
    exact hPart.length_le.trans (hItems ▸ hRoom)
  constructor
  · rw [selectEach_cons hDecoder introducer group groups hEach]
    exact select_groups hDecoder introducer hItems hRoom
  · intro front other back hSplit hLeader hNone
    have hMem : other ∈ group :: groups := by
      rw [hSplit]
      exact List.mem_append_right _ List.mem_cons_self
    have hBefore :=
      awaitsContinuation_selectEach hDecoder introducer front
    unfold selectEach at hBefore ⊢
    rw [List.foldl_append]
    exact
      pen_select_of_not_givesColour hBefore introducer
        (hEach other hMem) hLeader hNone

end

/- A number that announces a foreground colour. -/
theorem announcesColour_foreground :
    (numeral 38).AnnouncesColour :=
  Or.inl (value?_numeral (by decide))

/- A curly underline. -/
def curly : AttributeGroup :=
  .single (numeral 4) [numeral 3]
    fun _ => List.cons_ne_nil _ _

/- A foreground whose index is too large. -/
def tooLarge : AttributeGroup :=
  .indexed (numeral 38) (numeral 5) (numeral 300)
    announcesColour_foreground (value?_numeral (by decide))

/- A background with no more than its components. -/
def attached : AttributeGroup :=
  .single (numeral 48)
    [numeral 2, numeral 255, numeral 10, numeral 0]
    fun _ => List.cons_ne_nil _ _

/- A terminal that has read a part of a character. -/
def withCutCharacter : Terminal :=
  (start 2 1 .default).process [0x1B, 0x5D, 0xC3]

theorem not_givesColour_tooLarge :
    ¬tooLarge.GivesColour := by
  rintro ⟨_, rfl, hValues⟩
  rcases hValues _ List.mem_cons_self with
    ⟨value, hMost, hValue⟩
  rw [value?_numeral (by decide)] at hValue
  cases hValue
  omega

/- The groups of `CSI 4:3;38;5;300;48:2:255:10:0 m`. -/
theorem select_curly :
    (withCutCharacter.select .escape
        (curly.text.join
          [tooLarge.text, attached.text])).inUse =
      (withCutCharacter.selectEach .escape
        [curly, tooLarge, attached]).inUse ∧
      (withCutCharacter.selectEach .escape
          [curly, tooLarge]).session.cursor.pen =
        (withCutCharacter.selectEach .escape
          [curly]).session.cursor.pen := by
  have hDecoder :
      withCutCharacter.decoder.AwaitsContinuation := by
    unfold withCutCharacter
    rw [process_eq]
    exact Utf8.awaitsContinuation_start.pushAll _
  have hJoined :=
    select_join hDecoder .escape curly [tooLarge, attached]
      (by decide)
  exact
    ⟨hJoined.1,
      hJoined.2 [curly] tooLarge [attached] rfl
        announcesColour_foreground not_givesColour_tooLarge⟩

end Terminal

end VideoTerminal
