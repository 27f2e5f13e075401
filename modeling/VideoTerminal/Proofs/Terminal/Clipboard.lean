import VideoTerminal.Proofs.Control.Truncation
import VideoTerminal.Proofs.Terminal.Events
import VideoTerminal.Proofs.Terminal.Reachable
import VideoTerminal.Proofs.Text.Base64

/-
  Text that the application puts on the clipboard.  All of it
  arrives if the string it comes in is not too long.  Of a
  string that is cut, the whole groups of base64 in front of
  the cut arrive, if it is cut between groups.

  Main declarations:
    * `Reader.foldl_appendWithin_of_full`
    * `Session.setClipboard_take`
    * `Session.performCommand_cut`
    * `Terminal.clipboardRequest`
    * `Terminal.HandsOver`
    * `Terminal.Reachable.clipboard_of_request`
-/

namespace VideoTerminal

------------------------------------------------------------
-- Trimming and Collecting
------------------------------------------------------------

namespace Blank

theorem trim_eq_self
    {chars : List Char}
    (hChars : ∀ c ∈ chars, isBlank c = false) :
    trim chars = chars := by
  have hKept :
      ∀ list : List Char,
        list ⊆ chars → list.dropWhile isBlank = list := by
    intro list hList
    cases list with
    | nil => rfl
    | cons c list =>
        have hFirst := hChars c (hList List.mem_cons_self)
        rw [List.dropWhile_cons_of_neg]
        rw [hFirst]
        decide
  have hReversed : chars.reverse ⊆ chars :=
    List.reverse_subset.mpr (List.Subset.refl _)
  unfold trim
  rw [hKept chars (List.Subset.refl _),
    hKept chars.reverse hReversed, List.reverse_reverse]

end Blank

namespace Parser

theorem byteSize_append
    (front chars : List Char) :
    byteSize (front ++ chars) =
      byteSize front + byteSize chars := by
  unfold byteSize
  rw [String.ofList_append, String.utf8ByteSize_append]

theorem byteSize_of_ascii
    {chars : List Char}
    (hChars : ∀ c ∈ chars, c.utf8Size = 1) :
    byteSize chars = chars.length := by
  induction chars with
  | nil => rfl
  | cons c chars hRest =>
      rw [List.forall_mem_cons] at hChars
      rw [byteSize_cons, hChars.1, hRest hChars.2,
        List.length_cons, Nat.add_comm]

theorem isStringData_of_not_isControl
    {c : Char}
    (hChar : isControl c = false) :
    isStringData c := by
  unfold isControl at hChar
  simp only [Bool.or_eq_false_iff, decide_eq_false_iff_not]
    at hChar
  have hOther :
      ∀ other : Char,
        other.toNat < 0x20 → c ≠ other := by
    rintro other hLow rfl
    exact hChar.1.1 hLow
  unfold isStringData
  simp only [hChar.2, List.contains_cons, List.contains_nil,
    Bool.or_false, Bool.not_false, Bool.and_true,
    Bool.not_eq_true', Bool.or_eq_false_iff,
    beq_eq_false_iff_ne]
  exact
    ⟨hOther _ (by decide), hOther _ (by decide),
      hOther _ (by decide), hOther _ (by decide)⟩

end Parser

namespace Reader

/- Where there is room for all, all is collected. -/
theorem foldl_appendWithin_of_le
    {maxBytes : Nat}
    {chars : List Char}
    (hRoom : Parser.byteSize chars ≤ maxBytes) :
    chars.foldl (appendWithin maxBytes) "" =
      .ofList chars := by
  rw [foldl_appendWithin] <;> rw [String.empty_append]
  exact hRoom

/- Nothing is collected behind what leaves no room. -/
theorem foldl_appendWithin_of_full
    {maxBytes : Nat}
    {kept : List Char}
    (hFull : Parser.byteSize kept = maxBytes)
    (rest : List Char) :
    (kept ++ rest).foldl (appendWithin maxBytes) "" =
      .ofList kept := by
  rw [List.foldl_append, foldl_appendWithin_of_le hFull.le,
    foldl_appendWithin_eq_self_iff]
  intro c hChar
  have hSize := c.utf8Size_pos
  show maxBytes < Parser.byteSize kept + c.utf8Size
  omega

end Reader

/- All characters of base64 are single bytes. -/
theorem TextLibrary.ReadsBase64.byteSize_take
    [TextLibrary]
    {encode : List UInt8 → List Char}
    (hEncode : TextLibrary.ReadsBase64 encode)
    (bytes : List UInt8)
    (length : Nat) :
    Parser.byteSize ((encode bytes).take length) =
      min length (encode bytes).length := by
  have hSingle : ∀ c ∈ encode bytes, c.utf8Size = 1 :=
    hEncode.forall_mem_encode (by decide) bytes
  rw [Parser.byteSize_of_ascii, List.length_take]
  exact fun c hChar => hSingle c (List.mem_of_mem_take hChar)

namespace Session

------------------------------------------------------------
-- Arguments
------------------------------------------------------------

theorem forall_ne_semicolon
    {chars : List Char}
    (hChars : ';' ∉ chars) :
    ∀ c ∈ chars, decide (c ≠ ';') := by
  intro c hChar
  rw [decide_eq_true_eq]
  rintro rfl
  exact hChars hChar

theorem splitAtSemicolon_append
    {before : List Char}
    (hBefore : ';' ∉ before)
    (after : List Char) :
    splitAtSemicolon (before ++ ';' :: after) =
      (before, some after) := by
  have hOthers := forall_ne_semicolon hBefore
  unfold splitAtSemicolon
  rw [List.takeWhile_append_of_pos hOthers,
    List.dropWhile_append_of_pos hOthers]
  exact congrArg (·, some after) (List.append_nil before)

theorem splitAtSemicolon_of_notMem
    {chars : List Char}
    (hChars : ';' ∉ chars) :
    splitAtSemicolon chars = (chars, none) := by
  have hOthers := forall_ne_semicolon hChars
  unfold splitAtSemicolon
  rw [List.takeWhile_eq_self_iff.mpr hOthers,
    List.dropWhile_eq_nil_iff.mpr hOthers]
  rfl

------------------------------------------------------------
-- The Clipboard
------------------------------------------------------------

/-
  What the embedder is told about bytes that are put on the
  clipboard.
-/
def clipboardNotice
    (name : List Char)
    (bytes : List UInt8) : Notice :=
  .clipboardSet
    (.ofList (if name = [] then ['s', '0'] else name))
    (.ofList (Utf8.decodeLossy bytes))

/- What stands in front of the base64. -/
def clipboardFront
    (name : List Char) : List Char :=
  ['5', '2', ';'] ++ name ++ [';']

theorem performCommand_of_notMem
    [TextLibrary]
    (session : Session)
    {chars : List Char}
    (hChars : ';' ∉ chars) :
    session.performCommand (.ofList chars) = session := by
  unfold performCommand
  rw [String.toList_ofList,
    splitAtSemicolon_of_notMem hChars]
  split <;> first | rfl | (rename_i hNone; cases hNone)

theorem performCommand_clipboard
    [TextLibrary]
    (session : Session)
    (args : List Char) :
    session.performCommand
        (.ofList (['5', '2', ';'] ++ args)) =
      session.setClipboard args := by
  have hSplit :
      splitAtSemicolon (['5', '2', ';'] ++ args) =
        (['5', '2'], some args) :=
    splitAtSemicolon_append
      (show ';' ∉ ['5', '2'] by decide) args
  unfold performCommand
  rw [String.toList_ofList, hSplit]
  rfl

theorem byteSize_clipboardFront
    (name : List Char) :
    Parser.byteSize (clipboardFront name) =
      4 + Parser.byteSize name := by
  have hNumber : Parser.byteSize ['5', '2', ';'] = 3 := by
    decide
  have hLast : Parser.byteSize [';'] = 1 := by decide
  unfold clipboardFront
  rw [Parser.byteSize_append, Parser.byteSize_append]
  omega

section

variable [TextLibrary] (session : Session)
  {name : List Char} (hName : ';' ∉ name)

include hName

/- Without the base64 there is nothing to do. -/
theorem performCommand_of_prefix
    {kept : List Char}
    (hKept : kept <+: ['5', '2', ';'] ++ name) :
    session.performCommand (.ofList kept) = session := by
  have hNumber : ';' ∉ ['5', '2'] := by decide
  rcases List.prefix_or_prefix_of_prefix hKept
      (List.prefix_append ['5', '2'] (';' :: name)) with
    hShort | ⟨rest, rfl⟩
  · apply performCommand_of_notMem
    exact fun hMem => hNumber (hShort.subset hMem)
  · have hRest := (List.prefix_append_right_inj _).mp hKept
    cases rest with
    | nil => exact performCommand_of_notMem session hNumber
    | cons c args =>
        obtain ⟨rfl, hArgs⟩ :=
          List.cons_prefix_cons.mp hRest
        have hNone : ';' ∉ args :=
          fun hMem => hName (hArgs.subset hMem)
        refine (performCommand_clipboard session args).trans ?_
        unfold setClipboard
        rw [splitAtSemicolon_of_notMem hNone]

theorem performCommand_unnamed
    {maxBytes : Nat}
    {kept : List Char}
    (hKept : kept <+: ['5', '2', ';'] ++ name)
    (hCut : Parser.byteSize kept = maxBytes)
    (text : List Char) :
    session.performCommand
        ((clipboardFront name ++ text).foldl
          (Reader.appendWithin maxBytes) "") =
      session := by
  have hNothing :=
    session.performCommand_of_prefix hName hKept
  rcases hKept with ⟨rest, hStarts⟩
  have hSplit :
      clipboardFront name ++ text =
        kept ++ (rest ++ ';' :: text) := by
    unfold clipboardFront
    rw [← hStarts, List.append_assoc, List.append_assoc]
    rfl
  rw [hSplit, Reader.foldl_appendWithin_of_full hCut]
  exact hNothing

------------------------------------------------------------
-- Base64
------------------------------------------------------------

variable {encode : List UInt8 → List Char}
  (hEncode : TextLibrary.ReadsBase64 encode)
  {bytes : List UInt8}

include hEncode

theorem setClipboard_take
    {length : Nat}
    (hLength : length ≤ (encode bytes).length) :
    session.setClipboard
        (name ++ ';' :: (encode bytes).take length) =
      if length % 4 = 0 then
        session.notify
          (clipboardNotice name
            (bytes.take (3 * (length / 4))))
      else
        session := by
  have hSome : ∀ c ∈ encode bytes, c ≠ '?' :=
    hEncode.forall_mem_encode (by decide) bytes
  have hSolid :
      ∀ c ∈ encode bytes, Blank.isBlank c = false :=
    hEncode.forall_mem_encode (by decide) bytes
  have hTrimmed :
      Blank.trim ((encode bytes).take length) =
        (encode bytes).take length :=
    Blank.trim_eq_self fun c hChar =>
      hSolid c (List.mem_of_mem_take hChar)
  have hNoQuestion : (encode bytes).take length ≠ ['?'] := by
    intro hQuestion
    have hMem : '?' ∈ (encode bytes).take length := by
      rw [hQuestion]
      exact List.mem_singleton_self _
    exact hSome _ (List.mem_of_mem_take hMem) rfl
  unfold setClipboard
  rw [splitAtSemicolon_append hName]
  dsimp only
  rw [hTrimmed, if_neg hNoQuestion,
    hEncode.decodeBase64?_take_encode hLength]
  by_cases hWhole : length % 4 = 0
  · rw [if_pos hWhole, if_pos hWhole]
    rfl
  · rw [if_neg hWhole, if_neg hWhole]

theorem performCommand_take
    {length : Nat}
    (hLength : length ≤ (encode bytes).length) :
    session.performCommand
        (.ofList
          (clipboardFront name ++
            (encode bytes).take length)) =
      if length % 4 = 0 then
        session.notify
          (clipboardNotice name
            (bytes.take (3 * (length / 4))))
      else
        session := by
  have hArgs :
      clipboardFront name ++ (encode bytes).take length =
        ['5', '2', ';'] ++
          (name ++ ';' :: (encode bytes).take length) := by
    unfold clipboardFront
    rw [List.append_assoc, List.append_assoc]
    rfl
  rw [hArgs, performCommand_clipboard]
  exact setClipboard_take session hName hEncode hLength

theorem performCommand_whole
    {maxBytes : Nat}
    (hRoom :
      4 + Parser.byteSize name + (encode bytes).length ≤
        maxBytes) :
    session.performCommand
        ((clipboardFront name ++ encode bytes).foldl
          (Reader.appendWithin maxBytes) "") =
      session.notify (clipboardNotice name bytes) := by
  have hFront := byteSize_clipboardFront name
  have hText :=
    hEncode.byteSize_take bytes (encode bytes).length
  have hLength := hEncode.length_encode bytes
  have hTold :=
    session.performCommand_take hName hEncode
      (Nat.le_refl (encode bytes).length)
  rw [List.take_length, Nat.min_self] at hText
  rw [List.take_length, if_pos (by omega),
    List.take_of_length_le (by omega)] at hTold
  rw [Reader.foldl_appendWithin_of_le]
  · exact hTold
  · rw [Parser.byteSize_append]
    omega

theorem performCommand_cut
    {maxBytes length : Nat}
    (hLength : length < (encode bytes).length)
    (hCut : 4 + Parser.byteSize name + length = maxBytes) :
    session.performCommand
        ((clipboardFront name ++ encode bytes).foldl
          (Reader.appendWithin maxBytes) "") =
      if length % 4 = 0 then
        session.notify
          (clipboardNotice name
            (bytes.take (3 * (length / 4))))
      else
        session := by
  have hFull :
      Parser.byteSize
          (clipboardFront name ++
            (encode bytes).take length) =
        maxBytes := by
    rw [Parser.byteSize_append, byteSize_clipboardFront,
      hEncode.byteSize_take]
    omega
  have hSplit :
      clipboardFront name ++ encode bytes =
        clipboardFront name ++ (encode bytes).take length ++
          (encode bytes).drop length := by
    rw [List.append_assoc, List.take_append_drop]
  rw [hSplit, Reader.foldl_appendWithin_of_full hFull]
  exact
    session.performCommand_take hName hEncode
      (Nat.le_of_lt hLength)

end

end Session

namespace Terminal

open Session

------------------------------------------------------------
-- Requests
------------------------------------------------------------

/- A command between its introducer and a bell. -/
def command
    (chars : List Char) : List UInt8 :=
  Utf8.encodeAll (['\x1B', ']'] ++ chars ++ ['\x07'])

/-
  The command that puts a text in base64 on the clipboard with
  a name.
-/
def clipboardRequest
    (name text : List Char) : List UInt8 :=
  command (clipboardFront name ++ text)

section

variable [TextLibrary]

theorem session_process_command
    {terminal : Terminal}
    (hReady : terminal.decoder.isPending = false)
    {chars : List Char}
    (hChars : ∀ c ∈ chars, Parser.isStringData c) :
    (terminal.process (command chars)).session =
      terminal.session.performCommand
        (chars.foldl
          (Reader.appendWithin terminal.parser.maxStringBytes)
          "") := by
  have hStart : terminal.decoder = .start := by
    have hNone : terminal.decoder.pending = none :=
      Option.not_isSome_iff_eq_none.mp
        (Bool.not_eq_true _ ▸ hReady)
    rw [Utf8.Decoder.start, ← hNone]
  have hEvents :
      (terminal.parser.run
          (['\x1B', ']'] ++ chars ++ ['\x07'])).2 =
        [.string .systemCommand
          (chars.foldl
            (Reader.appendWithin
              terminal.parser.maxStringBytes) "")] :=
    congrArg Prod.snd
      (terminal.parser.observe_string
        (show
          StringKind.systemCommand.Introduces ['\x1B', ']']
          from .escape)
        hChars .bell)
  rw [process_eq]
  unfold events command
  rw [hStart, Utf8.pushAll_encodeAll, hEvents]
  rfl

theorem isStringData_clipboard
    {encode : List UInt8 → List Char}
    (hEncode : TextLibrary.ReadsBase64 encode)
    {name : List Char}
    (hName : ∀ c ∈ name, Parser.isControl c = false)
    (bytes : List UInt8) :
    ∀ c ∈ clipboardFront name ++ encode bytes,
      Parser.isStringData c := by
  have hNumber :
      ∀ c ∈ ['5', '2', ';'], Parser.isStringData c :=
    List.all_eq_true.mp (by decide)
  have hLast : Parser.isStringData ';' := by decide
  have hText :
      ∀ c ∈ encode bytes, Parser.isStringData c = true :=
    hEncode.forall_mem_encode (by decide) bytes
  unfold clipboardFront
  simp only [List.forall_mem_append,
    List.forall_mem_singleton]
  refine ⟨⟨⟨hNumber, fun c hChar => ?_⟩, hLast⟩, hText⟩
  exact Parser.isStringData_of_not_isControl (hName c hChar)

/-
  What comes of a request, by where a string is cut: behind
  the request, within the base64, or in front of it.  A cut
  inside a character of the name is none of these.
-/
structure HandsOver
    (session after : Session)
    (name text : List Char)
    (bytes : List UInt8) : Prop where
  whole :
    4 + Parser.byteSize name + text.length ≤
        session.config.maxStringBytes →
      after = session.notify (clipboardNotice name bytes)
  cut :
    ∀ length < text.length,
      4 + Parser.byteSize name + length =
          session.config.maxStringBytes →
        after =
          if length % 4 = 0 then
            session.notify
              (clipboardNotice name
                (bytes.take (3 * (length / 4))))
          else
            session
  unnamed :
    ∀ kept,
      kept <+: ['5', '2', ';'] ++ name →
        Parser.byteSize kept =
            session.config.maxStringBytes →
          after = session

/-
  All bytes are handed over, or those of the whole groups that
  are kept if nothing but whole groups is kept, or none.
-/
theorem Reachable.clipboard_of_request
    {encode : List UInt8 → List Char}
    (hEncode : TextLibrary.ReadsBase64 encode)
    {terminal : Terminal}
    (hTerminal : Reachable terminal)
    (hReady : terminal.decoder.isPending = false)
    {name : List Char}
    (hName :
      ∀ c ∈ name, c ≠ ';' ∧ Parser.isControl c = false)
    (bytes : List UInt8) :
    HandsOver terminal.session
      (terminal.process
        (clipboardRequest name (encode bytes))).session
      name (encode bytes) bytes := by
  rcases hTerminal.wellFormed with
    ⟨config, cols, rows, hWellFormed⟩
  have hKept :
      terminal.parser.maxStringBytes =
        terminal.session.config.maxStringBytes := by
    rw [hWellFormed.maxStringBytes_eq,
      hWellFormed.session.config_eq]
  have hSeparate : ';' ∉ name :=
    fun hMem => (hName _ hMem).1 rfl
  have hPrintable : ∀ c ∈ name, Parser.isControl c = false :=
    fun c hChar => (hName c hChar).2
  have hCommand :=
    session_process_command hReady
      (isStringData_clipboard hEncode hPrintable bytes)
  rw [hKept] at hCommand
  exact
    { whole := fun hRoom =>
        hCommand.trans
          (performCommand_whole _ hSeparate hEncode hRoom)
      cut := fun length hLength hCut =>
        hCommand.trans
          (performCommand_cut _ hSeparate hEncode hLength hCut)
      unnamed := fun kept hStarts hCut =>
        hCommand.trans
          (performCommand_unnamed _ hSeparate hStarts hCut _) }

end

/- A terminal that keeps eight bytes of a string. -/
def keepingEight : Terminal :=
  start 5 1 { Config.default with maxStringBytes := 8 }

theorem reachable_keepingEight
    [TextLibrary] :
    Reachable keepingEight :=
  have hCreated :
      create 5 1 { Config.default with maxStringBytes := 8 } =
        .ok keepingEight :=
    rfl
  .create hCreated

/- Of five bytes, three are told. -/
theorem clipboard_of_cutRequest :
    keepingEight.decoder.isPending = false ∧
      (keepingEight.process
          (clipboardRequest []
            (Base64.encode
              [0x48, 0x65, 0x6C, 0x6C, 0x6F]))).session =
        keepingEight.session.notify
          (clipboardNotice [] [0x48, 0x65, 0x6C]) := by
  have hTold :=
    reachable_keepingEight.clipboard_of_request
      Base64.readsBase64 rfl (List.forall_mem_nil _)
      [0x48, 0x65, 0x6C, 0x6C, 0x6F]
  exact
    ⟨rfl, (hTold.cut 4 (by decide) rfl).trans (if_pos rfl)⟩

/- So it is not true that either all is told or nothing. -/
theorem not_forall_clipboard_whole :
    ¬∀ terminal,
      Reachable terminal →
        terminal.decoder.isPending = false →
          ∀ name bytes,
            (∀ c ∈ name,
                c ≠ ';' ∧ Parser.isControl c = false) →
              (terminal.process
                    (clipboardRequest name
                      (Base64.encode
                        bytes))).session.notices =
                  terminal.session.notices ++
                    [clipboardNotice name bytes] ∨
                (terminal.process
                    (clipboardRequest name
                      (Base64.encode
                        bytes))).session.notices =
                  terminal.session.notices := by
  intro hAlways
  have hTold :=
    hAlways keepingEight reachable_keepingEight rfl []
      [0x48, 0x65, 0x6C, 0x6C, 0x6F] (List.forall_mem_nil _)
  revert hTold
  decide +kernel

end Terminal

end VideoTerminal
