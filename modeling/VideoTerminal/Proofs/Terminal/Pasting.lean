import VideoTerminal.Proofs.Terminal.Reachable
import VideoTerminal.Proofs.Text.Marks
import VideoTerminal.Text.Linked

/-
  Text that is pasted while the application has asked for it
  to be bracketed.  It is written between two marks, with its
  line breaks made carriage returns and otherwise as it is.
  So the mark behind it may stand in it as well.

  Main declarations:
    * `Session.Rebreaks`
    * `Session.rebreak`
    * `Session.breaksToReturns_eq_rebreak`
    * `Session.rebreaks_iff`
    * `Session.infix_rebreak_iff`
    * `Terminal.paste_brackets`
-/

namespace VideoTerminal

namespace Session

------------------------------------------------------------
-- Line Breaks
------------------------------------------------------------

/-
  Every line break of a text, which is a line feed and the
  carriage return in front of it if there is one, is a single
  carriage return in another text.
-/
inductive Rebreaks :
    List Char → List Char → Prop
  | last
      {line : List Char}
      (hLine : '\n' ∉ line) :
      Rebreaks line line
  | returned
      {line text body : List Char}
      (hLine : '\n' ∉ line)
      (hText : Rebreaks text body) :
      Rebreaks (line ++ '\r' :: '\n' :: text)
        (line ++ '\r' :: body)
  | fed
      {line text body : List Char}
      (hLine : '\n' ∉ line)
      (hAlone : line.getLast? ≠ some '\r')
      (hText : Rebreaks text body) :
      Rebreaks (line ++ '\n' :: text) (line ++ '\r' :: body)

/- Both replacements of line breaks in one pass. -/
def rebreak :
    List Char → List Char
  | [] => []
  | '\r' :: '\n' :: rest => '\r' :: rebreak rest
  | '\n' :: rest => '\r' :: rebreak rest
  | c :: rest => c :: rebreak rest

/-
  The line feeds that the first replacement leaves are those
  that stand alone, so that a text can be read once for both.
-/
theorem breaksToReturns_eq_rebreak
    (text : List Char) :
    breaksToReturns text = rebreak text := by
  unfold breaksToReturns
  fun_induction rebreak text with
  | case1 => rfl
  | case2 text hText =>
      rw [joinBreaks, ← hText]
      rfl
  | case3 text hText =>
      have hAlone :
          ∀ rest, '\n' = '\r' → text ≠ '\n' :: rest :=
        fun _ hReturn => absurd hReturn (by decide)
      rw [joinBreaks.eq_3 '\n' text hAlone, ← hText]
      rfl
  | case4 c text hAlone hChar hText =>
      have hKept : (if c = '\n' then '\r' else c) = c :=
        if_neg hChar
      rw [joinBreaks.eq_3 c text hAlone, ← hText]
      exact congrArg (· :: feedsToReturns _) hKept

section

variable {c : Char} {text : List Char}
  (hChar : c ≠ '\n')
  (hAlone : ∀ rest, c = '\r' → text ≠ '\n' :: rest)

include hChar hAlone

/- A character that is no part of a break stays. -/
theorem rebreak_cons :
    rebreak (c :: text) =
      c :: rebreak text :=
  rebreak.eq_4 c text hAlone hChar

theorem Rebreaks.cons
    {body : List Char}
    (hText : Rebreaks text body) :
    Rebreaks (c :: text) (c :: body) := by
  have hWith :
      ∀ {line : List Char},
        '\n' ∉ line → '\n' ∉ c :: line := by
    intro line hLine
    rw [List.mem_cons, not_or]
    exact ⟨hChar.symm, hLine⟩
  cases hText with
  | last hLine => exact .last (hWith hLine)
  | returned hLine hText =>
      exact .returned (hWith hLine) hText
  | @fed line text body hLine hLast hText =>
      refine .fed (hWith hLine) ?_ hText
      cases line with
      | nil =>
          intro hReturn
          exact hAlone text (Option.some.inj hReturn) rfl
      | cons head line => exact hLast

end

theorem rebreak_append
    {line text : List Char}
    (hLine : '\n' ∉ line)
    (hAlone :
      line.getLast? = some '\r' → text.head? ≠ some '\n') :
    rebreak (line ++ text) =
      line ++ rebreak text := by
  induction line with
  | nil => rfl
  | cons c line hRest =>
      rw [List.mem_cons, not_or] at hLine
      rw [List.cons_append, rebreak_cons, hRest]
      · rfl
      · exact hLine.2
      · intro hLast
        apply hAlone
        cases line with
        | nil => cases hLast
        | cons head line => exact hLast
      · exact Ne.symm hLine.1
      · rintro rest rfl hBreak
        cases line with
        | nil => exact hAlone rfl (congrArg List.head? hBreak)
        | cons head line =>
            cases hBreak
            exact hLine.2 List.mem_cons_self

/- The relation determines what is written. -/
theorem rebreaks_iff
    {text body : List Char} :
    Rebreaks text body ↔ rebreak text = body := by
  constructor
  · intro hText
    induction hText with
    | @last line hLine =>
        have hSame :
            rebreak (line ++ []) =
              line ++ rebreak [] :=
          rebreak_append hLine fun _ => nofun
        rwa [rebreak, List.append_nil] at hSame
    | @returned line text body hLine hText hBody =>
        have hReturn :
            ('\r' :: '\n' :: text).head? ≠ some '\n' := by
          rw [List.head?_cons]
          decide
        rw [rebreak_append hLine fun _ => hReturn,
          rebreak, hBody]
    | fed hLine hAlone hText hBody =>
        rw [rebreak_append hLine (absurd · hAlone),
          rebreak, hBody]
  · rintro rfl
    fun_induction rebreak text with
    | case1 => exact .last List.not_mem_nil
    | case2 text hText =>
        exact .returned List.not_mem_nil hText
    | case3 text hText =>
        exact .fed List.not_mem_nil nofun hText
    | case4 c text hAlone hChar hText =>
        exact hText.cons hChar hAlone

theorem newline_notMem_rebreak
    (text : List Char) :
    '\n' ∉ rebreak text := by
  fun_induction rebreak text with
  | case1 => exact List.not_mem_nil
  | case2 text hText =>
      exact List.not_mem_cons_of_ne_of_not_mem (by decide) hText
  | case3 text hText =>
      exact List.not_mem_cons_of_ne_of_not_mem (by decide) hText
  | case4 c text hAlone hChar hText =>
      exact
        List.not_mem_cons_of_ne_of_not_mem (Ne.symm hChar)
          hText

------------------------------------------------------------
-- Marks in Pasted Text
------------------------------------------------------------

section

variable {mark : List Char}
  (hReturn : '\r' ∉ mark)
  (hNewline : '\n' ∉ mark)

include hReturn hNewline

theorem prefix_rebreak_iff
    (text : List Char) :
    mark <+: rebreak text ↔ mark <+: text := by
  induction mark generalizing text with
  | nil => exact iff_of_true List.nil_prefix List.nil_prefix
  | cons first mark hRest =>
      rw [List.mem_cons, not_or] at hReturn hNewline
      have hLater := hRest hReturn.2 hNewline.2
      have hOther :
          ∀ {c rest},
            c = '\r' ∨ c = '\n' →
              ¬first :: mark <+: c :: rest := by
        intro c rest hBreak hHead
        rw [List.cons_prefix_cons] at hHead
        rcases hBreak with rfl | rfl
        · exact hReturn.1 hHead.1.symm
        · exact hNewline.1 hHead.1.symm
      cases text using rebreak.fun_cases with
      | case1 => rfl
      | case2 text =>
          rw [rebreak]
          exact
            iff_of_false (hOther (.inl rfl))
              (hOther (.inl rfl))
      | case3 text =>
          rw [rebreak]
          exact
            iff_of_false (hOther (.inl rfl))
              (hOther (.inr rfl))
      | case4 c text hAlone hChar =>
          rw [rebreak_cons hChar hAlone,
            List.cons_prefix_cons, List.cons_prefix_cons,
            hLater]

end

/- Changing line breaks neither makes nor breaks a mark. -/
theorem infix_rebreak_iff
    {first : Char}
    {rest : List Char}
    (hReturn : '\r' ∉ first :: rest)
    (hNewline : '\n' ∉ first :: rest)
    (text : List Char) :
    first :: rest <:+: rebreak text ↔
      first :: rest <:+: text := by
  have hPrefix := prefix_rebreak_iff hReturn hNewline
  rw [List.mem_cons, not_or] at hReturn hNewline
  have hOther :
      ∀ {c list},
        c = '\r' ∨ c = '\n' →
          (first :: rest <:+: c :: list ↔
            first :: rest <:+: list) := by
    intro c list hBreak
    have hFirst : first ∉ [c] := by
      rw [List.mem_singleton]
      rintro rfl
      exact
        hBreak.elim (Ne.symm hReturn.1) (Ne.symm hNewline.1)
    exact Mark.infix_append_iff hFirst
  fun_induction rebreak text with
  | case1 => rfl
  | case2 text hText =>
      rw [hOther (.inl rfl), hOther (.inl rfl),
        hOther (.inr rfl)]
      exact hText
  | case3 text hText =>
      rw [hOther (.inl rfl), hOther (.inr rfl)]
      exact hText
  | case4 c text hAlone hChar hText =>
      have hFront := hPrefix (c :: text)
      rw [rebreak_cons hChar hAlone] at hFront
      rw [List.infix_cons_iff, List.infix_cons_iff]
      exact or_congr hFront hText

------------------------------------------------------------
-- Bracketed Text
------------------------------------------------------------

/- What the application takes for the end of the text. -/
def endMark : List UInt8 :=
  Utf8.encodeAll pasteEnd

theorem endMark_infix_iff
    (chars : List Char) :
    endMark <:+: Utf8.encodeAll chars ↔
      pasteEnd <:+: chars := by
  have hAscii : pasteEnd.all (·.toNat < 0x80) := by decide
  simp only [List.all_eq_true, decide_eq_true_eq] at hAscii
  exact Utf8.encodeAll_infix_iff hAscii chars

/- No mark stands across the border of the first mark. -/
theorem endMark_infix_pasteStart_iff
    (body : List Char) :
    endMark <:+: Utf8.encodeAll (pasteStart ++ body) ↔
      endMark <:+: Utf8.encodeAll body := by
  have hOther :
      ¬pasteEnd <+:
        '\x1B' :: (['[', '2', '0', '0', '~'] ++ body) := by
    simp [pasteEnd]
  rw [endMark_infix_iff, endMark_infix_iff]
  show
    _ <:+: '\x1B' :: (['[', '2', '0', '0', '~'] ++ body) ↔ _
  rw [List.infix_cons_iff, or_iff_right hOther]
  exact Mark.infix_append_iff (by decide)

end Session

namespace Terminal

open Session

/-
  Pasted text is written between the marks with nothing but
  its line breaks changed.
-/
theorem paste_brackets
    [TextLibrary]
    {terminal : Terminal}
    (hOn : terminal.session.modes.bracketedPaste)
    (text : String) :
    ∃ body,
      (terminal.perform (.paste text)).1.session.outbox =
          terminal.session.outbox.write
            (Utf8.encodeAll (pasteStart ++ body ++ pasteEnd)) ∧
        Rebreaks text.toList body ∧
        0x0A ∉ Utf8.encodeAll body ∧
        (endMark <:+: Utf8.encodeAll body ↔
          endMark <:+: Utf8.ofString text) ∧
        ((∀ before after,
            Utf8.encodeAll (pasteStart ++ body ++ pasteEnd) =
                before ++ endMark ++ after →
              after = []) ↔
          ¬endMark <:+: Utf8.ofString text) := by
  have hMark :
      endMark <:+: Utf8.encodeAll
            (rebreak text.toList) ↔
        endMark <:+: Utf8.ofString text := by
    unfold Utf8.ofString
    rw [endMark_infix_iff, endMark_infix_iff]
    exact
      infix_rebreak_iff (by decide) (by decide) _
  refine
    ⟨rebreak text.toList, ?_, rebreaks_iff.mpr rfl, ?_, hMark,
      ?_⟩
  · show (terminal.session.paste text).outbox = _
    unfold Session.paste
    dsimp only
    rw [if_pos hOn, breaksToReturns_eq_rebreak]
    unfold Session.modifyActive
    split <;> rfl
  · intro hByte
    rcases List.mem_flatMap.mp hByte with
      ⟨c, hChar, hNewline⟩
    have hIff :
        .ofNat '\n'.toNat ∈ Utf8.encode c ↔ c = '\n' :=
      Utf8.mem_encode_iff (by decide) c
    exact
      newline_notMem_rebreak _
        (hIff.mp hNewline ▸ hChar)
  · rw [← hMark, ← endMark_infix_pasteStart_iff,
      Utf8.encodeAll, List.flatMap_append]
    exact Mark.forall_last_iff (by decide)

/- A terminal whose application has asked for the marks. -/
def bracketing : Terminal :=
  (createRaised 5 1).performAll
    [.process (Utf8.ofString "\u001B[?2004h")]

/- Three lines, the second of which is empty. -/
theorem paste_brackets_lines :
    bracketing.session.modes.bracketedPaste ∧
      ∃ body,
        (bracketing.perform
            (.paste "ls\r\n\nexit")).1.session.outbox =
          bracketing.session.outbox.write
            (Utf8.encodeAll (pasteStart ++ body ++ pasteEnd)) ∧
          Rebreaks "ls\r\n\nexit".toList body := by
  have hOn : bracketing.session.modes.bracketedPaste := by
    decide +kernel
  rcases paste_brackets hOn "ls\r\n\nexit" with
    ⟨body, hWritten, hBody, -⟩
  exact ⟨hOn, body, hWritten, hBody⟩

/- Text that closes the bracket itself. -/
theorem not_forall_paste_unescaped :
    ¬∀ terminal,
      Reachable terminal →
        terminal.session.modes.bracketedPaste →
          ∀ text,
            ∃ body,
              (terminal.perform
                  (.paste text)).1.session.outbox =
                terminal.session.outbox.write
                  (Utf8.encodeAll pasteStart ++ body ++
                    endMark) ∧
                ¬endMark <:+: body := by
  intro hCloses
  have hReachable : Reachable bracketing :=
    (Reachable.createRaised 5 1).performAll _
  rcases
    hCloses bracketing hReachable (by decide +kernel)
      "\u001B[201~" with
    ⟨body, hWritten, hAbsent⟩
  have hOutbox :
      (bracketing.perform
          (.paste "\u001B[201~")).1.session.outbox =
        bracketing.session.outbox.write
          (Utf8.encodeAll pasteStart ++ endMark ++ endMark) := by
    decide +kernel
  have hEmpty : bracketing.session.outbox = .empty := by
    decide +kernel
  rw [hOutbox, hEmpty] at hWritten
  have hBytes :
      Utf8.encodeAll pasteStart ++ endMark ++ endMark =
        Utf8.encodeAll pasteStart ++ body ++ endMark :=
    congrArg Outbox.buffer hWritten
  have hBody : endMark = body :=
    List.append_cancel_left (List.append_cancel_right hBytes)
  exact hAbsent (hBody ▸ List.infix_refl _)

end Terminal

end VideoTerminal
