import Mathlib.Data.List.TakeWhile
import VideoTerminal.Mouse
import VideoTerminal.Proofs.Text.Sequences
import VideoTerminal.Proofs.Word

/-
  What an application can tell from a report.  The code of a
  report is made of parts that do not overlap: the group of
  the button, the mark of a motion, the modifiers, and the
  place of the button in its group.

  Main declarations:
    * `MouseReport.pack`
    * `MouseReport.pack_injective`
    * `MouseEvent.code_eq_pack`
    * `MouseEvent.sgrReport_injective`
    * `MouseTracker.TellsApart`
    * `MouseTracker.tellsApart_reports`
-/

namespace VideoTerminal

------------------------------------------------------------
-- Parts of a Code
------------------------------------------------------------

namespace MouseButton

/- The button with a given code in reports. -/
def ofCode?
    (code : Nat) : Option MouseButton :=
  all.find? (·.code == code)

theorem ofCode?_code
    (button : MouseButton) :
    ofCode? button.code = some button := by
  cases button <;> rfl

theorem code_injective
    {button other : MouseButton}
    (hCode : button.code = other.code) :
    button = other := by
  have hFound := congrArg ofCode? hCode
  rw [ofCode?_code, ofCode?_code] at hFound
  exact Option.some.inj hFound

/- There is room in a group for three buttons and for none. -/
theorem code_lt
    (button : MouseButton) :
    button.code % 64 < 4 ∧ button.code < 132 := by
  cases button <;> decide

theorem code_ne_three
    (button : MouseButton) :
    button.code ≠ 3 := by
  cases button <;> decide

end MouseButton

namespace MouseModifiers

theorem code_lt
    (modifiers : MouseModifiers) :
    modifiers.code % 4 = 0 ∧ modifiers.code < 32 := by
  have hAll :
      ∀ shift alt ctrl : Bool,
        code ⟨shift, alt, ctrl⟩ % 4 = 0 ∧
          code ⟨shift, alt, ctrl⟩ < 32 := by
    decide
  exact hAll _ _ _

theorem code_injective
    {modifiers other : MouseModifiers}
    (hCode : modifiers.code = other.code) :
    modifiers = other := by
  have hAll :
      ∀ shift alt ctrl shift' alt' ctrl' : Bool,
        code ⟨shift, alt, ctrl⟩ =
            code ⟨shift', alt', ctrl'⟩ →
          MouseModifiers.mk shift alt ctrl =
            ⟨shift', alt', ctrl'⟩ := by
    decide
  exact hAll _ _ _ _ _ _ hCode

end MouseModifiers

namespace MouseReport

/- The code of no button, or of a button. -/
def buttonCode
    (button : Option MouseButton) : Nat :=
  button.elim 3 MouseButton.code

theorem buttonCode_injective
    {button other : Option MouseButton}
    (hCode : buttonCode button = buttonCode other) :
    button = other := by
  cases button with
  | none =>
      cases other with
      | none => rfl
      | some other => exact absurd hCode.symm other.code_ne_three
  | some button =>
      cases other with
      | none => exact absurd hCode button.code_ne_three
      | some other =>
          exact
            congrArg some (MouseButton.code_injective hCode)

theorem buttonCode_lt
    (button : Option MouseButton) :
    buttonCode button % 64 < 4 ∧ buttonCode button < 132 := by
  cases button with
  | none => decide
  | some button => exact button.code_lt

/- The mark of a motion. -/
def motionCode
    (motion : Bool) : Nat :=
  if motion then 32 else 0

theorem motionCode_injective :
    ∀ {motion other : Bool},
      motionCode motion = motionCode other →
        motion = other := by
  decide

theorem motionCode_cases :
    ∀ motion, motionCode motion = 0 ∨ motionCode motion = 32 := by
  decide

/- A code from its parts. -/
def pack
    (motion : Bool)
    (button : Option MouseButton)
    (modifiers : MouseModifiers) : Nat :=
  motionCode motion + buttonCode button + modifiers.code

/-
  No two codes are the same unless all their parts are.  The
  remainder by 4 is the place of the button in its group, and
  the quotient by 64 the group.
-/
theorem pack_injective
    {motion motion' : Bool}
    {button button' : Option MouseButton}
    {modifiers modifiers' : MouseModifiers}
    (hPack :
      pack motion button modifiers =
        pack motion' button' modifiers') :
    motion = motion' ∧ button = button' ∧
      modifiers = modifiers' := by
  have hMark := motionCode_cases motion
  have hMark' := motionCode_cases motion'
  have hPlace := buttonCode_lt button
  have hPlace' := buttonCode_lt button'
  have hKeys := modifiers.code_lt
  have hKeys' := modifiers'.code_lt
  unfold pack at hPack
  have hButton : buttonCode button = buttonCode button' := by
    omega
  have hMotion : motionCode motion = motionCode motion' := by
    omega
  have hModifiers : modifiers.code = modifiers'.code := by
    omega
  exact
    ⟨motionCode_injective hMotion,
      buttonCode_injective hButton,
      MouseModifiers.code_injective hModifiers⟩

end MouseReport

------------------------------------------------------------
-- Numbers in Decimal
------------------------------------------------------------

/- A number ends where a character is no digit. -/
theorem toDigits_append_inj
    {n m : Nat}
    {c d : Char}
    {rest rest' : List Char}
    (hEnd : c.isDigit = false)
    (hEnd' : d.isDigit = false)
    (hText :
      Nat.toDigits 10 n ++ c :: rest =
        Nat.toDigits 10 m ++ d :: rest') :
    n = m ∧ c :: rest = d :: rest' := by
  have hSplit :
      ∀ {k : Nat} {stop : Char} {tail : List Char},
        stop.isDigit = false →
          (Nat.toDigits 10 k ++ stop :: tail).takeWhile
                Char.isDigit =
              Nat.toDigits 10 k := by
    intro k stop tail hStop
    rw [List.takeWhile_append_of_pos fun _ hMem =>
        Nat.isDigit_of_mem_toDigits (by decide)
          (by decide) hMem,
      List.takeWhile_cons_of_neg (by simp [hStop]),
      List.append_nil]
  have hDigits := congrArg (List.takeWhile Char.isDigit) hText
  rw [hSplit hEnd, hSplit hEnd'] at hDigits
  have hNumber :=
    congrArg (fun digits => Nat.ofDigitChars 10 digits 0)
      hDigits
  simp only [Nat.ofDigitChars_ten_toDigits] at hNumber
  rw [hNumber] at hText
  exact ⟨hNumber, List.append_cancel_left hText⟩

------------------------------------------------------------
-- The Two Forms
------------------------------------------------------------

namespace MouseEvent

/-
  The button that a report tells.  The legacy form does not
  tell which one was released.
-/
def told
    (event : MouseEvent)
    (encoding : MouseEncoding)
    (subject : Option MouseButton) : Option MouseButton :=
  if encoding = .legacy ∧ event.kind = .release then
    none
  else
    subject

section

variable {event other : MouseEvent} {code code' : Nat}
  {bytes : List UInt8}

theorem buttonCode_told
    (event : MouseEvent)
    (encoding : MouseEncoding)
    (subject : Option MouseButton) :
    MouseReport.buttonCode (event.told encoding subject) =
      if encoding = .legacy ∧ event.kind = .release then
        3
      else
        subject.elim 3 MouseButton.code := by
  unfold told
  split <;> rfl

theorem code_eq_pack
    (event : MouseEvent)
    {mode : MouseMode}
    (hMode : mode ≠ .x10)
    (encoding : MouseEncoding)
    (subject : Option MouseButton) :
    event.code mode encoding subject =
      MouseReport.pack (event.kind = .motion)
        (event.told encoding subject) event.modifiers := by
  unfold code MouseReport.pack
  rw [buttonCode_told, if_neg hMode, MouseReport.motionCode]
  simp only [decide_eq_true_eq]

/- The legacy form has room for every code. -/
theorem code_lt
    (event : MouseEvent)
    (mode : MouseMode)
    (encoding : MouseEncoding)
    (subject : Option MouseButton) :
    event.code mode encoding subject < 196 := by
  have hButton :=
    MouseReport.buttonCode_lt (event.told encoding subject)
  have hModifiers := event.modifiers.code_lt
  unfold code
  dsimp only
  rw [← buttonCode_told]
  split <;> split <;> omega

/- All numbers can be read off the decimal form. -/
theorem sgrReport_injective
    (hReport : event.sgrReport code = other.sgrReport code') :
    code = code' ∧
      Word.next event.col = Word.next other.col ∧
      Word.next event.row = Word.next other.row ∧
        (event.kind = .release ↔ other.kind = .release) := by
  have hText := Utf8.encodeAll_injective hReport
  simp only [List.append_assoc, List.cons_append,
    List.nil_append, List.cons.injEq, true_and] at hText
  have hSemicolon : ';'.isDigit = false := rfl
  have hLast :
      ∀ event : MouseEvent,
        (if event.kind = .release then
            'm'
          else
            'M').isDigit = false := by
    intro event
    split <;> rfl
  rcases toDigits_append_inj hSemicolon hSemicolon hText with
    ⟨hCode, hCol⟩
  rcases toDigits_append_inj hSemicolon hSemicolon
      (List.cons.inj hCol).2 with
    ⟨hCol, hRow⟩
  rcases toDigits_append_inj (hLast event) (hLast other)
      (List.cons.inj hRow).2 with
    ⟨hRow, hKind⟩
  refine ⟨hCode, hCol, hRow, ?_⟩
  have hSuffix := (List.cons.inj hKind).1
  split at hSuffix <;> split at hSuffix <;> simp_all

theorem toNat_legacyByte
    {n : Nat}
    (hFits : n ≤ 223) :
    (legacyByte n).toNat = n + 32 := by
  unfold legacyByte
  rw [UInt8.toNat_ofNat']
  omega

/- A report in single bytes, none of which is cut off. -/
def IsLegacyReport
    (event : MouseEvent)
    (code : Nat)
    (bytes : List UInt8) : Prop :=
  ∃ b x y : UInt8,
    bytes = [0x1B, 0x5B, 0x4D, b, x, y] ∧
      b.toNat = code + 32 ∧ x.toNat = event.col + 33 ∧
        y.toNat = event.row + 33

theorem isLegacyReport_of_legacyReport?
    (hFits : code ≤ 223)
    (hReport : event.legacyReport? code = some bytes) :
    event.IsLegacyReport code bytes := by
  unfold legacyReport? at hReport
  split at hReport
  · cases hReport
  · rename_i hNear
    refine ⟨_, _, _, (Option.some.inj hReport).symm, ?_⟩
    exact
      ⟨toNat_legacyByte hFits, toNat_legacyByte (by omega),
        toNat_legacyByte (by omega)⟩

/- The three bytes are the code, the column and the row. -/
theorem IsLegacyReport.injective
    (hEvent : event.IsLegacyReport code bytes)
    (hOther : other.IsLegacyReport code' bytes) :
    code = code' ∧ event.col = other.col ∧
      event.row = other.row := by
  rcases hEvent with ⟨b, x, y, rfl, hCode, hCol, hRow⟩
  rcases hOther with
    ⟨b', x', y', hBytes, hCode', hCol', hRow'⟩
  simp only [List.cons.injEq, and_true, true_and] at hBytes
  rcases hBytes with ⟨rfl, rfl, rfl⟩
  omega

/- What two reports with one code have in common. -/
theorem same_of_code_eq
    {mode : MouseMode}
    (hMode : mode ≠ .x10)
    {encoding : MouseEncoding}
    {subject subject' : Option MouseButton}
    (hCode :
      event.code mode encoding subject =
        other.code mode encoding subject') :
    (event.kind = .motion ↔ other.kind = .motion) ∧
      event.told encoding subject =
          other.told encoding subject' ∧
        event.modifiers = other.modifiers := by
  rw [event.code_eq_pack hMode, other.code_eq_pack hMode]
    at hCode
  rcases MouseReport.pack_injective hCode with
    ⟨hMotion, hTold, hModifiers⟩
  exact ⟨decide_eq_decide.mp hMotion, hTold, hModifiers⟩

/- Both forms tell the code. -/
theorem code_eq_of_report?
    {mode : MouseMode}
    {encoding : MouseEncoding}
    {subject subject' : Option MouseButton}
    (hEvent :
      event.report? encoding
          (event.code mode encoding subject) =
        some bytes)
    (hOther :
      other.report? encoding
          (other.code mode encoding subject') =
        some bytes) :
    event.code mode encoding subject =
      other.code mode encoding subject' := by
  cases encoding with
  | legacy =>
      have hCode := event.code_lt mode .legacy subject
      have hCode' := other.code_lt mode .legacy subject'
      have hReport :=
        isLegacyReport_of_legacyReport? (by omega) hEvent
      have hReport' :=
        isLegacyReport_of_legacyReport? (by omega) hOther
      exact (hReport.injective hReport').1
  | sgr =>
      have hReport :=
        Option.some.inj (hEvent.trans hOther.symm)
      exact (sgrReport_injective hReport).1

end

end MouseEvent

------------------------------------------------------------
-- Events That Reports Tell Apart
------------------------------------------------------------

/-
  Two events of one kind, in one cell and with the same keys
  held.  The button of a motion is of no consequence.
-/
structure MouseEvent.SameReported
    (event other : MouseEvent) : Prop where
  kind_eq : event.kind = other.kind
  col_eq : event.col = other.col
  row_eq : event.row = other.row
  modifiers_eq : event.modifiers = other.modifiers
  button_eq :
    event.kind ≠ .motion → event.button = other.button

/- The numbers of the cell are those of machine words. -/
structure MouseEvent.InWords
    (event : MouseEvent) : Prop where
  col_lt : event.col < 2 ^ 64
  row_lt : event.row < 2 ^ 64

namespace MouseTracker

section

variable {tracker : MouseTracker} {mode : MouseMode}
  {encoding : MouseEncoding} {event other : MouseEvent}
  {bytes : List UInt8}

theorem report_eq_some_iff :
    (tracker.report mode encoding event).2 = some bytes ↔
      ∃ subject,
        (tracker.hold event).subject? mode event =
            some subject ∧
          event.report? encoding
              (event.code mode encoding subject) =
            some bytes := by
  unfold report
  dsimp only
  cases (tracker.hold event).subject? mode event with
  | none => simp
  | some subject => simp

/- A report on a press or a release is about its button. -/
theorem exists_button_of_subject?
    {subject : Option MouseButton}
    (hSubject : tracker.subject? mode event = some subject)
    (hStill : event.kind ≠ .motion) :
    ∃ button,
      event.button = some button ∧ subject = some button := by
  have hNamed :
      ∀ buttons : Option MouseButton,
        buttons.map some = some subject →
          (∀ button,
              buttons = some button →
                event.button = some button) →
            ∃ button,
              event.button = some button ∧
                subject = some button := by
    intro buttons hSome hEvent
    rcases Option.map_eq_some_iff.mp hSome with
      ⟨button, hButton, hEq⟩
    exact ⟨button, hEvent button hButton, hEq.symm⟩
  unfold subject? at hSubject
  cases hKind : event.kind with
  | motion => exact absurd hKind hStill
  | press =>
      rw [hKind] at hSubject
      cases mode with
      | off => cases hSubject
      | x10 | normal | buttonEvent | anyEvent =>
          exact hNamed _ hSubject fun _ hButton => hButton
  | release =>
      rw [hKind] at hSubject
      cases mode with
      | off | x10 => cases hSubject
      | normal | buttonEvent | anyEvent =>
          exact
            hNamed _ hSubject fun _ hButton =>
              (Option.filter_eq_some_iff.mp hButton).1

/-
  Reports about one button, on events that are alike in
  everything else, are on the same button.
-/
theorem sameReported_of_subject?
    {before before' : MouseTracker}
    {subject : Option MouseButton}
    (hEvent : before.subject? mode event = some subject)
    (hOther : before'.subject? mode other = some subject)
    (hKind : event.kind = other.kind)
    (hCell : event.col = other.col ∧ event.row = other.row)
    (hModifiers : event.modifiers = other.modifiers) :
    event.SameReported other where
  kind_eq := hKind
  col_eq := hCell.1
  row_eq := hCell.2
  modifiers_eq := hModifiers
  button_eq := by
    intro hStill
    rcases exists_button_of_subject? hEvent hStill with
      ⟨button, hButton, hSubject⟩
    rw [hKind] at hStill
    rcases exists_button_of_subject? hOther hStill with
      ⟨button', hButton', hSubject'⟩
    rw [hButton, hButton', ← hSubject, ← hSubject']

theorem sameReported_of_sgr
    (hMode : mode ≠ .x10)
    (hEventWords : event.InWords)
    (hOtherWords : other.InWords)
    (hEvent : (tracker.report mode .sgr event).2 = some bytes)
    (hOther : (tracker.report mode .sgr other).2 = some bytes) :
    event.SameReported other := by
  rcases report_eq_some_iff.mp hEvent with
    ⟨subject, hSubject, hReport⟩
  rcases report_eq_some_iff.mp hOther with
    ⟨subject', hSubject', hReport'⟩
  have hSame :=
    Option.some.inj (hReport.trans hReport'.symm)
  rcases MouseEvent.sgrReport_injective hSame with
    ⟨hCode, hCol, hRow, hRelease⟩
  rcases MouseEvent.same_of_code_eq hMode hCode with
    ⟨hMotion, hTold, hModifiers⟩
  have hKind : event.kind = other.kind := by
    cases hEventKind : event.kind <;>
      cases hOtherKind : other.kind <;> simp_all
  obtain rfl : subject = subject' := hTold
  have hCell :
      event.col = other.col ∧ event.row = other.row :=
    ⟨Word.next_injective hEventWords.col_lt
        hOtherWords.col_lt hCol,
      Word.next_injective hEventWords.row_lt
        hOtherWords.row_lt hRow⟩
  exact
    sameReported_of_subject? hSubject hSubject' hKind hCell
      hModifiers

theorem isLegacyReport_of_report
    (hReport :
      (tracker.report mode .legacy event).2 = some bytes) :
    ∃ subject,
      (tracker.hold event).subject? mode event =
          some subject ∧
        event.IsLegacyReport
          (event.code mode .legacy subject) bytes := by
  rcases report_eq_some_iff.mp hReport with
    ⟨subject, hSubject, hBytes⟩
  have hCode := event.code_lt mode .legacy subject
  exact
    ⟨subject, hSubject,
      MouseEvent.isLegacyReport_of_legacyReport? (by omega)
        hBytes⟩

theorem sameReported_of_legacy
    (hMode : mode ≠ .x10)
    (hKept : event.kind ≠ .release)
    (hEvent :
      (tracker.report mode .legacy event).2 = some bytes)
    (hOther :
      (tracker.report mode .legacy other).2 = some bytes) :
    event.SameReported other := by
  rcases isLegacyReport_of_report hEvent with
    ⟨subject, hSubject, hReport⟩
  rcases isLegacyReport_of_report hOther with
    ⟨subject', hSubject', hReport'⟩
  rcases hReport.injective hReport' with ⟨hCode, hCell⟩
  rcases MouseEvent.same_of_code_eq hMode hCode with
    ⟨hMotion, hTold, hModifiers⟩
  have hSubjectTold : event.told .legacy subject = subject :=
    if_neg fun hRelease => hKept hRelease.2
  rw [hSubjectTold] at hTold
  -- A release tells no button, and a press always does.
  have hOtherKept : other.kind ≠ .release := by
    intro hRelease
    have hNone : subject = none :=
      hTold.trans (if_pos ⟨rfl, hRelease⟩)
    have hStill : event.kind ≠ .motion := by
      rw [Ne, hMotion, hRelease]
      exact fun hKind => nomatch hKind
    rcases exists_button_of_subject? hSubject hStill with
      ⟨button, _, hSome⟩
    cases hNone.symm.trans hSome
  have hSubjectTold' :
      other.told .legacy subject' = subject' :=
    if_neg fun hRelease => hOtherKept hRelease.2
  have hKind : event.kind = other.kind := by
    cases hEventKind : event.kind <;>
      cases hOtherKind : other.kind <;> simp_all
  rw [hSubjectTold'] at hTold
  rw [hTold] at hSubject
  exact
    sameReported_of_subject? hSubject hSubject' hKind hCell
      hModifiers

/- The legacy form is written as far as it reaches. -/
theorem isSome_report_legacy_iff :
    (tracker.report mode .legacy event).2.isSome ↔
      ((tracker.hold event).subject? mode event).isSome ∧
        event.col < 223 ∧ event.row < 223 := by
  unfold report
  dsimp only
  cases (tracker.hold event).subject? mode event with
  | none => simp
  | some subject =>
      dsimp only [MouseEvent.report?]
      unfold MouseEvent.legacyReport?
      split
      · rename_i hFar
        simp only [Option.isSome_none, Bool.false_eq_true,
          Option.isSome_some, true_and, false_iff]
        omega
      · rename_i hNear
        simp only [Option.isSome_some, true_and, true_iff]
        omega

/- The decimal form is always written. -/
theorem isSome_report_sgr_iff :
    (tracker.report mode .sgr event).2.isSome ↔
      ((tracker.hold event).subject? mode event).isSome := by
  unfold report
  dsimp only
  cases (tracker.hold event).subject? mode event with
  | none => exact Iff.rfl
  | some subject => exact Iff.rfl

end

/-
  What an application can tell from a report, and that there
  is one for every event that the mode calls for, as far as
  the form reaches.  The modifiers are left out in the mode
  that reports presses only.
-/
structure TellsApart
    (tracker : MouseTracker)
    (mode : MouseMode) : Prop where
  sgr :
    mode ≠ .x10 →
      ∀ event other bytes,
        event.InWords →
          other.InWords →
            (tracker.report mode .sgr event).2 = some bytes →
              (tracker.report mode .sgr other).2 =
                  some bytes →
                event.SameReported other
  legacy :
    mode ≠ .x10 →
      ∀ event other bytes,
        event.kind ≠ .release →
          (tracker.report mode .legacy event).2 =
              some bytes →
            (tracker.report mode .legacy other).2 =
                some bytes →
              event.SameReported other
  bytes :
    ∀ event bytes,
      (tracker.report mode .legacy event).2 = some bytes →
        ∃ subject,
          (tracker.hold event).subject? mode event =
              some subject ∧
            event.IsLegacyReport
              (event.code mode .legacy subject) bytes
  far :
    ∀ event,
      223 ≤ event.col ∨ 223 ≤ event.row →
        (tracker.report mode .legacy event).2 = none
  written :
    ∀ event,
      ((tracker.hold event).subject? mode event).isSome →
        (tracker.report mode .sgr event).2.isSome ∧
          (event.col < 223 →
            event.row < 223 →
              (tracker.report mode .legacy event).2.isSome)

/-
  Whatever buttons are held and whatever was reported before,
  reports can be told apart.
-/
theorem tellsApart_reports
    (tracker : MouseTracker)
    (mode : MouseMode) :
    tracker.TellsApart mode where
  sgr := fun hMode _ _ _ => sameReported_of_sgr hMode
  legacy := fun hMode _ _ _ => sameReported_of_legacy hMode
  bytes := fun _ _ => isLegacyReport_of_report
  far := by
    intro event hFar
    cases hReport : (tracker.report mode .legacy event).2 with
    | none => rfl
    | some bytes =>
        have hNear :=
          isSome_report_legacy_iff.mp
            (Option.isSome_of_eq_some hReport)
        omega
  written := by
    intro event hSubject
    refine ⟨isSome_report_sgr_iff.mpr hSubject, ?_⟩
    intro hCol hRow
    exact
      isSome_report_legacy_iff.mpr ⟨hSubject, hCol, hRow⟩

/-
  A drag to the last cell that the legacy form reaches, with
  the highest code.  The button of the event is not the one
  that is reported.
-/
def farDrag
    (button : Option MouseButton) : MouseEvent :=
  ⟨.motion, button, 222, 222, ⟨true, true, true⟩⟩

theorem sameReported_farDrag :
    (farDrag none).SameReported (farDrag (some .wheelUp)) := by
  have hApart :=
    (⟨[.button11], none⟩ : MouseTracker).tellsApart_reports
      .buttonEvent
  exact
    hApart.legacy (by decide) (farDrag none)
      (farDrag (some .wheelUp))
      [0x1B, 0x5B, 0x4D, 223, 255, 255] (by decide)
      (by decide) (by decide)

end MouseTracker

end VideoTerminal
