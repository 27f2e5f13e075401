import Mathlib.Data.Bool.AllAny
import VideoTerminal.Proofs.Session.Printing
import VideoTerminal.Proofs.Terminal.Events
import VideoTerminal.Proofs.Terminal.Reachable
import VideoTerminal.Text.Linked

/-
  A text that is printed to a new terminal is laid out by
  greedy line breaking: the history and the screen show the
  rows of the layout, as far as the history has room.

  Main declarations:
    * `Parser.run_text`
    * `Terminal.prints_process`
    * `Terminal.ShowsLayout`
    * `Terminal.showsLayout_of_created`
-/

namespace VideoTerminal

open Layout

------------------------------------------------------------
-- Text in the Input
------------------------------------------------------------

/- What takes columns is no control character. -/
theorem Layout.Printable.isControl_eq_false
    [TextLibrary]
    {cols : Nat}
    {c : Char}
    (hChar : Printable cols c) :
    Parser.isControl c = false := by
  have hWidth := hChar.displayWidth_eq
  apply Bool.eq_false_iff.mpr
  intro hControl
  have hRange :
      c.toNat < 0x20 ∨ 0x7F ≤ c.toNat ∧ c.toNat < 0xA0 := by
    unfold Parser.isControl Parser.isUpperControl at hControl
    simp only [Bool.or_eq_true, decide_eq_true_eq,
      beq_iff_eq] at hControl
    rcases hControl with (hLow | hDelete) | hHigh
    · exact Or.inl hLow
    · rw [hDelete]
      decide
    · omega
  rw [TextLibrary.displayWidth_control c hRange] at hWidth
  cases hWidth

/- A text is printed character by character. -/
theorem Parser.run_text
    {parser : Parser}
    (hGround : parser.state = .ground)
    {text : List Char}
    (hText : ∀ c ∈ text, isControl c = false) :
    parser.run text = (parser, text.map .print) := by
  induction text with
  | nil => rfl
  | cons c text hRest =>
      rcases List.forall_mem_cons.mp hText with
        ⟨hFirst, hOthers⟩
      have hStep :
          parser.step c = (parser, some (.print c)) := by
        unfold Parser.step
        rw [parser.state_eq_ground_iff.mp hGround]
        dsimp only
        rw [hFirst]
        rfl
      rw [Parser.run_cons, hStep, hRest hOthers]
      rfl

namespace Terminal

------------------------------------------------------------
-- Printed Text
------------------------------------------------------------

section

variable [TextLibrary]

/- A new terminal that reads a text prints its layout. -/
theorem prints_process
    {cols rows : Nat}
    (hCols : 0 < cols)
    (hRows : 0 < rows)
    (config : Config)
    {text : List Char}
    (hText : ∀ c ∈ text, Printable cols c) :
    ∃ others last,
      layout cols text = others ++ [last] ∧
        Session.Prints config cols rows others last
          ((start cols rows config).process
            (Utf8.encodeAll text)).session := by
  have hControl : ∀ c ∈ text, Parser.isControl c = false :=
    fun c hMem => (hText c hMem).isControl_eq_false
  have hEvents :
      (start cols rows config).events
          (Utf8.encodeAll text) =
        text.map .print := by
    unfold Terminal.events
    show ((Parser.start config.maxStringBytes).run
      (Utf8.Decoder.start.pushAll (Utf8.encodeAll
        text)).2).2 = _
    rw [Utf8.pushAll_encodeAll]
    exact congrArg Prod.snd (Parser.run_text rfl hControl)
  rcases (Session.prints_start hCols hRows config).writeAll
      hText with
    ⟨others, last, hLayout, hPrinted⟩
  refine ⟨others, last, hLayout, ?_⟩
  rw [process_eq, hEvents, List.foldl_map]
  exact hPrinted

/-
  The history followed by the screen of a terminal shows the
  layout of a text, except for lines that the history has no
  room for, with blank lines below.  The cursor is in the last
  row of the layout.
-/
structure ShowsLayout
    (config : Config)
    (cols rows : Nat)
    (text : List Char)
    (terminal : Terminal) : Prop where
  screen_eq : terminal.session.screen = .primary
  rows_eq : terminal.session.primary.lines.length = rows
  lines_eq :
    terminal.session.primary.scrollback.toList ++
        terminal.session.primary.lines =
      (linesOf cols config.pen (layout cols text)).rtake
          (config.scrollbackLines + rows) ++
        List.replicate (rows - (layout cols text).length)
          (Line.ofBlank cols config.blank)
  row_eq :
    terminal.session.cursor.row + 1 =
      min (layout cols text).length rows

/- Printing lays a text out by greedy line breaking. -/
theorem showsLayout_of_created
    {config : Config}
    {cols rows : Nat}
    {terminal : Terminal}
    (hCreated : create cols rows config = .ok terminal)
    {text : List Char}
    (hText : ∀ c ∈ text, Printable cols c) :
    ShowsLayout config cols rows text
      (terminal.process (Utf8.encodeAll text)) := by
  rcases eq_start_of_created hCreated with
    ⟨hCols, hRows, rfl⟩
  rcases prints_process hCols hRows config hText with
    ⟨others, last, hLayout, hPrints⟩
  have hAtEnd := hPrints.atEnd
  have hLength :=
    length_linesOf cols config.pen (others ++ [last])
  refine ⟨hAtEnd.screen_eq, hAtEnd.wellFormed.rows_eq, ?_, ?_⟩
  · rw [hLayout, ← hLength]
    exact hAtEnd.displays.toList_append_lines
  · rw [hLayout, ← hLength]
    exact hAtEnd.row_eq

end

/- Both kinds of line breaks, and more lines than are kept. -/
def wideAtEnd : List Char :=
  ['a', 'b', '世', 'c', '世', 'd', 'e', 'f', 'g']

example :
    layout 3 wideAtEnd =
      [['a', 'b'], ['世', 'c'], ['世', 'd'],
        ['e', 'f', 'g']] := by
  decide +kernel

theorem showsLayout_wideAtEnd :
    ShowsLayout { Config.default with scrollbackLines := 1 } 3
      2 wideAtEnd
      ((start 3 2
          { Config.default with
            scrollbackLines := 1 }).process
        (Utf8.encodeAll wideAtEnd)) :=
  have hText : ∀ c ∈ wideAtEnd, Printable 3 c :=
    List.all_iff_forall_prop.mp (by decide +kernel)
  showsLayout_of_created rfl hText

end Terminal

end VideoTerminal
