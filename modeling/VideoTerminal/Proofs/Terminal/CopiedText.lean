import Mathlib.Data.Bool.AllAny
import VideoTerminal.Proofs.Selection.Copying
import VideoTerminal.Proofs.Session.Follow
import VideoTerminal.Proofs.Terminal.Printing
import VideoTerminal.Text.Linked

/-
  A text that is printed to a new terminal, and then copied by
  a selection of whole lines.  It comes back as it was, unless
  a wide character did not fit at the end of a row.

  Main declarations:
    * `Session.Prints.selectionText_eq`
    * `Terminal.CopiesBack`
    * `Terminal.copiesBack_iff`
-/

namespace VideoTerminal

open Layout

------------------------------------------------------------
-- Selections of Whole Lines
------------------------------------------------------------

namespace Selection

/- What selects all rows that continue that of a point. -/
def ofLine
    (grid : Grid)
    (point : Point)
    (screen : Screen) : Selection where
  phase := .ready
  mode := .character
  snap := .line
  anchor := point
  current := point
  first := ⟨0, grid.firstRow point.row⟩
  past := ⟨grid.cols, grid.lastRow point.row⟩
  screen := screen

theorem characterRange_line
    (grid : Grid)
    (isDelimiter : Char → Bool)
    (point : Point) :
    characterRange grid isDelimiter .line point point =
      (⟨0, grid.firstRow point.row⟩,
        ⟨grid.cols, grid.lastRow point.row⟩) := by
  unfold characterRange
  rw [ite_self]
  unfold Grid.lineStart Grid.lineEnd
  simp only [Nat.min_self]

theorem isEmpty_ofLine
    {grid : Grid}
    (hCols : 0 < grid.cols)
    {point : Point}
    (hRows :
      grid.firstRow point.row ≤ grid.lastRow point.row)
    (screen : Screen) :
    (ofLine grid point screen).isEmpty = false := by
  have hBefore :
      (ofLine grid point screen).first.Before
        (ofLine grid point screen).past := by
    unfold ofLine Point.Before
    dsimp only
    omega
  unfold Selection.isEmpty
  rw [decide_eq_true hBefore]
  rfl

/- Pressing and releasing at a point selects its line. -/
theorem finish?_begin_line
    {grid : Grid}
    (isDelimiter : Char → Bool)
    {point : Point}
    {screen : Screen}
    (hSome : (ofLine grid point screen).isEmpty = false) :
    (Selection.begin grid isDelimiter point .line .character
        screen).finish? =
      some (.ofLine grid point screen) := by
  unfold Selection.begin Selection.rangeOf
  dsimp only
  rw [characterRange_line]
  exact if_neg (Bool.eq_false_iff.mp hSome)

end Selection

namespace Session

theorem active_beginSelection
    (session : Session)
    (x y : Nat)
    (snap : Snap)
    (mode : SelectionMode) :
    (session.beginSelection x y snap mode).active =
      session.active :=
  rfl

theorem active_finishSelection
    (session : Session) :
    session.finishSelection.active = session.active :=
  rfl

/- So does pressing and releasing at a cell in view. -/
theorem selection_of_line
    {session : Session}
    {x y : Nat}
    {point : Point}
    (hPoint : session.viewportPoint x y = point)
    (hSome :
      (Selection.ofLine session.active point
        session.screen).isEmpty = false) :
    (session.beginSelection x y .line
        .character).finishSelection.selection =
      some (.ofLine session.active point session.screen) := by
  unfold Session.beginSelection Session.finishSelection
  rw [hPoint]
  exact
    Selection.finish?_begin_line session.config.isDelimiter
      hSome

section

variable [TextLibrary]
variable {config : Config} {cols rows : Nat}
  {others : List (List Char)} {last : List Char}
  {session : Session}

theorem Prints.holds
    (hPrints :
      Prints config cols rows others last session)
    (hFits : others.length + 1 ≤ config.scrollbackLines + rows)
    (hPrintable :
      ∀ row ∈ others ++ [last], ∀ c ∈ row, Printable cols c)
    (hSpan : ∀ row ∈ others ++ [last], span row ≤ cols) :
    session.primary.Holds cols rows config.scrollbackLines
      config.pen others last where
  wellFormed := hPrints.atEnd.wellFormed.primary
  cols_pos := hPrints.atEnd.wellFormed.cols_pos
  displays := hPrints.atEnd.displays
  fits := hFits
  printable := hPrintable
  span_le := hSpan

/-
  A selection of the whole line that ends in the row of the
  cursor copies all rows that have been printed.
-/
theorem Prints.selectionText_eq
    (hPrints :
      Prints config cols rows others last session)
    (hGrid :
      session.primary.Holds cols rows config.scrollbackLines
        config.pen others last)
    (hEnd : last.getLast? ≠ some ' ')
    (hWord : session.cursor.row < 2 ^ 63)
    (x : Nat) :
    (session.beginSelection x session.cursor.row .line
        .character).finishSelection.selectionText =
      .ok (.ofList (copyOf cols (others ++ [last]))) := by
  have hActive := hPrints.atEnd.active_eq
  have hScreen := hPrints.atEnd.screen_eq
  have hRow := hPrints.atEnd.row_eq
  have hSize := hGrid.size_eq
  rw [length_linesOf_concat] at hRow
  have hPoint :
      session.viewportPoint x session.cursor.row =
        ⟨x, others.length -
          session.primary.scrollback.size⟩ := by
    unfold Session.viewportPoint
    rw [hActive, hGrid.displays.view_eq,
      Word.signed_natCast hWord,
      Word.signed_natCast (by omega), Int.natCast_zero,
      Int.sub_zero, Word.signed_natCast hWord]
    congr 1
    omega
  have hWhole :
      (Selection.ofLine session.active
          ⟨x, others.length - session.primary.scrollback.size⟩
          session.screen).IsWhole cols
        (-session.primary.scrollback.size)
        (others.length -
          session.primary.scrollback.size) := by
    rw [hActive]
    refine ⟨rfl, ?_, ?_⟩
    · show Point.mk _ _ = _
      rw [hGrid.firstRow_eq]
    · show Point.mk _ _ = _
      rw [hGrid.lastRow_eq, hGrid.wellFormed.cols_eq]
  have hSome :
      (Selection.ofLine session.active
          ⟨x, others.length - session.primary.scrollback.size⟩
          session.screen).isEmpty = false := by
    rw [hActive]
    apply Selection.isEmpty_ofLine
    · rw [hGrid.wellFormed.cols_eq]
      exact hGrid.cols_pos
    · rw [hGrid.firstRow_eq, hGrid.lastRow_eq]
      omega
  rw [selectionText_of_active (selection_of_line hPoint hSome)
      rfl hSome,
    active_finishSelection, active_beginSelection,
    ← Selection.chars_of_holds hGrid hWhole hEnd, hActive]

end

end Session

namespace Terminal

------------------------------------------------------------
-- Copying What Was Printed
------------------------------------------------------------

/-
  Print a text, and select the whole line that a cell in view
  belongs to.
-/
def copying
    (text : List Char)
    (x y : Nat) : List Operation :=
  [.process (Utf8.encodeAll text),
    .beginSelection x y .line .character, .finishSelection]

section

variable [TextLibrary]

/- The selected text is what was printed. -/
def CopiesBack
    (terminal : Terminal)
    (text : List Char)
    (x y : Nat) : Prop :=
  (terminal.performAll
      (copying text x y)).session.selectionText =
    .ok (.ofList text)

section

variable {config : Config} {cols rows : Nat}
  {terminal : Terminal} {text : List Char}
  (hCreated : create cols rows config = .ok terminal)
  (hText : ∀ c ∈ text, Printable cols c)
  (hEnd : text.getLast? ≠ some ' ')
  (hFits :
    (layout cols text).length ≤ config.scrollbackLines + rows)
  (x : Nat)
  {y : Nat}
  (hLast : y + 1 = min (layout cols text).length rows)
  (hWord : y < 2 ^ 63)

include hCreated hText hEnd hFits hLast hWord

/-
  Copying yields the rows of the layout, with a space for each
  column left free by a wide character.
-/
theorem selectionText_copying :
    (terminal.performAll
        (copying text x y)).session.selectionText =
      .ok (.ofList (copyOf cols (layout cols text))) := by
  rcases eq_start_of_created hCreated with
    ⟨hCols, hRows, rfl⟩
  rcases prints_process hCols hRows config hText with
    ⟨others, last, hLayout, hPrints⟩
  have hFlat := flatten_layout cols text
  have hSpan := span_le_of_mem_layout hText
  have hRow := hPrints.atEnd.row_eq
  rw [hLayout] at hFits hLast hFlat hSpan ⊢
  rw [length_linesOf_concat] at hRow
  rw [List.length_append, List.length_singleton]
    at hFits hLast
  have hPrintable :
      ∀ row ∈ others ++ [last],
        ∀ c ∈ row, Printable cols c := by
    intro row hMem c hChar
    apply hText
    rw [← hFlat]
    exact List.mem_flatten_of_mem hMem hChar
  have hLastEnd : last.getLast? ≠ some ' ' := by
    intro hSpace
    apply hEnd
    rw [← hFlat, List.flatten_append,
      List.flatten_singleton, List.getLast?_append, hSpace]
    rfl
  have hHere :
      ((start cols rows config).process
          (Utf8.encodeAll text)).session.cursor.row = y := by
    omega
  have hGrid := hPrints.holds hFits hPrintable hSpan
  have hCopied :=
    hPrints.selectionText_eq hGrid hLastEnd
      (hHere.symm ▸ hWord) x
  rw [hHere] at hCopied
  exact hCopied

/-
  Copying gives back what was printed exactly if every row
  but the last is full, so that no wide character was moved to
  the next row for want of a second column.
-/
theorem copiesBack_iff :
    CopiesBack terminal text x y ↔
      ∀ row ∈ (layout cols text).dropLast,
        span row = cols := by
  rcases eq_start_of_created hCreated with
    ⟨hCols, hRows, _⟩
  rcases prints_process hCols hRows config hText with
    ⟨others, last, hLayout, _⟩
  have hSpan := span_le_of_mem_layout hText
  have hFlat := flatten_layout cols text
  unfold CopiesBack
  rw [selectionText_copying hCreated hText hEnd hFits x
    hLast hWord, Except.ok.injEq, String.ofList_inj]
  rw [hLayout] at hFlat hSpan ⊢
  rw [← hFlat, List.dropLast_concat]
  exact
    copyOf_eq_flatten_iff
      (fun row hMem => hSpan row (List.mem_append_left _ hMem))
      last

end

end

/- A full row in the history, and a row with wide text. -/
theorem copiesBack_fullRows :
    CopiesBack (start 3 1 .default) ['a', 'b', 'c', '世', 'd']
      2 0 :=
  have hCreated :
      create 3 1 .default = .ok (start 3 1 .default) :=
    rfl
  have hText :
      ∀ c ∈ ['a', 'b', 'c', '世', 'd'], Printable 3 c :=
    List.all_iff_forall_prop.mp (by decide +kernel)
  have hFits :
      (layout 3 ['a', 'b', 'c', '世', 'd']).length ≤
        Config.default.scrollbackLines + 1 := by
    decide +kernel
  have hLast :
      0 + 1 =
        min (layout 3 ['a', 'b', 'c', '世', 'd']).length 1 := by
    decide +kernel
  (copiesBack_iff hCreated hText (by decide) hFits 2 hLast
    (by decide)).mpr (by decide +kernel)

/- Where a wide character does not fit, a space comes back. -/
theorem not_forall_copiesBack :
    ¬∀ config cols rows terminal text x y,
      create cols rows config = .ok terminal →
        2 ≤ cols →
          text ≠ [] →
            (∀ c ∈ text, Printable cols c) →
              text.getLast? ≠ some ' ' →
                (layout cols text).length ≤
                    config.scrollbackLines + rows →
                  x < cols →
                    y + 1 =
                        min (layout cols text).length rows →
                      CopiesBack terminal text x y := by
  intro hAlways
  have hText : ∀ c ∈ ['a', 'b', '世'], Printable 3 c :=
    List.all_iff_forall_prop.mp (by decide +kernel)
  have hFits :
      (layout 3 ['a', 'b', '世']).length ≤
        Config.default.scrollbackLines + 2 := by
    decide +kernel
  have hLast :
      1 + 1 = min (layout 3 ['a', 'b', '世']).length 2 := by
    decide +kernel
  have hSame :=
    hAlways .default 3 2 (start 3 2 .default) ['a', 'b', '世']
      0 1 rfl (by decide) (by decide) hText (by decide) hFits
      (by decide) hLast
  unfold CopiesBack at hSame
  rw [selectionText_copying rfl hText (by decide) hFits 0
    hLast (by decide), Except.ok.injEq, String.ofList_inj]
    at hSame
  exact absurd hSame (by decide +kernel)

end Terminal

end VideoTerminal
