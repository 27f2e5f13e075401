import VideoTerminal.Cursor
import VideoTerminal.Proofs.Line.Edit
import VideoTerminal.Text.Library

/-
  Text that is laid out in rows: each row takes characters for
  as long as they fit, and is shown by a line with blanks at
  its end.

  Main declarations:
    * `Layout.Printable`
    * `Layout.layout`
    * `Layout.rowLine`
    * `Layout.linesOf`
    * `Layout.flatten_layout`
    * `Layout.charsOf_rowLine`
-/

namespace VideoTerminal

------------------------------------------------------------
-- The Soft-Wrap Mark
------------------------------------------------------------

namespace Line

theorem isWrapped_eq_markAt
    (line : Line) :
    line.isWrapped =
      line.markAt Cell.wrapped (line.width - 1) := by
  unfold Line.isWrapped
  rw [List.getLast?_eq_getElem?]
  rfl

theorem isWrapped_setWrapped
    {line : Line}
    (hSome : 0 < line.width)
    (on : Bool) :
    (line.setWrapped on).isWrapped = on := by
  rw [isWrapped_eq_markAt, width_setWrapped,
    markAt_wrapped_setWrapped, if_pos (by omega)]

theorem charsOf_append
    (cells rest : List Cell) :
    charsOf (cells ++ rest) = charsOf cells ++ charsOf rest := by
  unfold charsOf
  rw [List.filter_append, List.map_append]

theorem charsOf_cons
    (cell : Cell)
    (cells : List Cell) :
    charsOf (cell :: cells) =
      if cell.placeholder then
        charsOf cells
      else
        cell.char :: charsOf cells := by
  unfold charsOf
  cases hPlaceholder : cell.placeholder with
  | false => simp [hPlaceholder]
  | true => simp [hPlaceholder]

/- The mark is no part of the text. -/
theorem charsOf_setWrapped
    (line : Line)
    (on : Bool) :
    charsOf (line.setWrapped on).cells =
      charsOf line.cells := by
  have hModified :
      ∀ (cells : List Cell) (col : Nat),
        charsOf (cells.modify col (·.setWrapped on)) =
          charsOf cells := by
    intro cells
    induction cells with
    | nil =>
        intro col
        rw [List.modify_nil]
    | cons cell cells hRest =>
        intro col
        cases col with
        | zero =>
            rw [List.modify_zero_cons, charsOf_cons,
              charsOf_cons]
            rfl
        | succ col =>
            rw [List.modify_succ_cons, charsOf_cons,
              charsOf_cons, hRest]
  exact hModified _ _

end Line

namespace Layout

------------------------------------------------------------
-- Greedy Line Breaking
------------------------------------------------------------

section

variable [TextLibrary]

/- The columns that a character takes. -/
def columns
    (c : Char) : Nat :=
  (TextLibrary.displayWidth c).getD 0

/-
  A character of one column or two on a screen that has as
  many.
-/
def Printable
    (cols : Nat)
    (c : Char) : Prop :=
  (TextLibrary.displayWidth c = some 1 ∨
      TextLibrary.displayWidth c = some 2) ∧
    columns c ≤ cols

instance
    (cols : Nat)
    (c : Char) :
    Decidable (Printable cols c) :=
  inferInstanceAs (Decidable (_ ∧ _))

/- The columns that a row takes. -/
def span :
    List Char → Nat
  | [] => 0
  | c :: row => columns c + span row

/-
  Go on with a row, and break it before a character that does
  not fit in what remains.
-/
def breakRows
    (cols : Nat)
    (row : List Char) :
    List Char → List (List Char)
  | [] => [row]
  | c :: text =>
    if span row + columns c ≤ cols then
      breakRows cols (row ++ [c]) text
    else
      row :: breakRows cols [c] text

/- The rows of a text. -/
def layout
    (cols : Nat)
    (text : List Char) : List (List Char) :=
  breakRows cols [] text

------------------------------------------------------------
-- Lines That Show Rows
------------------------------------------------------------

/-
  The cells that show a character.  A wide one is followed by
  its placeholder.
-/
def charCells
    (pen : Pen)
    (c : Char) : List Cell :=
  if columns c = 2 then
    [{ pen.cell c with wide := true },
      { pen.cell ' ' with placeholder := true }]
  else
    [pen.cell c]

/- A line that begins with some cells and is blank elsewhere. -/
def padded
    (cols : Nat)
    (blank : Cell)
    (cells : List Cell) : Line :=
  ⟨cells ++ List.replicate (cols - cells.length) blank⟩

/- The line that shows a row. -/
def rowLine
    (cols : Nat)
    (pen : Pen)
    (row : List Char) : Line :=
  padded cols pen.blank (row.flatMap (charCells pen))

/-
  The lines that show the rows of a text, each of which but
  the last is soft-wrapped.
-/
def linesOf
    (cols : Nat)
    (pen : Pen) :
    List (List Char) → List Line
  | [] => []
  | [row] => [rowLine cols pen row]
  | row :: next :: rows =>
    (rowLine cols pen row).setWrapped true ::
      linesOf cols pen (next :: rows)

theorem length_linesOf
    (cols : Nat)
    (pen : Pen)
    (rows : List (List Char)) :
    (linesOf cols pen rows).length = rows.length := by
  induction rows with
  | nil => rfl
  | cons row rows hRest =>
      cases rows with
      | nil => rfl
      | cons next rows => exact congrArg (· + 1) hRest

theorem length_linesOf_concat
    {cols : Nat}
    {pen : Pen}
    {others : List (List Char)}
    {last : List Char} :
    (linesOf cols pen (others ++ [last])).length =
      others.length + 1 := by
  rw [length_linesOf, List.length_append,
    List.length_singleton]

theorem linesOf_concat
    (cols : Nat)
    (pen : Pen)
    (done : List (List Char))
    (row : List Char) :
    linesOf cols pen (done ++ [row]) =
      done.map (fun row =>
          (rowLine cols pen row).setWrapped true) ++
        [rowLine cols pen row] := by
  induction done with
  | nil => rfl
  | cons first done hRest =>
      have hStep :
          linesOf cols pen (first :: (done ++ [row])) =
            (rowLine cols pen first).setWrapped true ::
              linesOf cols pen (done ++ [row]) := by
        cases done with
        | nil => rfl
        | cons next rows => rfl
      rw [List.cons_append, hStep, hRest]
      rfl

end

------------------------------------------------------------
-- Rows of a Text
------------------------------------------------------------

section

variable {cols : Nat} {row text : List Char} {c : Char}

section

variable [TextLibrary]

theorem Printable.columns_eq
    (hChar : Printable cols c) :
    columns c = 1 ∨ columns c = 2 := by
  unfold columns
  rcases hChar.1 with hNarrow | hWide
  · rw [hNarrow]
    exact Or.inl rfl
  · rw [hWide]
    exact Or.inr rfl

theorem Printable.columns_pos
    (hChar : Printable cols c) :
    0 < columns c := by
  rcases hChar.columns_eq with hNarrow | hWide
  · omega
  · omega

theorem Printable.displayWidth_eq
    (hChar : Printable cols c) :
    TextLibrary.displayWidth c = some (columns c) := by
  unfold columns
  rcases hChar.1 with hNarrow | hWide
  · rw [hNarrow]
    rfl
  · rw [hWide]
    rfl

theorem span_concat
    (row : List Char)
    (c : Char) :
    span (row ++ [c]) = span row + columns c := by
  induction row with
  | nil => exact Nat.add_comm _ 0
  | cons first row hRest =>
      rw [List.cons_append, span, span, hRest, Nat.add_assoc]

/- Breaking a text into rows loses nothing of it. -/
theorem flatten_breakRows
    (cols : Nat)
    (row text : List Char) :
    (breakRows cols row text).flatten = row ++ text := by
  induction text generalizing row with
  | nil => simp [breakRows]
  | cons c text hRest =>
      unfold breakRows
      split
      · rw [hRest, List.append_assoc]
        rfl
      · rw [List.flatten_cons, hRest]
        rfl

theorem flatten_layout
    (cols : Nat)
    (text : List Char) :
    (layout cols text).flatten = text :=
  flatten_breakRows cols [] text

/- Every row fits on a line. -/
theorem span_le_of_mem_breakRows
    (hRow : span row ≤ cols)
    (hText : ∀ c ∈ text, Printable cols c) :
    ∀ line ∈ breakRows cols row text, span line ≤ cols := by
  induction text generalizing row with
  | nil =>
      intro line hLine
      rw [List.mem_singleton.mp hLine]
      exact hRow
  | cons c text hRest =>
      rcases List.forall_mem_cons.mp hText with
        ⟨hFirst, hOthers⟩
      intro line hLine
      unfold breakRows at hLine
      split at hLine
      · rename_i hFits
        rw [← span_concat] at hFits
        exact hRest hFits hOthers line hLine
      · have hSingle : span [c] ≤ cols := hFirst.2
        rcases List.mem_cons.mp hLine with hHere | hLater
        · exact hHere ▸ hRow
        · exact hRest hSingle hOthers line hLater

theorem span_le_of_mem_layout
    (hText : ∀ c ∈ text, Printable cols c) :
    ∀ line ∈ layout cols text, span line ≤ cols :=
  span_le_of_mem_breakRows (Nat.zero_le _) hText

------------------------------------------------------------
-- Cells of a Row
------------------------------------------------------------

theorem length_charCells
    (hChar : Printable cols c)
    (pen : Pen) :
    (charCells pen c).length = columns c := by
  unfold charCells
  rcases hChar.columns_eq with hNarrow | hWide
  · rw [if_neg (by omega), hNarrow]
    rfl
  · rw [if_pos hWide, hWide]
    rfl

theorem length_rowCells
    (hRow : ∀ c ∈ row, Printable cols c)
    (pen : Pen) :
    (row.flatMap (charCells pen)).length = span row := by
  induction row with
  | nil => rfl
  | cons c row hRest =>
      rcases List.forall_mem_cons.mp hRow with
        ⟨hFirst, hOthers⟩
      rw [List.flatMap_cons, List.length_append,
        length_charCells hFirst, hRest hOthers]
      rfl

end

theorem width_padded
    {cells : List Cell}
    (hCells : cells.length ≤ cols)
    (blank : Cell) :
    (padded cols blank cells).width = cols := by
  unfold padded Line.width
  rw [List.length_append, List.length_replicate]
  omega

section

variable [TextLibrary]

theorem width_rowLine
    (hRow : ∀ c ∈ row, Printable cols c)
    (hSpan : span row ≤ cols)
    (pen : Pen) :
    (rowLine cols pen row).width = cols := by
  apply width_padded
  rw [length_rowCells hRow]
  exact hSpan

/- The text of a line is its row and the blanks at its end. -/
theorem charsOf_charCells
    (pen : Pen)
    (c : Char) :
    Line.charsOf (charCells pen c) = [c] := by
  unfold charCells
  split <;> rfl

theorem charsOf_rowCells
    (pen : Pen)
    (row : List Char) :
    Line.charsOf (row.flatMap (charCells pen)) = row := by
  induction row with
  | nil => rfl
  | cons c row hRest =>
      rw [List.flatMap_cons, Line.charsOf_append,
        charsOf_charCells, hRest]
      rfl

theorem charsOf_rowLine
    (hRow : ∀ c ∈ row, Printable cols c)
    (pen : Pen) :
    Line.charsOf (rowLine cols pen row).cells =
      row ++ List.replicate (cols - span row) ' ' := by
  have hBlanks :
      ∀ n,
        Line.charsOf (List.replicate n pen.blank) =
          List.replicate n ' ' := by
    intro n
    unfold Line.charsOf
    rw [List.filter_replicate_of_pos rfl, List.map_replicate]
    rfl
  unfold rowLine padded
  rw [Line.charsOf_append, charsOf_rowCells, hBlanks,
    length_rowCells hRow]

/- The line of a row is not soft-wrapped. -/
theorem isWrapped_rowLine
    (cols : Nat)
    (pen : Pen)
    (row : List Char) :
    (rowLine cols pen row).isWrapped = false := by
  rw [Line.isWrapped_eq_markAt]
  apply Line.markAt_eq_false_of_forall
  intro cell hCell
  rcases List.mem_append.mp hCell with hText | hBlank
  · rcases List.mem_flatMap.mp hText with ⟨c, _, hCell⟩
    unfold charCells at hCell
    split at hCell
    · rcases List.mem_cons.mp hCell with rfl | hSecond
      · rfl
      · rw [List.mem_singleton.mp hSecond]
        rfl
    · rw [List.mem_singleton.mp hCell]
      rfl
  · rw [List.eq_of_mem_replicate hBlank]
    rfl

end

end

end Layout

------------------------------------------------------------
-- Writing at the End of a Row
------------------------------------------------------------

namespace Line

theorem breakWideAt_of_plain
    {line : Line}
    {col : Nat}
    (hWide : line.isWideAt col = false)
    (hPlaceholder : line.isPlaceholderAt col = false) :
    line.breakWideAt col = line := by
  unfold Line.breakWideAt
  rw [hWide, hPlaceholder, if_neg (by simp),
    if_neg (by simp)]

open Layout in
/- Blanks are not part of a wide character. -/
theorem breakWideAt_padded
    {cols col : Nat}
    {blank : Cell}
    (hBlank : blank.IsPlain)
    {cells : List Cell}
    (hCol : cells.length ≤ col) :
    (padded cols blank cells).breakWideAt col =
      padded cols blank cells := by
  have hMark :
      ∀ mark : Cell → Bool,
        mark blank = false →
          (padded cols blank cells).markAt mark col =
            false := by
    intro mark hMark
    unfold padded Line.markAt Line.get?
    dsimp only
    rw [List.getElem?_append_right hCol,
      List.getElem?_replicate]
    split
    · exact hMark
    · rfl
  exact
    breakWideAt_of_plain (hMark _ hBlank.wide_eq)
      (hMark _ hBlank.placeholder_eq)

open Layout in
/- Cells are put in front of the blanks. -/
theorem set_padded
    {cols : Nat}
    {blank : Cell}
    {cells : List Cell}
    (hRoom : cells.length < cols)
    (cell : Cell) :
    (padded cols blank cells).set cells.length cell =
      padded cols blank (cells ++ [cell]) := by
  obtain ⟨n, hBlanks⟩ :
      ∃ n, cols - cells.length = n + 1 :=
    Nat.exists_eq_add_one.mpr (by omega)
  have hRest : cols - (cells ++ [cell]).length = n := by
    rw [List.length_append, List.length_singleton]
    omega
  unfold padded Line.set
  dsimp only
  rw [hBlanks, hRest,
    List.set_append_right _ _ (Nat.le_refl _), Nat.sub_self,
    List.replicate_succ, List.append_assoc]
  rfl

open Layout in
theorem overwrite_padded
    {cols : Nat}
    {blank : Cell}
    (hBlank : blank.IsPlain)
    {cells : List Cell}
    (hRoom : cells.length < cols)
    (cell : Cell) :
    (padded cols blank cells).overwrite cells.length cell =
      padded cols blank (cells ++ [cell]) := by
  unfold Line.overwrite
  rw [breakWideAt_padded hBlank (Nat.le_refl _),
    set_padded hRoom]

open Layout in
theorem overwriteWide_padded
    {cols : Nat}
    {blank : Cell}
    (hBlank : blank.IsPlain)
    {cells : List Cell}
    (hRoom : cells.length + 1 < cols)
    (lead second : Cell) :
    (padded cols blank cells).overwriteWide cells.length lead
        second =
      padded cols blank (cells ++ [lead, second]) := by
  have hNext :
      (cells ++ [lead]).length = cells.length + 1 := by
    rw [List.length_append, List.length_singleton]
  unfold Line.overwriteWide
  rw [breakWideAt_padded hBlank (Nat.le_refl _),
    breakWideAt_padded hBlank (Nat.le_succ _),
    set_padded (by omega), ← hNext,
    set_padded (hNext.symm ▸ hRoom), List.append_assoc]
  rfl

end Line

end VideoTerminal
