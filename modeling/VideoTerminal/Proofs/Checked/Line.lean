import VideoTerminal.Proofs.Checked.Operations
import VideoTerminal.Proofs.Line.Edit

/-
  The editing of one line by operations that can fault.  None
  of them does, for columns of the line.

  Main declarations:
    * `Line.insertBlanksChecked_eq`
    * `Line.deleteCellsChecked_eq`
    * `Line.eraseSpanChecked_eq`
-/

namespace VideoTerminal

------------------------------------------------------------
-- Rotated and Filled Slices
------------------------------------------------------------

namespace Checked

variable {α : Type}

/- Move the items from one on to the right, and fill the gap. -/
def openGap
    (items : List α)
    (start n : Nat)
    (item : α) : Option (List α) := do
  let moved ←
    onSlice items start items.length (rotateRight · n)
  onSlice moved start (start + n) (fill · item)

/- Move the items from one on to the left, and fill the end. -/
def closeGap
    (items : List α)
    (start n : Nat)
    (item : α) : Option (List α) := do
  let moved ←
    onSlice items start items.length (rotateLeft · n)
  let stop ← sub items.length n
  onSlice moved stop items.length (fill · item)

section

variable {items : List α} {start n : Nat}
  (hRoom : start + n ≤ items.length)
  (item : α)

include hRoom

theorem openGap_eq :
    openGap items start n item =
      some
        (items.take start ++ List.replicate n item ++
          (items.drop start).take
            (items.length - start - n)) := by
  have hBefore : (items.take start).length = start := by
    rw [List.length_take]
    omega
  have hLast :
      ((items.drop start).drop
        (items.length - start - n)).length = n := by
    rw [List.length_drop, List.length_drop]
    omega
  have hRotated :=
    rotateRight_append
      ((items.drop start).take (items.length - start - n))
      ((items.drop start).drop (items.length - start - n))
  have hMoved :=
    onSlice_append (items.take start) (items.drop start) []
      (rotateRight · n)
  have hFilled :=
    onSlice_append (items.take start)
      ((items.drop start).drop (items.length - start - n))
      ((items.drop start).take (items.length - start - n))
      (fill · item)
  rw [hLast, List.take_append_drop] at hRotated
  rw [hBefore, List.append_nil, List.take_append_drop,
    hRotated, List.length_drop,
    Nat.add_sub_cancel' (by omega)] at hMoved
  rw [hBefore, hLast] at hFilled
  unfold openGap
  rw [hMoved]
  simp only [Option.map_some, Option.bind_eq_bind,
    Option.bind_some, List.append_nil]
  rw [← List.append_assoc, hFilled]
  unfold fill
  rw [hLast]
  rfl

theorem closeGap_eq :
    closeGap items start n item =
      some
        (items.take start ++ items.drop (start + n) ++
          List.replicate n item) := by
  have hBefore : (items.take start).length = start := by
    rw [List.length_take]
    omega
  have hFirst : ((items.drop start).take n).length = n := by
    rw [List.length_take, List.length_drop]
    omega
  have hKept :
      (items.take start ++ items.drop (start + n)).length =
        items.length - n := by
    rw [List.length_append, List.length_take,
      List.length_drop]
    omega
  have hRotated :=
    rotateLeft_append ((items.drop start).take n)
      ((items.drop start).drop n)
  have hMoved :=
    onSlice_append (items.take start) (items.drop start) []
      (rotateLeft · n)
  have hFilled :=
    onSlice_append
      (items.take start ++ items.drop (start + n))
      ((items.drop start).take n) [] (fill · item)
  rw [hFirst, List.take_append_drop, List.drop_drop]
    at hRotated
  rw [hBefore, List.append_nil, List.take_append_drop,
    hRotated, List.length_drop,
    Nat.add_sub_cancel' (by omega)] at hMoved
  rw [hKept, hFirst, Nat.sub_add_cancel (by omega)] at hFilled
  unfold closeGap
  rw [hMoved, sub_eq (by omega)]
  simp only [Option.map_some, Option.bind_eq_bind,
    Option.bind_some]
  rw [← List.append_assoc, hFilled]
  unfold fill
  rw [hFirst]
  simp

end

end Checked

namespace Line

------------------------------------------------------------
-- Single Cells
------------------------------------------------------------

/- The cell in a column is the second half of a wide one. -/
def isPlaceholderAtChecked
    (line : Line)
    (col : Nat) : Option Bool := do
  let cell ← Checked.get line.cells col
  return cell.placeholder

/- Replace the cell in a column. -/
def setChecked
    (line : Line)
    (col : Nat)
    (cell : Cell) : Option Line := do
  let cells ← Checked.set line.cells col cell
  return ⟨cells⟩

/- Blank the halves of a wide character around a column. -/
def splitWideAtChecked
    (line : Line)
    (col : Nat)
    (blank : Cell) : Option Line := do
  if 0 < col then
    if ← line.isPlaceholderAtChecked col then
      let before ← Checked.sub col 1
      (← line.setChecked before blank).setChecked col blank
    else
      return line
  else
    return line

section

variable {line : Line} {col : Nat}
  (hCol : col < line.width)

include hCol

theorem isPlaceholderAtChecked_eq :
    line.isPlaceholderAtChecked col =
      some (line.isPlaceholderAt col) := by
  unfold isPlaceholderAtChecked isPlaceholderAt get?
  rw [Checked.get_eq hCol, List.getElem?_eq_getElem hCol]
  rfl

theorem setChecked_eq
    (cell : Cell) :
    line.setChecked col cell =
      some (line.set col cell) := by
  unfold setChecked
  rw [Checked.set_eq cell hCol]
  rfl

theorem splitWideAtChecked_eq
    (blank : Cell) :
    line.splitWideAtChecked col blank =
      some (line.splitWideAt col blank) := by
  unfold splitWideAtChecked splitWideAt
  by_cases hFirst : 0 < col
  · have hBefore : col - 1 < line.width := by omega
    have hAgain : col < (line.set (col - 1) blank).width := by
      rw [width_set]
      exact hCol
    rw [isPlaceholderAtChecked_eq hCol,
      Checked.sub_eq (show 1 ≤ col from hFirst)]
    simp only [hFirst, if_true, true_and,
      Option.bind_eq_bind, Option.bind_some,
      setChecked_eq hBefore, setChecked_eq hAgain]
    split <;> rfl
  · rw [if_neg hFirst, if_neg (fun hBoth => hFirst hBoth.1)]
    rfl

end

------------------------------------------------------------
-- Insertion and Deletion
------------------------------------------------------------

/- Blank the second half of a wide character in a column. -/
def blankPlaceholderAtChecked
    (line : Line)
    (cols col : Nat)
    (blank : Cell) : Option Line := do
  if col < cols then
    if ← line.isPlaceholderAtChecked col then
      line.setChecked col blank
    else
      return line
  else
    return line

/- Blank a wide character in the last column. -/
def blankWideAtEndChecked
    (line : Line)
    (cols : Nat)
    (blank : Cell) : Option Line := do
  let last ← Checked.sub cols 1
  return if line.isWideAt last then
      line.set last blank
    else
      line

/- Insert blanks in front of a column. -/
def insertBlanksChecked
    (line : Line)
    (cols col n : Nat)
    (blank : Cell) : Option Line := do
  let room ← Checked.sub cols col
  let n := min n room
  let split ←
    (line.setWrapped false).splitWideAtChecked col blank
  let opened ← Checked.openGap split.cells col n blank
  let mended ← blankWideAtEndChecked ⟨opened⟩ cols blank
  return mended.setWrapped line.isWrapped

/- Delete cells from a column on. -/
def deleteCellsChecked
    (line : Line)
    (cols col n : Nat)
    (blank : Cell) : Option Line := do
  let room ← Checked.sub cols col
  let n := min n room
  let split ←
    (line.setWrapped false).splitWideAtChecked col blank
  let closed ← Checked.closeGap split.cells col n blank
  let mended ←
    blankPlaceholderAtChecked ⟨closed⟩ cols col blank
  return mended.setWrapped line.isWrapped

section

variable {line : Line} {cols col : Nat}

theorem blankPlaceholderAtChecked_eq
    (hWidth : line.width = cols)
    (col : Nat)
    (blank : Cell) :
    line.blankPlaceholderAtChecked cols col blank =
      some (line.blankPlaceholderAt col blank) := by
  unfold blankPlaceholderAtChecked blankPlaceholderAt
  by_cases hCol : col < cols
  · rw [← hWidth] at hCol
    rw [isPlaceholderAtChecked_eq hCol]
    simp only [← hWidth, hCol, if_true, Option.bind_eq_bind,
      Option.bind_some, setChecked_eq hCol]
    split <;> rfl
  · have hNone : line.isPlaceholderAt col = false := by
      unfold isPlaceholderAt
      rw [get?_eq_none_of_width_le (by omega)]
      rfl
    rw [if_neg hCol, if_neg (by rw [hNone]; nofun)]
    rfl

theorem blankWideAtEndChecked_eq
    (hWidth : line.width = cols)
    (hSome : 0 < cols)
    (blank : Cell) :
    line.blankWideAtEndChecked cols blank =
      some (line.blankWideAtEnd blank) := by
  unfold blankWideAtEndChecked blankWideAtEnd
  rw [Checked.sub_eq (show 1 ≤ cols from hSome), hWidth]
  rfl

variable
  (hWidth : line.width = cols)
  (hCol : col < cols)

include hWidth hCol

/- The line that both kinds of editing start with. -/
theorem splitWideAtChecked_unwrapped
    (blank : Cell) :
    (line.setWrapped false).splitWideAtChecked col blank =
        some
          ((line.setWrapped false).splitWideAt col blank) ∧
      ((line.setWrapped false).splitWideAt col
        blank).width = cols := by
  have hOpened :
      col < (line.setWrapped false).width := by
    rw [width_setWrapped, hWidth]
    exact hCol
  refine ⟨splitWideAtChecked_eq hOpened blank, ?_⟩
  rw [width_splitWideAt, width_setWrapped, hWidth]

theorem insertBlanksChecked_eq
    (n : Nat)
    (blank : Cell) :
    line.insertBlanksChecked cols col n blank =
      some (line.insertBlanks col n blank) := by
  rcases splitWideAtChecked_unwrapped hWidth hCol blank with
    ⟨hSplit, hSame⟩
  unfold insertBlanksChecked insertBlanks keepingWrap
  rw [Checked.sub_eq (Nat.le_of_lt hCol), hSplit, hWidth]
  simp only [Option.bind_eq_bind, Option.bind_some,
    width_setWrapped, hWidth]
  generalize (line.setWrapped false).splitWideAt col blank =
    split at hSame ⊢
  subst hSame
  have hRoom :
      col + min n (split.width - col) ≤ split.width := by
    omega
  have hMended :=
    blankWideAtEndChecked_eq (width_opened split hRoom blank)
      (Nat.zero_lt_of_lt hCol) blank
  have hOpened := Checked.openGap_eq hRoom blank
  rw [hOpened]
  exact Checked.bind_eq hMended

theorem deleteCellsChecked_eq
    (n : Nat)
    (blank : Cell) :
    line.deleteCellsChecked cols col n blank =
      some (line.deleteCells col n blank) := by
  rcases splitWideAtChecked_unwrapped hWidth hCol blank with
    ⟨hSplit, hSame⟩
  unfold deleteCellsChecked deleteCells keepingWrap
  rw [Checked.sub_eq (Nat.le_of_lt hCol), hSplit, hWidth]
  simp only [Option.bind_eq_bind, Option.bind_some]
  generalize (line.setWrapped false).splitWideAt col blank =
    split at hSame ⊢
  subst hSame
  have hRoom :
      col + min n (split.width - col) ≤ split.width := by
    omega
  have hMended :=
    blankPlaceholderAtChecked_eq
      (width_closed split hRoom blank) col blank
  have hClosed := Checked.closeGap_eq hRoom blank
  rw [hClosed]
  exact Checked.bind_eq hMended

end

------------------------------------------------------------
-- Erasure
------------------------------------------------------------

/- Blank the first half of a wide character before a column. -/
def blankLeadBeforeChecked
    (line : Line)
    (col : Nat)
    (blank : Cell) : Option Line := do
  if 0 < col then
    if ← line.isPlaceholderAtChecked col then
      let before ← Checked.sub col 1
      line.setChecked before blank
    else
      return line
  else
    return line

/- Blank some columns and the wide characters cut by them. -/
def eraseSpanChecked
    (line : Line)
    (cols first last : Nat)
    (blank : Cell) : Option Line := do
  let left ← line.blankLeadBeforeChecked first blank
  let right ←
    left.blankPlaceholderAtChecked cols (last + 1) blank
  let cells ←
    Checked.onSlice right.cells first (last + 1)
      (Checked.fill · blank)
  return ⟨cells⟩

theorem blankLeadBeforeChecked_eq
    {line : Line}
    {col : Nat}
    (hCol : col < line.width)
    (blank : Cell) :
    line.blankLeadBeforeChecked col blank =
      some (line.blankLeadBefore col blank) := by
  unfold blankLeadBeforeChecked blankLeadBefore
  by_cases hFirst : 0 < col
  · have hBefore : col - 1 < line.width := by omega
    rw [isPlaceholderAtChecked_eq hCol,
      Checked.sub_eq (show 1 ≤ col from hFirst)]
    simp only [hFirst, if_true, true_and,
      Option.bind_eq_bind, Option.bind_some,
      setChecked_eq hBefore]
    split <;> rfl
  · rw [if_neg hFirst, if_neg (fun hBoth => hFirst hBoth.1)]
    rfl

/- The columns of a line as a slice of its cells. -/
theorem onSlice_fill_eq
    {line : Line}
    {first last : Nat}
    (hOrder : first ≤ last)
    (hLast : last < line.width)
    (blank : Cell) :
    Checked.onSlice line.cells first (last + 1)
        (Checked.fill · blank) =
      some (line.fillSpan first last blank).cells := by
  unfold width at hLast
  unfold Checked.onSlice Checked.fill fillSpan
  rw [Checked.slice_eq (by omega) hLast]
  simp only [Option.bind_eq_bind, Option.bind_some,
    Option.pure_def, Option.some.injEq]
  apply List.ext_getElem?
  intro col
  simp only [List.getElem?_append, List.length_append,
    List.length_take, List.length_replicate, List.length_drop,
    List.getElem?_take, List.getElem?_drop,
    List.getElem?_replicate, List.getElem?_mapIdx]
  grind

theorem eraseSpanChecked_eq
    {line : Line}
    {cols first last : Nat}
    (hWidth : line.width = cols)
    (hOrder : first ≤ last)
    (hLast : last < cols)
    (blank : Cell) :
    line.eraseSpanChecked cols first last blank =
      some (line.eraseSpan first last blank) := by
  have hLead :=
    blankLeadBeforeChecked_eq
      (show first < line.width by omega) blank
  have hLeft := width_blankLeadBefore line first blank
  have hPlaceholder :=
    blankPlaceholderAtChecked_eq (hLeft.trans hWidth)
      (last + 1) blank
  have hRight :=
    width_blankPlaceholderAt
      (line.blankLeadBefore first blank) (last + 1) blank
  have hInside :
      last <
        ((line.blankLeadBefore first
          blank).blankPlaceholderAt (last + 1)
            blank).width := by
    rw [hRight, hLeft, hWidth]
    exact hLast
  have hFilled := onSlice_fill_eq hOrder hInside blank
  unfold eraseSpanChecked
  rw [hLead]
  simp only [Option.bind_eq_bind, Option.bind_some]
  rw [hPlaceholder]
  simp only [Option.bind_some]
  rw [hFilled]
  rfl

end Line

end VideoTerminal
