import VideoTerminal.Proofs.Line.Edit
import VideoTerminal.Text.Library

/-
  Lines of characters that can be shown.  Editing moves cells
  and puts in what it is given, so that no control character
  gets into a line by itself.

  Main declarations:
    * `Cell.Legible`
    * `Line.Legible`
    * `Line.Legible.of_cells`
    * `Line.Legible.keepingWrap`
    * `Line.Legible.eraseSpan`
-/

namespace VideoTerminal

variable [TextLibrary]

------------------------------------------------------------
-- Cells
------------------------------------------------------------

namespace Cell

/- A cell holds a character that can be shown. -/
def Legible
    (cell : Cell) : Prop :=
  TextLibrary.displayWidth cell.char ≠ none

theorem legible_of_char
    {cell : Cell}
    (c : Char)
    (hChar : cell.char = c)
    (hShown : TextLibrary.displayWidth c ≠ none) :
    cell.Legible := by
  unfold Legible
  rw [hChar]
  exact hShown

theorem legible_of_ascii
    {cell : Cell}
    (c : Char)
    (hChar : cell.char = c)
    (hLow : 0x20 ≤ c.toNat)
    (hHigh : c.toNat < 0x7F) :
    cell.Legible := by
  apply legible_of_char c hChar
  rw [TextLibrary.displayWidth_ascii c hLow hHigh]
  exact Option.some_ne_none 1

theorem legible_of_space
    {cell : Cell}
    (hSpace : cell.char = ' ') :
    cell.Legible :=
  legible_of_ascii ' ' hSpace (by decide) (by decide)

/- No cell breaks its line. -/
theorem Legible.char_ne
    {cell : Cell}
    (hCell : cell.Legible) :
    cell.char ≠ '\n' := by
  intro hBreak
  apply hCell
  rw [hBreak]
  exact TextLibrary.displayWidth_control _ (Or.inl (by decide))

end Cell

namespace Line

------------------------------------------------------------
-- Lines
------------------------------------------------------------

/- Every cell holds a character that can be shown. -/
def Legible
    (line : Line) : Prop :=
  ∀ cell ∈ line.cells, cell.Legible

theorem legible_ofBlank
    (cols : Nat)
    {blank : Cell}
    (hBlank : blank.Legible) :
    (ofBlank cols blank).Legible := by
  intro cell hCell
  rw [List.eq_of_mem_replicate hCell]
  exact hBlank

namespace Legible

variable {line after : Line} {blank : Cell}
  (hLine : line.Legible)

include hLine

theorem modify
    (col : Nat)
    {change : Cell → Cell}
    (hChange : ∀ cell, cell.Legible → (change cell).Legible) :
    (line.modify col change).Legible := by
  intro cell hCell
  rcases List.mem_iff_getElem?.mp hCell with ⟨place, hPlace⟩
  have hGet := get?_modify line col place change
  rw [get?, hPlace] at hGet
  split at hGet
  · rcases Option.map_eq_some_iff.mp hGet.symm with
      ⟨old, hOld, rfl⟩
    exact hChange old (hLine old (List.mem_of_getElem? hOld))
  · exact hLine cell (List.mem_of_getElem? hGet.symm)

theorem setWrapped
    (on : Bool) :
    (line.setWrapped on).Legible :=
  hLine.modify _ fun _ => id

section

variable (hBlank : blank.Legible)

include hBlank

/- The cells of a line moved, and blanks put between them. -/
theorem of_cells
    (hCells :
      ∀ cell ∈ after.cells, cell ∈ line.cells ∨ cell = blank) :
    after.Legible := by
  intro cell hCell
  rcases hCells cell hCell with hOld | hNew
  · exact hLine cell hOld
  · exact hNew ▸ hBlank

theorem set
    (col : Nat) :
    (line.set col blank).Legible :=
  hLine.of_cells hBlank fun _ => mem_cells_set

theorem keepingWrap
    {change : Line → Line}
    (hCells :
      ∀ cell ∈ (change (line.setWrapped false)).cells,
        cell ∈ (line.setWrapped false).cells ∨
          cell = blank) :
    (line.keepingWrap change).Legible :=
  ((hLine.setWrapped false).of_cells hBlank hCells).setWrapped _

theorem resize
    (cols : Nat) :
    (line.resize cols blank).Legible := by
  unfold Line.resize
  split
  · exact hLine
  · apply hLine.keepingWrap hBlank
    exact fun _ => mem_cells_cutOrExtended

theorem insertBlanks
    (col n : Nat) :
    (line.insertBlanks col n blank).Legible := by
  apply hLine.keepingWrap hBlank
  exact fun _ => mem_cells_opened

theorem deleteCells
    (col n : Nat) :
    (line.deleteCells col n blank).Legible := by
  apply hLine.keepingWrap hBlank
  exact fun _ => mem_cells_closed

theorem eraseSpan
    (first last : Nat) :
    (line.eraseSpan first last blank).Legible :=
  hLine.of_cells hBlank fun _ => mem_cells_eraseSpan

end

end Legible

end Line

end VideoTerminal
