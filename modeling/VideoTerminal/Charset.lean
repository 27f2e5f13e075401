/-
  This file defines the character sets that an application can
  choose among, and the four slots that it designates them to.

  Key definitions include:
    * `Charset`
    * `Charset.substitute`
    * `Charsets`
    * `Charsets.designate`
    * `Charsets.shift`
    * `Charsets.substitute`
-/

namespace VideoTerminal

------------------------------------------------------------
-- Character Sets
------------------------------------------------------------

/- A set of characters for the positions of ASCII. -/
inductive Charset where
  | ascii
  | lineDrawing
  | british
  deriving DecidableEq, Repr

namespace Charset

/- The set that a designating character stands for. -/
def ofDesignator?
    (c : Char) : Option Charset :=
  match c with
  | 'B' => some ascii
  | '0' => some lineDrawing
  | 'A' => some british
  | _ => none

/-
  The line drawing characters for the positions from the
  underscore to the tilde.
-/
def lineDrawingChars : List Char :=
  [' ', '◆', '▒', '␉', '␌', '␍', '␊', '°',
    '±', '␤', '␋', '┘', '┐', '┌', '└', '┼',
    '⎺', '⎻', '─', '⎼', '⎽', '├', '┤', '┴',
    '┬', '│', '≤', '≥', 'π', '≠', '£', '·']

/-
  The character at the position of a given one.  Characters
  outside the set's positions stand for themselves.
-/
def substitute
    (charset : Charset)
    (c : Char) : Char :=
  match charset with
  | ascii => c
  | british => if c = '#' then '£' else c
  | lineDrawing =>
    if '_'.toNat ≤ c.toNat then
      (lineDrawingChars[c.toNat - '_'.toNat]?).getD c
    else
      c

end Charset

------------------------------------------------------------
-- Slots
------------------------------------------------------------

/- The designated character sets and the slot in use. -/
structure Charsets where
  slots : Vector Charset 4
  active : Fin 4
  deriving DecidableEq, Repr

namespace Charsets

/- ASCII in every slot. -/
def default : Charsets :=
  ⟨Vector.replicate 4 .ascii, 0⟩

/- Put a set into a slot.  There is no slot above 3. -/
def designate
    (charsets : Charsets)
    (slot : Nat)
    (charset : Charset) : Charsets :=
  { charsets with
    slots := charsets.slots.setIfInBounds slot charset }

/- Use another slot.  There is no slot above 3. -/
def shift
    (charsets : Charsets)
    (slot : Nat) : Charsets :=
  if h : slot < 4 then
    { charsets with active := ⟨slot, h⟩ }
  else
    charsets

/- Substitute a character by the set in use. -/
def substitute
    (charsets : Charsets)
    (c : Char) : Char :=
  charsets.slots[charsets.active].substitute c

end Charsets

end VideoTerminal
