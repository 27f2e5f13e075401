/-
  This file defines the characters with the Unicode property
  White_Space, and trimming a text of them.

  Key definitions include:
    * `Blank.isBlank`
    * `Blank.trim`
    * `Blank.trimSpacesRight`
-/

namespace VideoTerminal

namespace Blank

------------------------------------------------------------
-- White Space
------------------------------------------------------------

/- A character has the property White_Space. -/
def isBlank
    (c : Char) : Bool :=
  let n := c.toNat
  decide (0x9 ≤ n ∧ n ≤ 0xD) ||
    decide (0x2000 ≤ n ∧ n ≤ 0x200A) ||
    [0x20, 0x85, 0xA0, 0x1680, 0x2028, 0x2029, 0x202F,
      0x205F, 0x3000].contains n

/- Drop white space from both ends of a text. -/
def trim
    (chars : List Char) : List Char :=
  ((chars.dropWhile isBlank).reverse.dropWhile
    isBlank).reverse

/- Drop one given character from the right end of a text. -/
def trimRight
    (c : Char)
    (chars : List Char) : List Char :=
  (chars.reverse.dropWhile (· == c)).reverse

/- Drop spaces from the right end of a text. -/
def trimSpacesRight
    (chars : List Char) : List Char :=
  trimRight ' ' chars

end Blank

end VideoTerminal
