/-
  This file defines what a machine word of 64 bits keeps of a
  number, with a sign and without.

  Key definitions include:
    * `Word.signed`
    * `Word.next`
-/

namespace VideoTerminal

namespace Word

/-
  The number that the lowest 64 bits of another one stand for,
  the highest of them being the sign.
-/
def signed
    (n : Int) : Int :=
  n.bmod UInt64.size

/-
  The number after another one in a word without a sign.  The
  first one comes after the last.
-/
def next
    (n : Nat) : Nat :=
  (n + 1) % UInt64.size

end Word

end VideoTerminal
