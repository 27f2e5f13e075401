import Mathlib.Algebra.Group.Int.Defs
import Mathlib.Algebra.Group.Nat.Defs
import VideoTerminal.Word

/-
  The numbers that a machine word of 64 bits has room for, and
  those next to them.

  Main declarations:
    * `Word.signed_eq`
    * `Word.signed_of_le`
    * `Word.next_injective`
-/

namespace VideoTerminal

namespace Word

/- A number that the word has room for. -/
theorem signed_eq
    {n : Int}
    (hLow : -2 ^ 63 ≤ n)
    (hHigh : n < 2 ^ 63) :
    signed n = n := by
  apply Int.bmod_eq_of_le
  · exact hLow
  · exact hHigh

theorem signed_natCast
    {n : Nat}
    (hHigh : n < 2 ^ 63) :
    signed n = n := by
  apply signed_eq
  · omega
  · omega

/- A number that the word has no room for becomes negative. -/
theorem signed_of_le
    {n : Int}
    (hLow : 2 ^ 63 ≤ n)
    (hHigh : n < 2 ^ 64) :
    signed n = n - 2 ^ 64 := by
  have hSize : (UInt64.size : Int) = 2 ^ 64 := by decide
  unfold signed
  rw [← Int.sub_bmod_right, hSize]
  apply Int.bmod_eq_of_le
  · show -2 ^ 63 ≤ n - 2 ^ 64
    omega
  · show n - 2 ^ 64 < 2 ^ 63
    omega

theorem next_injective
    {n m : Nat}
    (hN : n < 2 ^ 64)
    (hM : m < 2 ^ 64)
    (hNext : next n = next m) :
    n = m := by
  unfold next UInt64.size at hNext
  omega

end Word

end VideoTerminal
