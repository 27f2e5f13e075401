/-
  This file states what terminals need of the libraries for
  text that they are linked with: the number of columns that a
  character occupies, and the bytes that a text in base64
  stands for.

  Key definitions include:
    * `TextLibrary`
-/

namespace VideoTerminal

/-
  The libraries for text.  Control characters occupy no
  columns of their own, and each of the other characters of
  ASCII occupies one.
-/
class TextLibrary where
  displayWidth : Char → Option Nat
  decodeBase64? : List Char → Option (List UInt8)
  displayWidth_control :
    ∀ c : Char,
      c.toNat < 0x20 ∨ 0x7F ≤ c.toNat ∧ c.toNat < 0xA0 →
        displayWidth c = none
  displayWidth_ascii :
    ∀ c : Char,
      0x20 ≤ c.toNat →
        c.toNat < 0x7F → displayWidth c = some 1

end VideoTerminal
