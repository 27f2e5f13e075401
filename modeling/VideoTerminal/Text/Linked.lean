import VideoTerminal.Text.Base64
import VideoTerminal.Text.Library
import VideoTerminal.Text.Width

/-
  This file links terminals with the width of Unicode
  characters and with standard base64.

  Key definitions include:
    * `linkedText`
-/

namespace VideoTerminal

namespace Width

theorem displayWidth_of_control
    (c : Char)
    (hControl :
      c.toNat < 0x20 ∨ 0x7F ≤ c.toNat ∧ c.toNat < 0xA0) :
    displayWidth c = none := by
  unfold displayWidth
  dsimp only
  rcases hControl with hLow | ⟨hDelete, hHigh⟩
  · rw [if_pos hLow]
  · rw [if_neg (by omega), if_neg (by omega), if_pos hHigh]

theorem displayWidth_of_ascii
    (c : Char)
    (hLow : 0x20 ≤ c.toNat)
    (hHigh : c.toNat < 0x7F) :
    displayWidth c = some 1 := by
  unfold displayWidth
  dsimp only
  rw [if_neg (by omega), if_pos hHigh]

end Width

/- The libraries that terminals are linked with. -/
instance linkedText :
    TextLibrary where
  displayWidth := Width.displayWidth
  decodeBase64? := Base64.decode?
  displayWidth_control := Width.displayWidth_of_control
  displayWidth_ascii := Width.displayWidth_of_ascii

end VideoTerminal
