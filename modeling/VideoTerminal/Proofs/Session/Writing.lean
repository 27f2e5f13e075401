import VideoTerminal.Proofs.Session.WellFormed

/-
  What writing leaves alone.  A character that is written
  changes the screen in use, what is selected there and the
  place of the cursor, and whatever part of the session none
  of these touches stays as it is.

  Main declarations:
    * `Session.Unwritten`
    * `Session.Unwritten.scrollLines`
    * `Session.Unwritten.newLine`
    * `Session.Unwritten.softWrap`
    * `Session.Unwritten.makeRoom`
    * `Session.Unwritten.writeChar`
    * `Session.writeChar_eq`
-/

namespace VideoTerminal

namespace Session

/- The session with its cursor in another place. -/
def placed
    (session : Session)
    (col row : Nat)
    (wrapPending : Bool) : Session :=
  session.modifyCursor fun cursor =>
    { cursor with
      col := col
      row := row
      wrapPending := wrapPending }

/-
  None of the changes that writing is made of touches some
  part of the session.
-/
structure Unwritten
    {α : Type}
    (part : Session → α) : Prop where
  screen :
    ∀ session change,
      part (session.modifyActive change) = part session
  selected :
    ∀ (session : Session) selection,
      part { session with selection := selection } =
        part session
  placed :
    ∀ session col row wrapPending,
      part (session.placed col row wrapPending) = part session
  printed :
    ∀ (session : Session) last,
      part { session with lastPrinted := last } = part session

section

variable {α : Type} {part : Session → α}
  (hPart : Unwritten part)
  (session : Session)

include hPart

theorem Unwritten.scrollLines
    (origin count : Nat)
    (direction : ScrollDirection)
    (retain : Bool) :
    part
        (session.scrollLines origin count direction retain) =
      part session := by
  by_cases hNone : session.scrollCount origin count = 0
  · rw [scrollLines_of_eq_zero hNone]
  · rw [scrollLines_of_ne_zero hNone]
    exact
      (hPart.selected _ _).trans (hPart.screen session _)

theorem Unwritten.goto
    (col row : Nat) :
    part (session.goto col row) = part session :=
  hPart.placed session col row false

theorem Unwritten.newLine
    (toFirstColumn : Bool) :
    part (session.newLine toFirstColumn) = part session := by
  unfold Session.newLine
  dsimp only
  split
  · exact
      (hPart.goto _ _ _).trans
        (hPart.scrollLines session _ _ _ _)
  · split <;> exact hPart.goto session _ _

theorem Unwritten.softWrap :
    part session.softWrap = part session :=
  (hPart.newLine _ true).trans (hPart.screen session _)

theorem Unwritten.makeRoom
    (width : Nat) :
    part (session.makeRoom width) = part session := by
  have hWrapped :
      part session.wrapIfPending = part session := by
    unfold Session.wrapIfPending
    split
    · exact hPart.softWrap session
    · rfl
  rw [makeRoom_eq, ← hWrapped]
  unfold Session.fit
  split
  · split
    · exact hPart.softWrap _
    · exact hPart.placed _ _ _ _
  · rfl

theorem Unwritten.putAtCursor
    (width : Nat)
    (c : Char) :
    part (session.putAtCursor width c) = part session := by
  unfold Session.putAtCursor
  dsimp only
  exact (hPart.screen _ _).trans (hPart.selected session _)

theorem Unwritten.advance
    (width : Nat) :
    part (session.advance width) = part session := by
  unfold Session.advance modifyCursor
  dsimp only
  split
  · exact hPart.placed session _ _ _
  · exact hPart.placed session _ _ _

theorem Unwritten.writeChar
    [TextLibrary]
    (c : Char) :
    part (session.writeChar c) = part session := by
  unfold Session.writeChar
  dsimp only
  split
  · rfl
  · rfl
  · split
    · rfl
    · refine (hPart.advance _ _).trans ?_
      refine (hPart.printed _ _).trans ?_
      exact
        (hPart.putAtCursor _ _ _).trans
          (hPart.makeRoom session _)

end

/- What becomes of a character that fits. -/
theorem writeChar_eq
    [TextLibrary]
    {session : Session}
    {c : Char}
    {width : Nat}
    (hWidth :
      TextLibrary.displayWidth (session.charsets.substitute c) =
        some width)
    (hSome : 0 < width)
    (hFits : width ≤ session.cols) :
    session.writeChar c =
      { (session.makeRoom width).putAtCursor width
          (session.charsets.substitute c) with
        lastPrinted :=
          some (session.charsets.substitute c) }.advance
        width := by
  unfold Session.writeChar
  dsimp only
  rw [hWidth]
  cases width with
  | zero => exact absurd hSome (Nat.lt_irrefl 0)
  | succ width => exact if_neg (Nat.not_lt.mpr hFits)

end Session

end VideoTerminal
