import VideoTerminal.Config.Basic
import VideoTerminal.Control.Parameters
import VideoTerminal.Palette

/-
  This file defines how the parameters of a control sequence
  change the pen: single attributes, colours by number, and
  colours given by their components.

  Key definitions include:
    * `Pen.extendedColour`
    * `Pen.applyCode`
    * `Pen.select`
-/

namespace VideoTerminal

namespace Pen

------------------------------------------------------------
-- Extended Colours
------------------------------------------------------------

/- A number that is an index or a component of a colour. -/
def component?
    (value : Option Nat) : Option UInt8 :=
  (value.filter (decide <| · < 256)).map .ofNat

/- The palette colour for three components. -/
def components?
    (r g b : Option Nat) : Option UInt8 := do
  let r ← component? r
  let g ← component? g
  let b ← component? b
  return Palette.nearest r g b

/-
  The colour that sub-parameters give.  A colour space may
  stand before the components.
-/
def attachedColour? :
    List (Option Nat) → Option UInt8
  | some 5 :: index :: _ => component? index
  | [some 2, r, g, b] => components? r g b
  | some 2 :: _ :: r :: g :: b :: _ => components? r g b
  | _ => none

/-
  The colour that follows as parameters of their own, and how
  many of them belong to it.  A colour that is cut short takes
  all that is left.
-/
def followingColour
    (values : List (Option Nat)) : Option UInt8 × Nat :=
  match values with
  | some 5 :: index :: _ => (component? index, 2)
  | some 2 :: r :: g :: b :: _ => (components? r g b, 4)
  | _ => (none, values.length)

/-
  The colour after a parameter that announces one, and how
  many parameters belong to it.
-/
def extendedColour
    (rest : List Parameter) : Option UInt8 × Nat :=
  let subs := rest.takeWhile Parameter.sub
  if subs.isEmpty then
    followingColour (rest.map Parameter.value)
  else
    (attachedColour? (subs.map Parameter.value), subs.length)

------------------------------------------------------------
-- Attributes
------------------------------------------------------------

/- Change the rendition. -/
def modifyRendition
    (pen : Pen)
    (change : Rendition → Rendition) : Pen :=
  { pen with rendition := change pen.rendition }

/- The palette index of a colour given by its code. -/
def colourFrom
    (code base first : Nat) : UInt8 :=
  .ofNat (code - base + first)

/-
  Apply the code of a single attribute.  `style` is the first
  sub-parameter, which for underlining may be a zero that
  turns it off.
-/
def applyCode
    (pen : Pen)
    (config : Config)
    (code : Nat)
    (style : Option Parameter) : Pen :=
  match code with
  | 0 => config.pen
  | 1 => pen.modifyRendition ({ · with bold := true })
  | 2 => pen.modifyRendition ({ · with faint := true })
  | 3 => pen.modifyRendition ({ · with italic := true })
  | 4 =>
    let on := !style.any (·.value == some 0)
    pen.modifyRendition ({ · with underline := on })
  | 5 | 6 => pen.modifyRendition ({ · with blink := true })
  | 7 => pen.modifyRendition ({ · with inverse := true })
  | 8 => pen.modifyRendition ({ · with invisible := true })
  | 9 => pen.modifyRendition ({ · with struck := true })
  | 22 =>
    pen.modifyRendition
      ({ · with bold := false, faint := false })
  | 23 => pen.modifyRendition ({ · with italic := false })
  | 24 => pen.modifyRendition ({ · with underline := false })
  | 25 => pen.modifyRendition ({ · with blink := false })
  | 27 => pen.modifyRendition ({ · with inverse := false })
  | 28 => pen.modifyRendition ({ · with invisible := false })
  | 29 => pen.modifyRendition ({ · with struck := false })
  | 39 => { pen with foreground := config.defaultForeground }
  | 49 => { pen with background := config.defaultBackground }
  | _ =>
    if 30 ≤ code ∧ code ≤ 37 then
      { pen with foreground := colourFrom code 30 0 }
    else if 40 ≤ code ∧ code ≤ 47 then
      { pen with background := colourFrom code 40 0 }
    else if 90 ≤ code ∧ code ≤ 97 then
      { pen with foreground := colourFrom code 90 8 }
    else if 100 ≤ code ∧ code ≤ 107 then
      { pen with background := colourFrom code 100 8 }
    else
      pen

/-
  Set a colour where one has been given.  The code tells which
  of the two.
-/
def setColour
    (pen : Pen)
    (code : Nat)
    (colour : Option UInt8) : Pen :=
  match colour with
  | none => pen
  | some colour =>
    if code = 38 then
      { pen with foreground := colour }
    else
      { pen with background := colour }

------------------------------------------------------------
-- Sequences
------------------------------------------------------------

/-
  Apply the parameters one after the other.  A parameter that
  is left out counts as zero, and each takes its
  sub-parameters or its colour along.
-/
def applyAll
    (pen : Pen)
    (config : Config) :
    List Parameter → Pen
  | [] => pen
  | item :: rest =>
    let code := item.value.getD 0
    if code = 38 ∨ code = 48 then
      let (colour, count) := extendedColour rest
      applyAll (pen.setColour code colour) config
        (rest.drop count)
    else
      let subs := rest.takeWhile Parameter.sub
      applyAll (pen.applyCode config code subs.head?) config
        (rest.drop subs.length)
termination_by items => items.length
decreasing_by
  all_goals simp only [List.length_drop, List.length_cons]
  all_goals omega

/-
  The pen after a sequence that selects a rendition.  Without
  parameters it is the pen that the terminal starts with.
-/
def select
    (pen : Pen)
    (config : Config)
    (params : Parameters) : Pen :=
  if params.isEmpty then
    config.pen
  else
    pen.applyAll config params.items

end Pen

end VideoTerminal
