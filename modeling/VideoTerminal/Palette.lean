/-
  This file defines the palette of 256 colours, of which the
  last 240 are a cube of colours and a ramp of greys, and the
  choice of the nearest of them for a colour given by its
  three components.

  Key definitions include:
    * `Palette.cubeLevels`
    * `Palette.greyLevel`
    * `Palette.distance`
    * `Palette.nearest`
-/

namespace VideoTerminal

namespace Palette

------------------------------------------------------------
-- The Cube and the Ramp
------------------------------------------------------------

/- The six levels of a component in the cube. -/
def cubeLevels : List Nat :=
  [0, 95, 135, 175, 215, 255]

/- The level of a component in the cube. -/
def cubeLevel
    (index : Nat) : Nat :=
  cubeLevels[index]?.getD 255

/- The level of all three components in the ramp. -/
def greyLevel
    (index : Nat) : Nat :=
  8 + 10 * index

/- The palette index of a colour of the cube. -/
def cubeColour
    (r g b : Nat) : Nat :=
  16 + 36 * r + 6 * g + b

/- The palette index of a colour of the ramp. -/
def greyColour
    (index : Nat) : Nat :=
  232 + index

------------------------------------------------------------
-- The Nearest Colour
------------------------------------------------------------

/- The cube level that is nearest to a component. -/
def cubeIndex
    (component : Nat) : Nat :=
  if component < 48 then
    0
  else if component < 115 then
    1
  else
    (component - 35) / 40

/- The grey that is nearest to the mean of the components. -/
def greyIndex
    (r g b : Nat) : Nat :=
  min (((r + g + b) / 3 - 3) / 10) 23

/- The square of the difference between two levels. -/
def squareDiff
    (x y : Nat) : Nat :=
  let gap := x - y + (y - x)
  gap * gap

/- The square of the distance between two colours. -/
def distance
    (r g b r' g' b' : Nat) : Nat :=
  squareDiff r r' + squareDiff g g' + squareDiff b b'

/-
  The palette index for a colour: the nearest of the cube, or
  the nearest grey where that is nearer still.
-/
def nearest
    (r g b : UInt8) : UInt8 :=
  let (r, g, b) := (r.toNat, g.toNat, b.toNat)
  let (x, y, z) := (cubeIndex r, cubeIndex g, cubeIndex b)
  let index := greyIndex r g b
  let grey := greyLevel index
  if distance r g b grey grey grey <
      distance r g b (cubeLevel x) (cubeLevel y)
        (cubeLevel z) then
    .ofNat (greyColour index)
  else
    .ofNat (cubeColour x y z)

end Palette

end VideoTerminal
