import Mathlib.Data.Int.Lemmas
import Mathlib.Tactic.Ring
import VideoTerminal.Proofs.Checked.Rendition

/-
  The palette colour for a colour given by its components.  It
  is chosen among two candidates, and yet no other colour of
  the palette is nearer: a colour of the cube is found in each
  component on its own, and all that a grey can change is its
  distance from the mean of the components.

  Main declarations:
    * `Palette.componentsAt`
    * `Palette.squaredDistance`
    * `Palette.IsNearest`
    * `Palette.squareDiff_cubeLevel_le`
    * `Palette.distance_greyLevel_le`
    * `Palette.squaredDistance_nearest`
    * `Palette.nearestSized`
    * `Palette.isNearest_nearest`
-/

namespace VideoTerminal

namespace Palette

------------------------------------------------------------
-- The Colours of the Palette
------------------------------------------------------------

/-
  The components of the colour with an index, which is one of
  the last 240.
-/
def componentsAt
    (index : Nat) : Nat × Nat × Nat :=
  if index < 232 then
    (cubeLevel ((index - 16) / 36),
      cubeLevel ((index - 16) / 6 % 6),
      cubeLevel ((index - 16) % 6))
  else
    (greyLevel (index - 232), greyLevel (index - 232),
      greyLevel (index - 232))

/- The square of the distance of a colour from another. -/
def squaredDistance
    (r g b : Nat)
    (colour : Nat × Nat × Nat) : Int :=
  ((r : Int) - colour.1) ^ 2 + ((g : Int) - colour.2.1) ^ 2 +
    ((b : Int) - colour.2.2) ^ 2

/-
  An index is among the last 240, and no other one of these
  has a colour nearer to the given one.
-/
structure IsNearest
    (r g b index : UInt8) : Prop where
  le_index : 16 ≤ index
  distance_le :
    ∀ other : UInt8,
      16 ≤ other →
        squaredDistance r.toNat g.toNat b.toNat
            (componentsAt index.toNat) ≤
          squaredDistance r.toNat g.toNat b.toNat
            (componentsAt other.toNat)

theorem cast_squareDiff
    (x y : Nat) :
    (squareDiff x y : Int) = ((x : Int) - y) ^ 2 := by
  unfold squareDiff
  dsimp only
  rcases Nat.le_total x y with hLe | hLe
  · rw [Nat.sub_eq_zero_of_le hLe, Nat.zero_add]
    push_cast [hLe]
    ring
  · rw [Nat.sub_eq_zero_of_le hLe, Nat.add_zero]
    push_cast [hLe]
    ring

theorem squaredDistance_eq
    (r g b x y z : Nat) :
    squaredDistance r g b (x, y, z) =
      distance r g b x y z := by
  unfold squaredDistance distance
  push_cast
  rw [cast_squareDiff, cast_squareDiff, cast_squareDiff]

------------------------------------------------------------
-- The Nearest Colour of the Cube
------------------------------------------------------------

/- But for the first one, the levels are equally far apart. -/
theorem cubeLevel_eq
    {index : Nat}
    (hIndex : index < 6) :
    cubeLevel index =
      if index = 0 then 0 else 55 + 40 * index := by
  interval_cases index <;> rfl

theorem squareDiff_le
    {x y z : Nat}
    (hGap : x - y + (y - x) ≤ x - z + (z - x)) :
    squareDiff x y ≤ squareDiff x z :=
  Nat.mul_self_le_mul_self hGap

/- No level is nearer to a component than the chosen one. -/
theorem squareDiff_cubeLevel_le
    {component index : Nat}
    (hByte : component < 256)
    (hIndex : index < 6) :
    squareDiff component (cubeLevel (cubeIndex component)) ≤
      squareDiff component (cubeLevel index) := by
  apply squareDiff_le
  rw [cubeLevel_eq (cubeIndex_lt hByte), cubeLevel_eq hIndex]
  unfold cubeIndex
  split
  · rw [if_pos rfl]
    split <;> omega
  · split
    · rw [if_neg Nat.one_ne_zero]
      split <;> omega
    · rw [if_neg (by omega)]
      split <;> omega

/- The distance of the nearest colour of the cube. -/
def cubeDistance
    (r g b : Nat) : Nat :=
  distance r g b (cubeLevel (cubeIndex r))
    (cubeLevel (cubeIndex g)) (cubeLevel (cubeIndex b))

/- The distance is the sum of what each component adds. -/
theorem cubeDistance_le
    {r g b x y z : Nat}
    (hBytes : r < 256 ∧ g < 256 ∧ b < 256)
    (hIndices : x < 6 ∧ y < 6 ∧ z < 6) :
    cubeDistance r g b ≤
      distance r g b (cubeLevel x) (cubeLevel y)
        (cubeLevel z) :=
  Nat.add_le_add
    (Nat.add_le_add
      (squareDiff_cubeLevel_le hBytes.1 hIndices.1)
      (squareDiff_cubeLevel_le hBytes.2.1 hIndices.2.1))
    (squareDiff_cubeLevel_le hBytes.2.2 hIndices.2.2)

------------------------------------------------------------
-- The Nearest Grey
------------------------------------------------------------

/- The distance of the nearest grey of the ramp. -/
def greyDistance
    (r g b : Nat) : Nat :=
  let level := greyLevel (greyIndex r g b)
  distance r g b level level level

/-
  Three times the distance of a grey is the square of what
  three times its level differs from the sum, and something
  that is the same for all greys.
-/
theorem three_mul_distance_grey
    (r g b level : Nat) :
    3 * (distance r g b level level level : Int) =
      (3 * (level : Int) - (r + g + b)) ^ 2 +
        (3 * ((r : Int) ^ 2 + (g : Int) ^ 2 + (b : Int) ^ 2) -
          ((r : Int) + g + b) ^ 2) := by
  rw [← squaredDistance_eq]
  unfold squaredDistance
  ring

theorem distance_grey_le
    {r g b level other : Nat}
    (hGap :
      (3 * (level : Int) - (r + g + b)).natAbs ≤
        (3 * (other : Int) - (r + g + b)).natAbs) :
    distance r g b level level level ≤
      distance r g b other other other := by
  have hSquares := Int.natAbs_le_iff_sq_le.mp hGap
  have hLevel := three_mul_distance_grey r g b level
  have hOther := three_mul_distance_grey r g b other
  have hThrice :
      3 * (distance r g b level level level : Int) ≤
        3 * (distance r g b other other other : Int) := by
    omega
  omega

/-
  It does no harm that the mean is rounded down, because the
  middle between two levels is a whole number.
-/
theorem greyDistance_le
    {index : Nat}
    (hIndex : index < 24)
    (r g b : Nat) :
    greyDistance r g b ≤
      distance r g b (greyLevel index) (greyLevel index)
        (greyLevel index) := by
  apply distance_grey_le
  unfold greyLevel greyIndex
  omega

------------------------------------------------------------
-- The Nearest of Both
------------------------------------------------------------

theorem greyIndex_lt
    (r g b : Nat) :
    greyIndex r g b < 24 :=
  Nat.lt_succ_of_le (Nat.min_le_right _ _)

theorem componentsAt_cubeColour
    {x y z : Nat}
    (hIndices : x < 6 ∧ y < 6 ∧ z < 6) :
    componentsAt (cubeColour x y z) =
      (cubeLevel x, cubeLevel y, cubeLevel z) := by
  have hFirst : (cubeColour x y z - 16) / 36 = x := by
    unfold cubeColour
    omega
  have hSecond : (cubeColour x y z - 16) / 6 % 6 = y := by
    unfold cubeColour
    omega
  have hThird : (cubeColour x y z - 16) % 6 = z := by
    unfold cubeColour
    omega
  unfold componentsAt
  rw [hFirst, hSecond, hThird, if_pos]
  unfold cubeColour
  omega

theorem componentsAt_greyColour
    (index : Nat) :
    componentsAt (greyColour index) =
      (greyLevel index, greyLevel index, greyLevel index) := by
  unfold componentsAt greyColour
  rw [if_neg (by omega), Nat.add_sub_cancel_left]

section

variable {r g b : Nat}
  (hBytes : r < 256 ∧ g < 256 ∧ b < 256)

include hBytes

/- The two candidates leave no other colour to consider. -/
theorem min_le_squaredDistance
    {index : Nat}
    (hIndex : 16 ≤ index ∧ index < 256) :
    (min (greyDistance r g b) (cubeDistance r g b) : Int) ≤
      squaredDistance r g b (componentsAt index) := by
  unfold componentsAt
  split
  · rw [squaredDistance_eq]
    refine (Int.min_le_right _ _).trans (Int.ofNat_le.mpr ?_)
    exact
      cubeDistance_le hBytes ⟨by omega, by omega, by omega⟩
  · rw [squaredDistance_eq]
    refine (Int.min_le_left _ _).trans (Int.ofNat_le.mpr ?_)
    exact greyDistance_le (by omega) r g b

theorem cubeIndices_lt :
    cubeIndex r < 6 ∧ cubeIndex g < 6 ∧ cubeIndex b < 6 :=
  ⟨cubeIndex_lt hBytes.1, cubeIndex_lt hBytes.2.1,
    cubeIndex_lt hBytes.2.2⟩

theorem cubeColour_lt :
    cubeColour (cubeIndex r) (cubeIndex g) (cubeIndex b) <
      232 := by
  have hIndices := cubeIndices_lt hBytes
  unfold cubeColour
  omega

end

section

variable (r g b : UInt8)

theorem toNat_lt_each :
    r.toNat < 256 ∧ g.toNat < 256 ∧ b.toNat < 256 :=
  ⟨r.toNat_lt, g.toNat_lt, b.toNat_lt⟩

/- The nearest candidate is chosen. -/
theorem toNat_nearest :
    (nearest r g b).toNat =
      if greyDistance r.toNat g.toNat b.toNat <
          cubeDistance r.toNat g.toNat b.toNat then
        greyColour (greyIndex r.toNat g.toNat b.toNat)
      else
        cubeColour (cubeIndex r.toNat) (cubeIndex g.toNat)
          (cubeIndex b.toNat) := by
  have hGrey :
      greyColour (greyIndex r.toNat g.toNat b.toNat) < 256 :=
    Nat.add_lt_add_left (greyIndex_lt _ _ _) 232
  have hCube :
      cubeColour (cubeIndex r.toNat) (cubeIndex g.toNat)
        (cubeIndex b.toNat) < 256 :=
    Nat.lt_trans (cubeColour_lt (toNat_lt_each r g b))
      (by decide)
  refine (apply_ite UInt8.toNat _ _ _).trans ?_
  rw [UInt8.toNat_ofNat_of_lt' hGrey,
    UInt8.toNat_ofNat_of_lt' hCube]
  rfl

theorem le_nearest :
    16 ≤ nearest r g b := by
  rw [UInt8.le_iff_toNat_le, toNat_nearest]
  show 16 ≤ _
  unfold greyColour cubeColour
  split <;> omega

theorem squaredDistance_nearest :
    squaredDistance r.toNat g.toNat b.toNat
        (componentsAt (nearest r g b).toNat) =
      (min (greyDistance r.toNat g.toNat b.toNat)
        (cubeDistance r.toNat g.toNat b.toNat) : Int) := by
  have hIndices := cubeIndices_lt (toNat_lt_each r g b)
  rw [toNat_nearest]
  split
  · rename_i hNearer
    rw [componentsAt_greyColour, squaredDistance_eq]
    have hLe := Int.ofNat_le.mpr (Nat.le_of_lt hNearer)
    exact (Int.min_eq_left hLe).symm
  · rename_i hFarther
    rw [componentsAt_cubeColour hIndices, squaredDistance_eq]
    have hLe := Int.ofNat_le.mpr (Nat.le_of_not_lt hFarther)
    exact (Int.min_eq_right hLe).symm

end

------------------------------------------------------------
-- Words of a Limited Width
------------------------------------------------------------

/- The square of the difference of two bytes. -/
def squareDiffSized
    (x y : Nat) : Option Nat := do
  let gap ← Checked.signed 32 ((x : Int) - y)
  let square ← Checked.signed 32 (gap * gap)
  Checked.unsigned 32 square

/- The square of the distance between two colours. -/
def distanceSized
    (r g b r' g' b' : Nat) : Option Nat := do
  let first ← squareDiffSized r r'
  let second ← squareDiffSized g g'
  let both ← Checked.unsigned 32 (first + second : Nat)
  let third ← squareDiffSized b b'
  Checked.unsigned 32 (both + third : Nat)

/- The grey that is nearest to the mean of the components. -/
def greyIndexSized
    (r g b : Nat) : Option Nat := do
  let both ← Checked.unsigned 32 (r + g : Nat)
  let sum ← Checked.unsigned 32 (both + b : Nat)
  let mean := sum / 3
  if 238 < mean then
    return 23
  else
    return min ((mean - 3) / 10) 23

/- The level of all three components, as a byte. -/
def greyLevelSized
    (index : Nat) : Option Nat := do
  let above ← Checked.unsigned 32 (10 * index : Nat)
  let level ← Checked.unsigned 32 (8 + above : Nat)
  Checked.unsigned 8 level

/- The palette index of a colour of the ramp, as a byte. -/
def greyColourSized
    (index : Nat) : Option UInt8 := do
  let byte ← Checked.unsigned 8 index
  let colour ← Checked.unsigned 8 (232 + byte : Nat)
  return .ofNat colour

/- The palette index of a colour of the cube, as a byte. -/
def cubeColourSized
    (x y z : Nat) : Option UInt8 := do
  let planes ← Checked.unsigned 64 (36 * x : Nat)
  let first ← Checked.unsigned 64 (16 + planes : Nat)
  let rows ← Checked.unsigned 64 (6 * y : Nat)
  let second ← Checked.unsigned 64 (first + rows : Nat)
  let third ← Checked.unsigned 64 (second + z : Nat)
  let colour ← Checked.unsigned 8 third
  return .ofNat colour

/-
  The palette index for a colour, where every number on the
  way to it has to have room in its word.
-/
def nearestSized
    (r g b : UInt8) : Option UInt8 := do
  let (r, g, b) := (r.toNat, g.toNat, b.toNat)
  let x ← cubeIndexChecked r
  let y ← cubeIndexChecked g
  let z ← cubeIndexChecked b
  let r' ← Checked.get cubeLevels x
  let g' ← Checked.get cubeLevels y
  let b' ← Checked.get cubeLevels z
  let index ← greyIndexSized r g b
  let grey ← greyLevelSized index
  let greyDistance ← distanceSized r g b grey grey grey
  let cubeDistance ← distanceSized r g b r' g' b'
  if greyDistance < cubeDistance then
    greyColourSized index
  else
    cubeColourSized x y z

theorem squareDiff_lt
    {x y : Nat}
    (hBytes : x < 256 ∧ y < 256) :
    squareDiff x y < 2 ^ 16 := by
  have hGap : x - y + (y - x) ≤ 255 := by omega
  exact
    Nat.lt_of_le_of_lt (Nat.mul_self_le_mul_self hGap)
      (by decide)

theorem squareDiffSized_eq
    {x y : Nat}
    (hBytes : x < 256 ∧ y < 256) :
    squareDiffSized x y = some (squareDiff x y) := by
  have hSquare : ((x : Int) - y) * (x - y) = squareDiff x y := by
    rw [cast_squareDiff, pow_two]
  have hRoom := squareDiff_lt hBytes
  unfold squareDiffSized
  refine
    (Checked.bind_eq (Checked.signed_eq (by omega))).trans ?_
  rw [hSquare]
  refine
    (Checked.bind_eq (Checked.signed_eq (by omega))).trans ?_
  exact Checked.unsigned_eq (by omega)

theorem distanceSized_eq
    {r g b r' g' b' : Nat}
    (hBytes : r < 256 ∧ g < 256 ∧ b < 256)
    (hOther : r' < 256 ∧ g' < 256 ∧ b' < 256) :
    distanceSized r g b r' g' b' =
      some (distance r g b r' g' b') := by
  have hRed : r < 256 ∧ r' < 256 := ⟨hBytes.1, hOther.1⟩
  have hGreen : g < 256 ∧ g' < 256 :=
    ⟨hBytes.2.1, hOther.2.1⟩
  have hBlue : b < 256 ∧ b' < 256 := ⟨hBytes.2.2, hOther.2.2⟩
  have hFirst := squareDiff_lt hRed
  have hSecond := squareDiff_lt hGreen
  have hThird := squareDiff_lt hBlue
  unfold distanceSized
  refine (Checked.bind_eq (squareDiffSized_eq hRed)).trans ?_
  refine (Checked.bind_eq (squareDiffSized_eq hGreen)).trans ?_
  refine
    (Checked.bind_eq (Checked.unsigned_eq (by omega))).trans ?_
  refine (Checked.bind_eq (squareDiffSized_eq hBlue)).trans ?_
  exact Checked.unsigned_eq (by omega)

/- Above the mean for the last grey the limit is reached. -/
theorem greyIndexSized_eq
    {r g b : Nat}
    (hBytes : r < 256 ∧ g < 256 ∧ b < 256) :
    greyIndexSized r g b = some (greyIndex r g b) := by
  unfold greyIndexSized
  refine
    (Checked.bind_eq (Checked.unsigned_eq (by omega))).trans ?_
  refine
    (Checked.bind_eq (Checked.unsigned_eq (by omega))).trans ?_
  dsimp only
  unfold greyIndex
  split
  · exact congrArg some (by omega)
  · rfl

theorem greyLevelSized_eq
    {index : Nat}
    (hIndex : index < 24) :
    greyLevelSized index = some (greyLevel index) := by
  unfold greyLevelSized
  refine
    (Checked.bind_eq (Checked.unsigned_eq (by omega))).trans ?_
  refine
    (Checked.bind_eq (Checked.unsigned_eq (by omega))).trans ?_
  exact Checked.unsigned_eq (by omega)

theorem greyColourSized_eq
    {index : Nat}
    (hIndex : index < 24) :
    greyColourSized index =
      some (.ofNat (greyColour index)) := by
  unfold greyColourSized
  refine
    (Checked.bind_eq (Checked.unsigned_eq (by omega))).trans ?_
  exact Checked.bind_eq (Checked.unsigned_eq (by omega))

theorem cubeColourSized_eq
    {x y z : Nat}
    (hIndices : x < 6 ∧ y < 6 ∧ z < 6) :
    cubeColourSized x y z =
      some (.ofNat (cubeColour x y z)) := by
  unfold cubeColourSized
  refine
    (Checked.bind_eq (Checked.unsigned_eq (by omega))).trans ?_
  refine
    (Checked.bind_eq (Checked.unsigned_eq (by omega))).trans ?_
  refine
    (Checked.bind_eq (Checked.unsigned_eq (by omega))).trans ?_
  refine
    (Checked.bind_eq (Checked.unsigned_eq (by omega))).trans ?_
  refine
    (Checked.bind_eq (Checked.unsigned_eq (by omega))).trans ?_
  exact Checked.bind_eq (Checked.unsigned_eq (by omega))

theorem cubeLevel_lt
    {index : Nat}
    (hIndex : index < 6) :
    cubeLevel index < 256 := by
  rw [cubeLevel_eq hIndex]
  split <;> omega

theorem nearestSized_eq
    (r g b : UInt8) :
    nearestSized r g b = some (nearest r g b) := by
  have hBytes := toNat_lt_each r g b
  have hIndices := cubeIndices_lt hBytes
  have hIndex := greyIndex_lt r.toNat g.toNat b.toNat
  have hGrey :
      greyLevel (greyIndex r.toNat g.toNat b.toNat) < 256 := by
    unfold greyLevel
    omega
  have hCube :=
    And.intro (cubeLevel_lt hIndices.1)
      (And.intro (cubeLevel_lt hIndices.2.1)
        (cubeLevel_lt hIndices.2.2))
  unfold nearestSized
  refine (Checked.bind_eq (cubeIndexChecked_eq _)).trans ?_
  refine (Checked.bind_eq (cubeIndexChecked_eq _)).trans ?_
  refine (Checked.bind_eq (cubeIndexChecked_eq _)).trans ?_
  refine
    (Checked.bind_eq (cubeLevels_cubeIndex_eq hBytes.1)).trans
      ?_
  refine
    (Checked.bind_eq
      (cubeLevels_cubeIndex_eq hBytes.2.1)).trans ?_
  refine
    (Checked.bind_eq
      (cubeLevels_cubeIndex_eq hBytes.2.2)).trans ?_
  refine (Checked.bind_eq (greyIndexSized_eq hBytes)).trans ?_
  refine (Checked.bind_eq (greyLevelSized_eq hIndex)).trans ?_
  refine
    (Checked.bind_eq
      (distanceSized_eq hBytes ⟨hGrey, hGrey, hGrey⟩)).trans ?_
  refine
    (Checked.bind_eq (distanceSized_eq hBytes hCube)).trans ?_
  rw [greyColourSized_eq hIndex, cubeColourSized_eq hIndices]
  exact (apply_ite some _ _ _).symm

------------------------------------------------------------
-- The Chosen Colour
------------------------------------------------------------

/-
  The palette index for a colour is found without a number
  that has no room in its word, and no colour of the cube or
  of the ramp is nearer than the one it stands for.
-/
theorem isNearest_nearest
    (r g b : UInt8) :
    nearestSized r g b = some (nearest r g b) ∧
      IsNearest r g b (nearest r g b) := by
  refine ⟨nearestSized_eq r g b, le_nearest r g b, ?_⟩
  intro other hOther
  rw [squaredDistance_nearest]
  exact
    min_le_squaredDistance (toNat_lt_each r g b)
      ⟨UInt8.le_iff_toNat_le.mp hOther, other.toNat_lt⟩

/- A dark blue is nearer to a grey than to the cube's blue. -/
example : (nearest 0 0 48).toNat = greyColour 1 := by
  decide

end Palette

end VideoTerminal
