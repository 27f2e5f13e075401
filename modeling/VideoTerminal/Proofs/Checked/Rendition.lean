import Mathlib.Tactic.IntervalCases
import VideoTerminal.Proofs.Checked.Control
import VideoTerminal.Proofs.Control.Parameters
import VideoTerminal.Terminal.Rendition

/-
  The choice of colours and attributes by operations that can
  fault.  None of them does for parameters that have room.

  Main declarations:
    * `Palette.nearestChecked_eq`
    * `Pen.extendedColourChecked_eq`
    * `Pen.applyFromChecked_eq`
    * `Pen.selectChecked_eq`
-/

namespace VideoTerminal

------------------------------------------------------------
-- The Palette
------------------------------------------------------------

namespace Palette

/- The cube level that is nearest to a component. -/
def cubeIndexChecked
    (component : Nat) : Option Nat := do
  if component < 48 then
    return 0
  else if component < 115 then
    return 1
  else
    let rest ← Checked.sub component 35
    return rest / 40

/- The palette index for a colour. -/
def nearestChecked
    (r g b : UInt8) : Option UInt8 := do
  let (r, g, b) := (r.toNat, g.toNat, b.toNat)
  let x ← cubeIndexChecked r
  let y ← cubeIndexChecked g
  let z ← cubeIndexChecked b
  let r' ← Checked.get cubeLevels x
  let g' ← Checked.get cubeLevels y
  let b' ← Checked.get cubeLevels z
  let index := greyIndex r g b
  let grey := greyLevel index
  if distance r g b grey grey grey <
      distance r g b r' g' b' then
    return .ofNat (greyColour index)
  else
    return .ofNat (cubeColour x y z)

theorem cubeIndexChecked_eq
    (component : Nat) :
    cubeIndexChecked component =
      some (cubeIndex component) := by
  unfold cubeIndexChecked cubeIndex
  split
  · rfl
  · split
    · rfl
    · rw [Checked.sub_eq (by omega)]
      rfl

theorem cubeIndex_lt
    {component : Nat}
    (hByte : component < 256) :
    cubeIndex component < 6 := by
  unfold cubeIndex
  split
  · omega
  · split <;> omega

theorem cubeLevels_cubeIndex_eq
    {component : Nat}
    (hByte : component < 256) :
    Checked.get cubeLevels (cubeIndex component) =
      some (cubeLevel (cubeIndex component)) := by
  have hIndex : cubeIndex component < cubeLevels.length :=
    cubeIndex_lt hByte
  unfold cubeLevel
  rw [Checked.get_eq hIndex, List.getElem?_eq_getElem hIndex]
  rfl

theorem nearestChecked_eq
    (r g b : UInt8) :
    nearestChecked r g b = some (nearest r g b) := by
  unfold nearestChecked nearest
  dsimp only
  rw [cubeIndexChecked_eq, cubeIndexChecked_eq,
    cubeIndexChecked_eq]
  simp only [Option.bind_eq_bind, Option.bind_some]
  rw [cubeLevels_cubeIndex_eq r.toNat_lt,
    cubeLevels_cubeIndex_eq g.toNat_lt,
    cubeLevels_cubeIndex_eq b.toNat_lt]
  simp only [Option.bind_some]
  split <;> rfl

end Palette

namespace Pen

------------------------------------------------------------
-- Extended Colours
------------------------------------------------------------

/- The palette colour for three components. -/
def componentsChecked
    (r g b : Option Nat) : Option (Option UInt8) :=
  match component? r, component? g, component? b with
  | some r, some g, some b => do
    let colour ← Palette.nearestChecked r g b
    return some colour
  | _, _, _ => some none

/- The colour that sub-parameters give. -/
def attachedColourChecked
    (values : List (Option Nat)) :
    Option (Option UInt8) := do
  let kind ← Checked.get values 0
  if kind = some 5 ∧ 2 ≤ values.length then
    let index ← Checked.get values 1
    return component? index
  else if kind = some 2 ∧ 5 ≤ values.length then
    let r ← Checked.get values 2
    let g ← Checked.get values 3
    let b ← Checked.get values 4
    componentsChecked r g b
  else if kind = some 2 ∧ values.length = 4 then
    let r ← Checked.get values 1
    let g ← Checked.get values 2
    let b ← Checked.get values 3
    componentsChecked r g b
  else
    return none

/- The colour that follows as parameters of their own. -/
def followingColourChecked
    (params : Parameters)
    (i : Nat) : Option (Option UInt8 × Nat) := do
  let later ← Checked.sub params.length i
  let rest ← Checked.sub later 1
  let kind ← params.getChecked (i + 1)
  if kind = some 5 ∧ 2 ≤ rest then
    let index ← params.getChecked (i + 2)
    return (component? index, 2)
  else if kind = some 2 ∧ 4 ≤ rest then
    let r ← params.getChecked (i + 2)
    let g ← params.getChecked (i + 3)
    let b ← params.getChecked (i + 4)
    let colour ← componentsChecked r g b
    return (colour, 4)
  else
    return (none, rest)

/- The colour after the parameter with an index. -/
def extendedColourChecked
    (params : Parameters)
    (i subs : Nat) : Option (Option UInt8 × Nat) := do
  if 0 < subs then
    let values ←
      (List.range' (i + 1) subs).mapM params.getChecked
    let colour ← attachedColourChecked values
    return (colour, subs)
  else
    followingColourChecked params i

theorem componentsChecked_eq
    (r g b : Option Nat) :
    componentsChecked r g b = some (components? r g b) := by
  unfold componentsChecked components?
  cases component? r with
  | none => rfl
  | some r =>
      cases component? g with
      | none => rfl
      | some g =>
          cases component? b with
          | none => rfl
          | some b =>
              exact
                Checked.bind_eq
                  (Palette.nearestChecked_eq r g b)

theorem attachedColour?_eq_none
    {kind : Option Nat}
    (hIndexed : kind ≠ some 5)
    (hDirect : kind ≠ some 2)
    (rest : List (Option Nat)) :
    attachedColour? (kind :: rest) = none := by
  unfold attachedColour?
  split <;> simp_all

theorem attachedColourChecked_eq
    {values : List (Option Nat)}
    (hSome : values ≠ []) :
    attachedColourChecked values =
      some (attachedColour? values) := by
  obtain ⟨kind, rest, rfl⟩ := List.exists_cons_of_ne_nil hSome
  by_cases hIndexed : kind = some 5
  · subst hIndexed
    cases rest with
    | nil => rfl
    | cons index rest =>
        simp [attachedColourChecked, attachedColour?,
          Checked.get]
  · by_cases hDirect : kind = some 2
    · subst hDirect
      match rest with
      | [] => rfl
      | [_] => rfl
      | [_, _] => rfl
      | [r, g, b] => exact componentsChecked_eq r g b
      | _ :: r :: g :: b :: rest =>
          simp [attachedColourChecked, attachedColour?,
            Checked.get, componentsChecked_eq]
    · rw [attachedColour?_eq_none hIndexed hDirect]
      simp [attachedColourChecked, Checked.get, hIndexed,
        hDirect]

/- The values of the parameters from an index on. -/
def valuesFrom
    (params : Parameters)
    (start : Nat) : List (Option Nat) :=
  (params.items.drop start).map Parameter.value

theorem followingColour_eq_of_other
    {kind : Option Nat}
    (hIndexed : kind ≠ some 5)
    (hDirect : kind ≠ some 2)
    (rest : List (Option Nat)) :
    followingColour (kind :: rest) =
      (none, rest.length + 1) := by
  unfold followingColour
  split <;> simp_all

theorem getChecked_add_eq
    (params : Parameters)
    (start offset : Nat) :
    params.getChecked (start + offset) =
      some (valuesFrom params start)[offset]?.join := by
  rw [params.getChecked_eq, params.get?_eq]
  unfold valuesFrom
  rw [List.getElem?_map, List.getElem?_drop]
  cases params.items[start + offset]? <;> rfl

theorem followingColourChecked_eq
    {params : Parameters}
    {i : Nat}
    (hIndex : i < params.length) :
    followingColourChecked params i =
      some (followingColour (valuesFrom params (i + 1))) := by
  have hRest :
      params.length - i - 1 =
        (valuesFrom params (i + 1)).length := by
    unfold valuesFrom
    rw [List.length_map, List.length_drop,
      params.length_items]
    omega
  have hGet := getChecked_add_eq params (i + 1)
  unfold followingColourChecked
  rw [Checked.sub_eq (Nat.le_of_lt hIndex)]
  simp only [Option.bind_eq_bind, Option.bind_some]
  rw [Checked.sub_eq (by omega), hRest]
  rw [show params.getChecked (i + 1) = _ from hGet 0,
    show params.getChecked (i + 2) = _ from hGet 1,
    show params.getChecked (i + 3) = _ from hGet 2,
    show params.getChecked (i + 4) = _ from hGet 3]
  simp only [Option.bind_some]
  generalize valuesFrom params (i + 1) = values
  cases values with
  | nil => rfl
  | cons kind rest =>
      by_cases hIndexed : kind = some 5
      · subst hIndexed
        cases rest with
        | nil => rfl
        | cons index rest => simp [followingColour]
      · by_cases hDirect : kind = some 2
        · subst hDirect
          match rest with
          | [] => rfl
          | [_] => rfl
          | [_, _] => rfl
          | r :: g :: b :: rest =>
              simp [followingColour, componentsChecked_eq]
        · rw [followingColour_eq_of_other hIndexed hDirect]
          simp [hIndexed, hDirect]

/- The values of parameters that follow one another. -/
theorem mapM_getChecked_eq
    {params : Parameters}
    {start : Nat}
    {items : List Parameter}
    (hPrefix : items <+: params.items.drop start) :
    (List.range' start items.length).mapM params.getChecked =
      some (items.map Parameter.value) := by
  rw [Checked.mapM_eq fun index _ =>
    params.getChecked_eq index]
  congr 1
  apply List.ext_getElem
  · rw [List.length_map, List.length_range', List.length_map]
  · intro offset hRange hItems
    rw [List.length_map] at hItems
    have hFound := hPrefix.getElem hItems
    rw [List.getElem_drop] at hFound
    have hLength := hPrefix.length_le
    rw [List.length_drop] at hLength
    rw [List.getElem_map, List.getElem_map,
      List.getElem_range', Nat.one_mul, hFound]
    rw [params.get?_eq, List.getElem?_eq_getElem (by omega)]
    rfl

theorem extendedColourChecked_eq
    {params : Parameters}
    {i : Nat}
    (hIndex : i < params.length) :
    extendedColourChecked params i (params.subCount i) =
      some (extendedColour (params.items.drop (i + 1))) := by
  have hPrefix :=
    List.takeWhile_prefix Parameter.sub
      (l := params.items.drop (i + 1))
  rw [params.subCount_eq]
  unfold extendedColourChecked extendedColour
  generalize
    (params.items.drop (i + 1)).takeWhile Parameter.sub = subs
    at hPrefix ⊢
  dsimp only
  cases subs with
  | nil => exact followingColourChecked_eq hIndex
  | cons first others =>
      have hColour :=
        attachedColourChecked_eq
          (show (first :: others).map Parameter.value ≠ [] by
            simp)
      rw [if_pos (by simp),
        mapM_getChecked_eq hPrefix]
      exact Checked.bind_eq hColour

------------------------------------------------------------
-- Sequences
------------------------------------------------------------

/- The value of the first sub-parameter, or else one. -/
def styleChecked
    (params : Parameters)
    (i subs : Nat) : Option Nat :=
  if 0 < subs then params.getDChecked (i + 1) 1 else some 1

/- Apply the code of the parameter with an index. -/
def applyCodeChecked
    (pen : Pen)
    (config : Config)
    (params : Parameters)
    (i subs code : Nat) : Option Pen := do
  if code = 4 then
    let style ← styleChecked params i subs
    return pen.modifyRendition
      ({ · with underline := style != 0 })
  else if 30 ≤ code ∧ code ≤ 37 then
    let index ← Checked.sub code 30
    return { pen with foreground := .ofNat index }
  else if 40 ≤ code ∧ code ≤ 47 then
    let index ← Checked.sub code 40
    return { pen with background := .ofNat index }
  else if 90 ≤ code ∧ code ≤ 97 then
    let index ← Checked.sub code 90
    return { pen with foreground := .ofNat (index + 8) }
  else if 100 ≤ code ∧ code ≤ 107 then
    let index ← Checked.sub code 100
    return { pen with background := .ofNat (index + 8) }
  else
    return pen.applyCode config code none

/- Apply the parameters from an index on. -/
def applyFromChecked
    (pen : Pen)
    (config : Config)
    (params : Parameters)
    (i : Nat) : Option Pen := do
  if i < params.length then
    let subs ← params.subCountChecked i
    let code ← params.getDChecked i 0
    if code = 38 ∨ code = 48 then
      let (colour, count) ←
        extendedColourChecked params i subs
      (pen.setColour code colour).applyFromChecked config
        params (i + 1 + count)
    else
      let applied ←
        pen.applyCodeChecked config params i subs code
      applied.applyFromChecked config params (i + 1 + subs)
  else
    return pen
termination_by params.length - i

/- The pen after a sequence that selects a rendition. -/
def selectChecked
    (pen : Pen)
    (config : Config)
    (params : Parameters) : Option Pen :=
  if params.isEmpty then
    some config.pen
  else
    pen.applyFromChecked config params 0

section

variable {params : Parameters}

/- Only underlining looks at the first sub-parameter. -/
theorem applyCode_style
    {code : Nat}
    (hCode : code ≠ 4)
    (pen : Pen)
    (config : Config)
    (style : Option Parameter) :
    pen.applyCode config code style =
      pen.applyCode config code none := by
  unfold applyCode
  split <;> first | rfl | exact absurd rfl hCode

theorem styleChecked_eq
    (i : Nat) :
    styleChecked params i (params.subCount i) =
      some
        ((((params.items.drop (i + 1)).takeWhile
          Parameter.sub).head?.bind
            Parameter.value).getD 1) := by
  have hPrefix :=
    List.takeWhile_prefix Parameter.sub
      (l := params.items.drop (i + 1))
  rw [params.subCount_eq]
  unfold styleChecked
  generalize
    (params.items.drop (i + 1)).takeWhile Parameter.sub = subs
    at hPrefix ⊢
  cases subs with
  | nil => rfl
  | cons first others =>
      have hFirst : params.items[i + 1]? = some first := by
        rcases hPrefix with ⟨later, hItems⟩
        have hHead := congrArg (·[0]?) hItems
        rw [List.getElem?_drop] at hHead
        exact hHead.symm
      rw [if_pos (by simp), params.getDChecked_eq]
      unfold Parameters.getD
      rw [params.get?_eq, hFirst]
      rfl

theorem applyCodeChecked_eq
    (pen : Pen)
    (config : Config)
    (i code : Nat) :
    pen.applyCodeChecked config params i (params.subCount i)
        code =
      some
        (pen.applyCode config code
          ((params.items.drop (i + 1)).takeWhile
            Parameter.sub).head?) := by
  unfold applyCodeChecked
  split
  · rename_i hUnderline
    subst hUnderline
    refine (Checked.bind_eq (styleChecked_eq i)).trans ?_
    unfold applyCode
    cases ((params.items.drop (i + 1)).takeWhile
      Parameter.sub).head? with
    | none => rfl
    | some first =>
        rcases first with ⟨value, sub⟩
        cases value with
        | none => rfl
        | some n => cases n <;> rfl
  · rename_i hNot
    split
    · rename_i hForeground
      rw [Checked.sub_eq hForeground.1]
      rcases hForeground with ⟨hLow, hHigh⟩
      interval_cases code <;> rfl
    · split
      · rename_i hBackground
        rw [Checked.sub_eq hBackground.1]
        rcases hBackground with ⟨hLow, hHigh⟩
        interval_cases code <;> rfl
      · split
        · rename_i hForeground
          rw [Checked.sub_eq hForeground.1]
          rcases hForeground with ⟨hLow, hHigh⟩
          interval_cases code <;> rfl
        · split
          · rename_i hBackground
            rw [Checked.sub_eq hBackground.1]
            rcases hBackground with ⟨hLow, hHigh⟩
            interval_cases code <;> rfl
          · exact
              congrArg some
                (applyCode_style hNot pen config _).symm

theorem applyFromChecked_eq
    (pen : Pen)
    (config : Config)
    (i : Nat) :
    pen.applyFromChecked config params i =
      some (pen.applyAll config (params.items.drop i)) := by
  -- On the number of parameters that are left.
  induction hLeft : params.length - i
    using Nat.strong_induction_on generalizing pen i with
  | _ left hRest =>
      unfold applyFromChecked
      by_cases hIndex : i < params.length
      · have hLength : i < params.items.length := by
          rw [params.length_items]
          exact hIndex
        have hCode :
            params.getD i 0 =
              params.items[i].value.getD 0 := by
          unfold Parameters.getD
          rw [params.get?_eq, List.getElem?_eq_getElem hLength]
          rfl
        have hNext :
            ∀ (pen : Pen) (count : Nat),
              pen.applyFromChecked config params
                  (i + 1 + count) =
                some
                  (pen.applyAll config
                    ((params.items.drop (i + 1)).drop
                      count)) := by
          intro pen count
          rw [List.drop_drop]
          exact hRest _ (by omega) pen _ rfl
        rw [if_pos hIndex, params.subCountChecked_eq,
          params.getDChecked_eq, hCode,
          List.drop_eq_getElem_cons hLength]
        simp only [Option.bind_eq_bind, Option.bind_some]
        rw [applyAll]
        dsimp only
        split
        · rw [extendedColourChecked_eq hIndex]
          exact hNext _ _
        · rw [applyCodeChecked_eq, params.subCount_eq]
          exact hNext _ _
      · have hNone : params.items.length ≤ i := by
          rw [params.length_items]
          exact Nat.le_of_not_lt hIndex
        rw [if_neg hIndex, List.drop_eq_nil_of_le hNone,
          applyAll]
        rfl

theorem selectChecked_eq
    (pen : Pen)
    (config : Config) :
    pen.selectChecked config params =
      some (pen.select config params) := by
  unfold selectChecked select
  split
  · rfl
  · exact applyFromChecked_eq pen config 0

end

end Pen

end VideoTerminal
