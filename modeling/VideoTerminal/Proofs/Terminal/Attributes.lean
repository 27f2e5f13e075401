import VideoTerminal.Proofs.Control.Parameters
import VideoTerminal.Terminal.Rendition

/-
  The parameters of a sequence that selects a rendition, in
  the groups that each stand for one attribute or colour.  A
  group takes along exactly its own parameters, so that the
  groups of a sequence act one after the other.

  Main declarations:
    * `ParameterText.join`
    * `AttributeGroup`
    * `AttributeGroup.text`
    * `AttributeGroup.GivesColour`
    * `AttributeGroup.extendedColour_belonging`
    * `Pen.applyGroup`
    * `Pen.applyAll_append`
    * `Pen.applyAll_flatMap`
    * `Pen.applyGroup_eq_self`
-/

namespace VideoTerminal

------------------------------------------------------------
-- Texts That Are Joined
------------------------------------------------------------

namespace ParameterText

/- The parameters, the first one also where it is left out. -/
def items
    (text : ParameterText) : List Parameter :=
  parameter (false, text.first) :: text.others.map parameter

/- Texts with semicolons between them. -/
def join
    (text : ParameterText)
    (texts : List ParameterText) : ParameterText where
  first := text.first
  others :=
    text.others ++
      texts.flatMap fun next =>
        (false, next.first) :: next.others

theorem items_join
    (text : ParameterText)
    (texts : List ParameterText) :
    (text.join texts).items =
      text.items ++ texts.flatMap items := by
  unfold join items
  dsimp only
  rw [List.map_append, List.map_flatMap, List.cons_append]
  rfl

end ParameterText

------------------------------------------------------------
-- Groups
------------------------------------------------------------

/- The code of a colour that the parameters after it give. -/
def Numeral.AnnouncesColour
    (leader : Numeral) : Prop :=
  leader.value? = some 38 ∨ leader.value? = some 48

/-
  A code with what belongs to it: parameters attached to it by
  colons, which a code that announces a colour cannot lack, or
  a colour in parameters of their own, by its index or by its
  components.
-/
inductive AttributeGroup where
  | single
      (leader : Numeral)
      (attached : List Numeral)
      (hAttached : leader.AnnouncesColour → attached ≠ [])
  | indexed
      (leader kind index : Numeral)
      (hLeader : leader.AnnouncesColour)
      (hKind : kind.value? = some 5)
  | components
      (leader kind r g b : Numeral)
      (hLeader : leader.AnnouncesColour)
      (hKind : kind.value? = some 2)

/-
  Some of the numerals that are attached to a code give a
  colour, by its index or by its components.  A colour space
  may stand in front of the components.
-/
inductive Numeral.AttachColour :
    List Numeral → List Numeral → Prop where
  | index
      {kind index : Numeral}
      {more : List Numeral}
      (hKind : kind.value? = some 5) :
      AttachColour (kind :: index :: more) [index]
  | components
      {kind r g b : Numeral}
      (hKind : kind.value? = some 2) :
      AttachColour [kind, r, g, b] [r, g, b]
  | inSpace
      {kind space r g b : Numeral}
      {more : List Numeral}
      (hKind : kind.value? = some 2) :
      AttachColour (kind :: space :: r :: g :: b :: more)
        [r, g, b]

namespace AttributeGroup

/- The code that a group begins with. -/
def leader :
    AttributeGroup → Numeral
  | single leader _ _ => leader
  | indexed leader _ _ _ _ => leader
  | components leader _ _ _ _ _ _ => leader

/- A group as it is written. -/
def text :
    AttributeGroup → ParameterText
  | single leader attached _ =>
    ⟨leader, attached.map (true, ·)⟩
  | indexed leader kind index _ _ =>
    ⟨leader, [(false, kind), (false, index)]⟩
  | components leader kind r g b _ _ =>
    ⟨leader,
      [(false, kind), (false, r), (false, g), (false, b)]⟩

/- Some numerals of a group give a colour. -/
def Gives :
    AttributeGroup → List Numeral → Prop
  | single _ attached _, numerals =>
    Numeral.AttachColour attached numerals
  | indexed _ _ index _ _, numerals => numerals = [index]
  | components _ _ r g b _ _, numerals =>
    numerals = [r, g, b]

/- The colour is all there, and no part of it is too large. -/
def GivesColour
    (group : AttributeGroup) : Prop :=
  ∃ numerals,
    group.Gives numerals ∧
      ∀ numeral ∈ numerals,
        ∃ value ≤ 255, numeral.value? = some value

/- The colour that a group gives. -/
def colour? :
    AttributeGroup → Option UInt8
  | single _ attached _ =>
    Pen.attachedColour? (attached.map Numeral.value?)
  | indexed _ _ index _ _ => Pen.component? index.value?
  | components _ _ r g b _ _ =>
    Pen.components? r.value? g.value? b.value?

/- The style of an attribute, which is attached to it. -/
def style? :
    AttributeGroup → Option Parameter
  | single _ attached _ =>
    attached.head?.map fun numeral => ⟨numeral.value?, true⟩
  | _ => none

end AttributeGroup

------------------------------------------------------------
-- Colours That Are Given
------------------------------------------------------------

namespace Pen

theorem component?_eq_some
    {value : Option Nat}
    {component : UInt8}
    (hComponent : component? value = some component) :
    ∃ n ≤ 255, value = some n := by
  rcases Option.map_eq_some_iff.mp hComponent with
    ⟨n, hFilter, _⟩
  rcases Option.filter_eq_some_iff.mp hFilter with
    ⟨hValue, hByte⟩
  have hBound : n < 256 := of_decide_eq_true hByte
  exact ⟨n, by omega, hValue⟩

theorem components?_eq_some
    {r g b : Numeral}
    {colour : UInt8}
    (hColour :
      components? r.value? g.value? b.value? = some colour) :
    ∀ numeral ∈ [r, g, b],
      ∃ n ≤ 255, numeral.value? = some n := by
  unfold components? at hColour
  simp only [Option.bind_eq_bind, Option.bind_eq_some_iff]
    at hColour
  rcases hColour with ⟨_, hR, _, hG, _, hB, _⟩
  simp only [List.mem_cons, List.not_mem_nil, or_false]
  rintro numeral (rfl | rfl | rfl)
  · exact component?_eq_some hR
  · exact component?_eq_some hG
  · exact component?_eq_some hB

end Pen

/- What is attached gives the colour that is read from it. -/
theorem Numeral.AttachColour.of_attachedColour?
    {attached : List Numeral}
    {colour : UInt8}
    (hColour :
      Pen.attachedColour? (attached.map Numeral.value?) =
        some colour) :
    ∃ numerals,
      AttachColour attached numerals ∧
        ∀ numeral ∈ numerals,
          ∃ value ≤ 255, numeral.value? = some value := by
  unfold Pen.attachedColour? at hColour
  split at hColour
  · rename_i hValues
    simp only [List.map_eq_cons_iff] at hValues
    rcases hValues with
      ⟨kind, _, rfl, hKind, index, more, rfl, rfl, _⟩
    refine ⟨[index], .index hKind, ?_⟩
    intro numeral hMem
    rw [List.mem_singleton.mp hMem]
    exact Pen.component?_eq_some hColour
  · rename_i hValues
    simp only [List.map_eq_cons_iff, List.map_eq_nil_iff]
      at hValues
    rcases hValues with
      ⟨kind, _, rfl, hKind, r, _, rfl, rfl, g, _, rfl, rfl,
        b, _, rfl, rfl, rfl⟩
    exact
      ⟨[r, g, b], .components hKind,
        Pen.components?_eq_some hColour⟩
  · rename_i hValues
    simp only [List.map_eq_cons_iff] at hValues
    rcases hValues with
      ⟨kind, _, rfl, hKind, space, _, rfl, rfl, r, _, rfl,
        rfl, g, _, rfl, rfl, b, more, rfl, rfl, _⟩
    exact
      ⟨[r, g, b], .inSpace hKind,
        Pen.components?_eq_some hColour⟩
  · cases hColour

/- No colour comes of a group that does not give one. -/
theorem AttributeGroup.givesColour_of_colour?
    {group : AttributeGroup}
    {colour : UInt8}
    (hColour : group.colour? = some colour) :
    group.GivesColour := by
  cases group with
  | single leader attached hAttached =>
      exact Numeral.AttachColour.of_attachedColour? hColour
  | indexed leader kind index hLeader hKind =>
      refine ⟨[index], rfl, ?_⟩
      intro numeral hMem
      rw [List.mem_singleton.mp hMem]
      exact Pen.component?_eq_some hColour
  | components leader kind r g b hLeader hKind =>
      exact
        ⟨[r, g, b], rfl, Pen.components?_eq_some hColour⟩

------------------------------------------------------------
-- What Belongs to a Group
------------------------------------------------------------

theorem Numeral.announcesColour_iff
    {leader : Numeral} :
    leader.AnnouncesColour ↔
      leader.value?.getD 0 = 38 ∨
        leader.value?.getD 0 = 48 := by
  unfold AnnouncesColour
  cases leader.value? with
  | none => simp
  | some value => simp

namespace AttributeGroup

/- The parameters of a group after its code. -/
def belonging
    (group : AttributeGroup) : List Parameter :=
  group.text.others.map ParameterText.parameter

theorem items_text
    (group : AttributeGroup) :
    group.text.items =
      ⟨group.leader.value?, false⟩ :: group.belonging := by
  cases group <;> rfl

theorem belonging_single
    (leader : Numeral)
    (attached : List Numeral)
    (hAttached : leader.AnnouncesColour → attached ≠ []) :
    (single leader attached hAttached).belonging =
      attached.map fun numeral => ⟨numeral.value?, true⟩ :=
  List.map_map

theorem not_announcesColour_cases
    {group : AttributeGroup}
    (hPlain : ¬group.leader.AnnouncesColour) :
    ∃ leader attached hAttached,
      group = single leader attached hAttached := by
  cases group with
  | single leader attached hAttached =>
      exact ⟨leader, attached, hAttached, rfl⟩
  | indexed _ _ _ hLeader _ => exact absurd hLeader hPlain
  | components _ _ _ _ _ hLeader _ =>
      exact absurd hLeader hPlain

section

/- No further parameter is attached to the group. -/
variable {rest : List Parameter}
  (hRest : ∀ item ∈ rest.head?, item.sub = false)

include hRest

theorem takeWhile_attached
    (attached : List Numeral) :
    ((attached.map fun numeral =>
        (⟨numeral.value?, true⟩ : Parameter)) ++
          rest).takeWhile Parameter.sub =
      attached.map fun numeral =>
        ⟨numeral.value?, true⟩ := by
  have hNone : rest.takeWhile Parameter.sub = [] := by
    cases rest with
    | nil => rfl
    | cons item rest =>
        apply List.takeWhile_cons_of_neg
        rw [hRest item rfl]
        exact Bool.false_ne_true
  rw [List.takeWhile_append_of_pos, hNone, List.append_nil]
  intro item hMem
  rcases List.mem_map.mp hMem with ⟨_, _, rfl⟩
  rfl

/- A colour is read from what belongs to its group. -/
theorem extendedColour_belonging
    {group : AttributeGroup}
    (hLeader : group.leader.AnnouncesColour) :
    Pen.extendedColour (group.belonging ++ rest) =
      (group.colour?, group.belonging.length) := by
  cases group with
  | single leader attached hAttached =>
      have hSome : attached ≠ [] := hAttached hLeader
      rw [belonging_single]
      unfold Pen.extendedColour
      rw [takeWhile_attached hRest,
        if_neg (by simpa using hSome), List.map_map]
      rfl
  | indexed leader kind index _ hKind =>
      show
        Pen.extendedColour
          (⟨kind.value?, false⟩ ::
            ⟨index.value?, false⟩ :: rest) = _
      rw [hKind]
      rfl
  | components leader kind r g b _ hKind =>
      show
        Pen.extendedColour
          (⟨kind.value?, false⟩ :: ⟨r.value?, false⟩ ::
            ⟨g.value?, false⟩ :: ⟨b.value?, false⟩ ::
              rest) = _
      rw [hKind]
      rfl

end

end AttributeGroup

------------------------------------------------------------
-- One Group After the Other
------------------------------------------------------------

namespace Pen

/- Apply a group of parameters. -/
def applyGroup
    (config : Config)
    (pen : Pen)
    (group : AttributeGroup) : Pen :=
  let code := group.leader.value?.getD 0
  if code = 38 ∨ code = 48 then
    pen.setColour code group.colour?
  else
    pen.applyCode config code group.style?

/- A group takes along the parameters that belong to it. -/
theorem applyAll_append
    {rest : List Parameter}
    (hRest : ∀ item ∈ rest.head?, item.sub = false)
    (config : Config)
    (pen : Pen)
    (group : AttributeGroup) :
    pen.applyAll config (group.text.items ++ rest) =
      (pen.applyGroup config group).applyAll config rest := by
  rw [group.items_text, List.cons_append, applyAll]
  unfold applyGroup
  dsimp only
  split
  · rename_i hCode
    have hLeader := Numeral.announcesColour_iff.mpr hCode
    rw [AttributeGroup.extendedColour_belonging hRest hLeader,
      List.drop_left]
  · rename_i hCode
    have hPlain := mt Numeral.announcesColour_iff.mp hCode
    rcases AttributeGroup.not_announcesColour_cases hPlain with
      ⟨leader, attached, hAttached, rfl⟩
    rw [AttributeGroup.belonging_single,
      AttributeGroup.takeWhile_attached hRest,
      List.drop_left, List.head?_map]
    rfl

/- No group begins with a parameter that is attached. -/
theorem sub_head?_items
    (groups : List AttributeGroup) :
    ∀ item ∈ (groups.flatMap (·.text.items)).head?,
      item.sub = false := by
  intro item hItem
  cases groups with
  | nil => cases hItem
  | cons group groups =>
      rw [List.flatMap_cons] at hItem
      cases hItem
      rfl

/- The groups of a sequence act one after the other. -/
theorem applyAll_flatMap
    (config : Config)
    (pen : Pen)
    (groups : List AttributeGroup) :
    pen.applyAll config (groups.flatMap (·.text.items)) =
      groups.foldl (applyGroup config) pen := by
  induction groups generalizing pen with
  | nil => rw [List.flatMap_nil, applyAll, List.foldl_nil]
  | cons group groups hRest =>
      rw [List.flatMap_cons,
        applyAll_append (sub_head?_items groups), hRest,
        List.foldl_cons]

/- A colour that is not all there changes nothing. -/
theorem applyGroup_eq_self
    {group : AttributeGroup}
    (hLeader : group.leader.AnnouncesColour)
    (hNone : ¬group.GivesColour)
    (config : Config)
    (pen : Pen) :
    pen.applyGroup config group = pen := by
  have hColour : group.colour? = none := by
    rw [Option.eq_none_iff_forall_ne_some]
    exact fun _ hSome =>
      hNone (AttributeGroup.givesColour_of_colour? hSome)
  unfold applyGroup
  dsimp only
  rw [if_pos (Numeral.announcesColour_iff.mp hLeader), hColour]
  rfl

end Pen

end VideoTerminal
