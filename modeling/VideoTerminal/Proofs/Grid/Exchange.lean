import Mathlib.Data.List.DropRight
import VideoTerminal.Proofs.Grid.Scroll

/-
  Scrolling a region, to the line: what its rows hold
  afterwards, which lines go to the history or come back from
  it, and that scrolling back undoes it.  The counts of the
  history have to fit its slots, and nothing else is asked of
  the grid: its lines may have any cells and any widths.

  Main declarations:
    * `Grid.Exchanges`
    * `Grid.AreBlank`
    * `Grid.Replaces`
    * `Grid.MovesUp`
    * `Grid.MovesDown`
    * `Grid.movesUp_scrollUp`
    * `Grid.movesDown_scrollDown`
    * `Grid.scrolls_there_and_back`
-/

namespace VideoTerminal

------------------------------------------------------------
-- The Newest Lines of a History
------------------------------------------------------------

namespace Scrollback

variable {ring : Scrollback}

theorem toList_eq_rtake
    {lines : List Line}
    {n : Nat}
    (hRetained : ring.retained = lines.reverse.take n) :
    ring.toList = lines.rtake n := by
  rw [toList_eq_reverse_retained, hRetained,
    List.rtake_eq_reverse_take_reverse]

theorem toList_eq_rdrop
    {lines : List Line}
    {n : Nat}
    (hRetained : ring.retained = lines.reverse.drop n) :
    ring.toList = lines.rdrop n := by
  rw [toList_eq_reverse_retained, hRetained,
    List.rdrop_eq_reverse_drop_reverse]

theorem reverse_toList
    (ring : Scrollback) :
    ring.toList.reverse = ring.retained := by
  rw [toList_eq_reverse_retained, List.reverse_reverse]

theorem Aligned.length_toList
    (hRing : ring.Aligned) :
    ring.toList.length = ring.size := by
  rw [toList_eq_reverse_retained, List.length_reverse,
    hRing.length_retained]

theorem Aligned.toList_pushAll
    (hRing : ring.Aligned)
    (blank : Cell)
    (lines : List Line) :
    (ring.pushAll blank lines).1.toList =
      (ring.toList ++ lines).rtake ring.capacity := by
  apply toList_eq_rtake
  rw [(hRing.pushAll blank lines).2, List.reverse_append,
    reverse_toList]

theorem Aligned.toList_popInto
    (hRing : ring.Aligned)
    (blank : Cell)
    (lines : List Line) :
    (ring.popInto blank lines).1.toList =
      ring.toList.rdrop lines.length := by
  apply toList_eq_rdrop
  rw [(hRing.popInto blank lines).2.1, reverse_toList]

end Scrollback

namespace Grid

------------------------------------------------------------
-- Regions
------------------------------------------------------------

/-
  The rows of a region hold some lines, and no other row has
  changed.
-/
structure Replaces
    (grid scrolled : Grid)
    (origin bottom : Nat)
    (region : List Line) : Prop where
  rows_eq : scrolled.rows = grid.rows
  region_eq : scrolled.slice origin (bottom + 1) = region
  outside_eq :
    ∀ row,
      row < origin ∨ bottom < row →
        scrolled.line? row = grid.line? row

/-
  All lines, those that the history could hand out again as
  well, are as wide as the screen.
-/
structure Uniform
    (grid : Grid) : Prop where
  rectangular : grid.Rectangular
  slots :
    ∀ line ∈ grid.scrollback.slots, line.width = grid.cols

theorem WellFormed.uniform
    {cols rows capacity : Nat}
    {grid : Grid}
    (hGrid : grid.WellFormed cols rows capacity) :
    grid.Uniform where
  rectangular := hGrid.rectangular
  slots := by
    intro line hLine
    rw [(hGrid.history.lines line hLine).width_eq,
      hGrid.cols_eq]

/-
  Some lines are new ones: each is filled with a blank, and
  where all lines of the grid have one width, so have they.
-/
structure AreBlank
    (grid : Grid)
    (n : Nat)
    (blank : Cell)
    (lines : List Line) : Prop where
  length_eq : lines.length = n
  filled :
    ∀ line ∈ lines, ∃ width, line = .ofBlank width blank
  uniform :
    grid.Uniform →
      lines = List.replicate n (.ofBlank grid.cols blank)

/-
  Lines are exchanged with the history: that is asked for, the
  region is the whole screen, and lines are kept at all.
-/
def Exchanges
    (grid : Grid)
    (origin bottom : Nat)
    (retain : Bool) : Prop :=
  retain = true ∧ origin = 0 ∧ bottom + 1 = grid.rows ∧
    0 < grid.scrollback.capacity

section

variable {grid scrolled : Grid} {origin bottom m : Nat}
  {retain : Bool}

theorem replaces_of_lines_eq
    (hRegion : origin ≤ bottom)
    (hBottom : bottom < grid.rows)
    {region : List Line}
    (hLength : region.length = bottom + 1 - origin)
    (hLines :
      scrolled.lines =
        grid.lines.take origin ++ region ++
          grid.lines.drop (bottom + 1)) :
    grid.Replaces scrolled origin bottom region := by
  unfold rows at hBottom
  have hAbove : (grid.lines.take origin).length = origin := by
    rw [List.length_take]
    omega
  have hPast :
      (grid.lines.take origin ++ region).length =
        bottom + 1 := by
    rw [List.length_append, hAbove, hLength]
    omega
  refine ⟨?_, ?_, ?_⟩
  · unfold rows
    rw [hLines, List.length_append, hPast, List.length_drop]
    omega
  · unfold slice
    rw [hLines, List.take_left' hPast, List.drop_left' hAbove]
  · intro row hOutside
    unfold line?
    rw [hLines]
    rcases hOutside with hRow | hRow
    · rw [List.append_assoc,
        List.getElem?_append_left (by omega),
        List.getElem?_take_of_lt hRow]
    · rw [List.getElem?_append_right (by omega), hPast,
        List.getElem?_drop]
      congr 1
      omega

/- A region that is the whole screen. -/
theorem slice_zero_of_eq_rows
    (hWhole : bottom + 1 = grid.rows) :
    grid.slice 0 (bottom + 1) = grid.lines := by
  unfold slice
  rw [List.drop_zero, hWhole]
  exact List.take_length

theorem slice_to_rows
    (hWhole : bottom + 1 = grid.rows) :
    grid.slice m (bottom + 1) = grid.lines.drop m := by
  unfold slice
  rw [hWhole]
  exact congrArg (List.drop m) List.take_length

theorem slice_zero
    (grid : Grid)
    (past : Nat) :
    grid.slice 0 past = grid.lines.take past :=
  List.drop_zero

/- Filling lines makes blank ones. -/
theorem areBlank_map_fill
    {lines : List Line}
    (hLines : lines ⊆ grid.lines)
    (hLength : lines.length = m)
    (blank : Cell) :
    grid.AreBlank m blank (lines.map (·.fill blank)) where
  length_eq := (List.length_map _).trans hLength
  filled := by
    intro line hMem
    rcases List.mem_map.mp hMem with ⟨old, _, rfl⟩
    exact ⟨_, rfl⟩
  uniform := by
    intro hUniform
    rw [Line.map_fill_eq_replicate
        (fun line hMem =>
          hUniform.rectangular line (hLines hMem)),
      hLength]

theorem slice_subset
    (grid : Grid)
    (first past : Nat) :
    grid.slice first past ⊆ grid.lines :=
  fun _ hMem =>
    List.mem_of_mem_take (List.mem_of_mem_drop hMem)

------------------------------------------------------------
-- Upwards
------------------------------------------------------------

/-
  The rows of a region have moved up by `m`.  Lines that are
  exchanged have gone to the history as its newest, and only
  the oldest of it past its capacity are lost.
-/
structure MovesUp
    (grid : Grid)
    (origin bottom m : Nat)
    (retain : Bool)
    (blank : Cell)
    (scrolled : Grid)
    (moved : Nat) : Prop where
  region :
    ∃ entering,
      grid.AreBlank m blank entering ∧
        grid.Replaces scrolled origin bottom
          (grid.slice (origin + m) (bottom + 1) ++ entering)
  exchanged :
    grid.Exchanges origin bottom retain →
      scrolled.scrollback.toList =
          (grid.scrollback.toList ++
            grid.lines.take m).rtake
              grid.scrollback.capacity ∧
        moved = m
  kept :
    ¬grid.Exchanges origin bottom retain →
      scrolled.scrollback = grid.scrollback ∧ moved = 0
  aligned : scrolled.scrollback.Aligned
  capacity_eq :
    scrolled.scrollback.capacity = grid.scrollback.capacity

theorem scrollUp_parts
    (hBottom : bottom < grid.rows)
    {n : Nat}
    (hCount : min n (bottom + 1 - origin) = m)
    (hSome : 0 < m)
    (retain : Bool)
    (blank : Cell) :
    let exchange :=
      grid.exchangeUp origin bottom m retain blank
    let result := grid.scrollUp origin bottom n retain blank
    result.1.lines =
        movedUp grid.lines origin bottom m exchange.2 ∧
      result.1.scrollback = exchange.1 ∧
      result.2 =
        if grid.usesHistory origin bottom retain then
          m
        else
          0 := by
  rw [scrollUp_eq hBottom hCount hSome]
  exact ⟨lines_marking, scrollback_marking, rfl⟩

theorem exchangeUp_of_exchanges
    (hExchanges : grid.Exchanges origin bottom retain)
    (m : Nat)
    (blank : Cell) :
    grid.exchangeUp origin bottom m retain blank =
      grid.scrollback.pushAll blank (grid.lines.take m) := by
  unfold exchangeUp
  rw [if_pos (usesHistory_iff.mpr hExchanges), hExchanges.2.1,
    Nat.zero_add, slice_zero]

theorem exchangeUp_of_not_exchanges
    (hExchanges : ¬grid.Exchanges origin bottom retain)
    (m : Nat)
    (blank : Cell) :
    grid.exchangeUp origin bottom m retain blank =
      (grid.scrollback,
        (grid.slice origin (origin + m)).map
          (·.fill blank)) := by
  unfold exchangeUp
  rw [if_neg (mt usesHistory_iff.mp hExchanges)]

theorem areBlank_exchangeUp
    (hRoom : origin + m ≤ grid.rows)
    (retain : Bool)
    (blank : Cell) :
    grid.AreBlank m blank
      (grid.exchangeUp origin bottom m retain blank).2 := by
  have hLength :
      (grid.slice origin (origin + m)).length = m := by
    rw [length_slice hRoom, Nat.add_sub_cancel_left]
  have hSubset := grid.slice_subset origin (origin + m)
  unfold exchangeUp
  dsimp only
  split
  · refine ⟨?_, ?_, ?_⟩
    · rw [Scrollback.length_snd_pushAll, hLength]
    · exact fun _ =>
        Scrollback.exists_ofBlank_of_mem_pushAll
    · intro hUniform
      rw [Scrollback.snd_pushAll hUniform.slots
          (fun line hMem =>
            hUniform.rectangular line (hSubset hMem)),
        hLength]
  · exact areBlank_map_fill hSubset hLength blank

theorem movesUp_scrollUp
    (hRing : grid.scrollback.Aligned)
    (hRegion : origin ≤ bottom)
    (hBottom : bottom < grid.rows)
    {n : Nat}
    (hCount : min n (bottom - origin + 1) = m)
    (hSome : 0 < n)
    (retain : Bool)
    (blank : Cell) :
    grid.MovesUp origin bottom m retain blank
      (grid.scrollUp origin bottom n retain blank).1
      (grid.scrollUp origin bottom n retain blank).2 := by
  have hBlank :
      grid.AreBlank m blank
        (grid.exchangeUp origin bottom m retain blank).2 :=
    areBlank_exchangeUp (by omega) retain blank
  rcases scrollUp_parts hBottom
      (show min n (bottom + 1 - origin) = m by omega)
      (by omega) retain blank with
    ⟨hLines, hHistory, hMoved⟩
  generalize
    grid.scrollUp origin bottom n retain blank = result
    at hLines hHistory hMoved ⊢
  have hReplaces :
      grid.Replaces result.1 origin bottom
        (grid.slice (origin + m) (bottom + 1) ++
          (grid.exchangeUp origin bottom m retain
            blank).2) := by
    apply replaces_of_lines_eq hRegion hBottom
    · rw [List.length_append, length_slice (by omega),
        hBlank.length_eq]
      omega
    · rw [hLines]
      unfold movedUp slice
      rw [List.append_assoc (grid.lines.take origin)]
  by_cases hExchanges : grid.Exchanges origin bottom retain
  · rw [exchangeUp_of_exchanges hExchanges] at hHistory
    rw [if_pos (usesHistory_iff.mpr hExchanges)] at hMoved
    refine
      { region := ⟨_, hBlank, hReplaces⟩
        exchanged := fun _ => ⟨?_, hMoved⟩
        kept := fun hNot => absurd hExchanges hNot
        aligned := hHistory ▸ (hRing.pushAll _ _).1
        capacity_eq := ?_ }
    · rw [hHistory, hRing.toList_pushAll]
    · rw [hHistory, Scrollback.capacity_pushAll]
  · rw [exchangeUp_of_not_exchanges hExchanges] at hHistory
    rw [if_neg (mt usesHistory_iff.mp hExchanges)] at hMoved
    exact
      { region := ⟨_, hBlank, hReplaces⟩
        exchanged := fun hDoes => absurd hDoes hExchanges
        kept := fun _ => ⟨hHistory, hMoved⟩
        aligned := hHistory ▸ hRing
        capacity_eq := congrArg (·.capacity) hHistory }

------------------------------------------------------------
-- Downwards
------------------------------------------------------------

/-
  The rows of a region have moved down by `m`.  Lines that are
  exchanged are the newest of the history and have left it,
  and only as many lines as it lacked are blank.
-/
structure MovesDown
    (grid : Grid)
    (origin bottom m : Nat)
    (retain : Bool)
    (blank : Cell)
    (scrolled : Grid)
    (moved : Nat) : Prop where
  exchanged :
    grid.Exchanges origin bottom retain →
      (∃ entering,
        grid.AreBlank (m - moved) blank entering ∧
          grid.Replaces scrolled origin bottom
            (entering ++ grid.scrollback.toList.rtake m ++
              grid.slice origin (bottom + 1 - m))) ∧
        scrolled.scrollback.toList =
          grid.scrollback.toList.rdrop m ∧
        moved = min m grid.scrollback.size
  kept :
    ¬grid.Exchanges origin bottom retain →
      (∃ entering,
        grid.AreBlank m blank entering ∧
          grid.Replaces scrolled origin bottom
            (entering ++
              grid.slice origin (bottom + 1 - m))) ∧
        scrolled.scrollback = grid.scrollback ∧ moved = 0

theorem scrollDown_parts
    (hBottom : bottom < grid.rows)
    {n : Nat}
    (hCount : min n (bottom + 1 - origin) = m)
    (hSome : 0 < m)
    (retain : Bool)
    (blank : Cell) :
    let exchange :=
      grid.exchangeDown origin bottom m retain blank
    let result := grid.scrollDown origin bottom n retain blank
    result.1.lines =
        movedDown grid.lines origin bottom m
          exchange.2.reverse ∧
      result.1.scrollback = exchange.1 ∧
      result.2 =
        if grid.usesHistory origin bottom retain then
          min m grid.scrollback.size
        else
          0 := by
  rw [scrollDown_eq hBottom hCount hSome]
  exact ⟨lines_marking, scrollback_marking, rfl⟩

theorem replaces_of_movedDown
    (hRegion : origin ≤ bottom)
    (hBottom : bottom < grid.rows)
    (hRoom : origin + m ≤ bottom + 1)
    {entering : List Line}
    (hEntering : entering.length = m)
    (hLines :
      scrolled.lines =
        movedDown grid.lines origin bottom m entering) :
    grid.Replaces scrolled origin bottom
      (entering ++ grid.slice origin (bottom + 1 - m)) := by
  apply replaces_of_lines_eq hRegion hBottom
  · rw [List.length_append, length_slice (by omega), hEntering]
    omega
  · rw [hLines]
    unfold movedDown slice
    rw [List.append_assoc (grid.lines.take origin)]

theorem movesDown_scrollDown
    (hRing : grid.scrollback.Aligned)
    (hRegion : origin ≤ bottom)
    (hBottom : bottom < grid.rows)
    {n : Nat}
    (hCount : min n (bottom - origin + 1) = m)
    (hSome : 0 < n)
    (retain : Bool)
    (blank : Cell) :
    grid.MovesDown origin bottom m retain blank
      (grid.scrollDown origin bottom n retain blank).1
      (grid.scrollDown origin bottom n retain blank).2 := by
  have hRoom : origin + m ≤ bottom + 1 := by omega
  have hLength :
      (grid.slice (bottom + 1 - m)
        (bottom + 1)).reverse.length = m :=
    (List.length_reverse).trans
      (length_leaving hBottom (by omega))
  have hSubset :
      (grid.slice (bottom + 1 - m) (bottom + 1)).reverse ⊆
        grid.lines :=
    fun _ hMem =>
      grid.slice_subset _ _ (List.mem_reverse.mp hMem)
  rcases scrollDown_parts hBottom
      (show min n (bottom + 1 - origin) = m by omega)
      (by omega) retain blank with
    ⟨hLines, hHistory, hMoved⟩
  generalize
    grid.scrollDown origin bottom n retain blank = result
    at hLines hHistory hMoved ⊢
  unfold exchangeDown at hLines hHistory
  dsimp only at hLines hHistory
  generalize
    (grid.slice (bottom + 1 - m) (bottom + 1)).reverse = leaving
    at hLength hSubset hLines hHistory
  by_cases hExchanges : grid.Exchanges origin bottom retain
  · have hUses := usesHistory_iff.mpr hExchanges
    rw [if_pos hUses] at hLines hHistory hMoved
    have hCome := (hRing.popInto blank leaving).2.2
    -- The lines that no line of the history came back for.
    have hFresh :
        grid.AreBlank (m - result.2) blank
          ((leaving.drop grid.scrollback.size).reverse.map
            (·.fill blank)) := by
      apply areBlank_map_fill
      · intro line hMem
        exact
          hSubset
            (List.mem_of_mem_drop (List.mem_reverse.mp hMem))
      · rw [List.length_reverse, List.length_drop, hLength,
          hMoved]
        omega
    have hEntering :
        (grid.scrollback.popInto blank leaving).2.reverse =
          (leaving.drop grid.scrollback.size).reverse.map
              (·.fill blank) ++
            grid.scrollback.toList.rtake m := by
      rw [hCome, hLength, hRing.length_retained,
        List.reverse_append, ← List.map_reverse,
        List.rtake_eq_reverse_take_reverse,
        Scrollback.reverse_toList]
    refine
      { exchanged := fun _ =>
          ⟨⟨_, hFresh, ?_⟩, ?_, hMoved⟩
        kept := fun hNot => absurd hExchanges hNot }
    · rw [hEntering] at hLines
      apply replaces_of_movedDown hRegion hBottom hRoom _ hLines
      rw [List.length_append, hFresh.length_eq, hMoved,
        List.rtake_eq_reverse_take_reverse, List.length_reverse,
        List.length_take, List.length_reverse,
        hRing.length_toList]
      omega
    · rw [hHistory, hRing.toList_popInto, hLength]
  · have hUnused := mt usesHistory_iff.mp hExchanges
    rw [if_neg hUnused] at hLines hHistory hMoved
    have hFresh :
        grid.AreBlank m blank
          (leaving.reverse.map (·.fill blank)) :=
      areBlank_map_fill
        (fun _ hMem => hSubset (List.mem_reverse.mp hMem))
        ((List.length_reverse).trans hLength) blank
    rw [← List.map_reverse] at hLines
    exact
      { exchanged := fun hDoes => absurd hDoes hExchanges
        kept := fun _ =>
          ⟨⟨_, hFresh,
              replaces_of_movedDown hRegion hBottom hRoom
                hFresh.length_eq hLines⟩,
            hHistory, hMoved⟩ }

------------------------------------------------------------
-- There and Back
------------------------------------------------------------

/- The last of several lines, and those before them. -/
private theorem rtake_append
    {back : List Line}
    {n : Nat}
    (hLength : back.length = n)
    (front : List Line) :
    (front ++ back).rtake n = back := by
  rw [List.rtake_eq_reverse_take_reverse,
    List.reverse_append,
    List.take_left' (back.length_reverse.trans hLength),
    List.reverse_reverse]

private theorem rdrop_append
    {back : List Line}
    {n : Nat}
    (hLength : back.length = n)
    (front : List Line) :
    (front ++ back).rdrop n = front := by
  rw [List.rdrop_eq_reverse_drop_reverse,
    List.reverse_append,
    List.drop_left' (back.length_reverse.trans hLength),
    List.reverse_reverse]

private theorem rtake_rtake
    {inner outer : Nat}
    (hOuter : outer ≤ inner)
    (lines : List Line) :
    (lines.rtake inner).rtake outer = lines.rtake outer := by
  rw [List.rtake_eq_reverse_take_reverse,
    List.rtake_eq_reverse_take_reverse,
    List.rtake_eq_reverse_take_reverse,
    List.reverse_reverse, List.take_take,
    Nat.min_eq_left hOuter]

private theorem rtake_of_length_le
    {lines : List Line}
    {n : Nat}
    (hLength : lines.length ≤ n) :
    lines.rtake n = lines := by
  rw [List.rtake_eq_reverse_take_reverse,
    List.take_of_length_le
      (lines.length_reverse.trans_le hLength),
    List.reverse_reverse]

/-
  What moved up with an exchange moves down to where it was,
  whatever blank there is then.
-/
theorem MovesUp.undone
    {raised lowered : Grid}
    {moved back : Nat}
    {blank blank' : Cell}
    (hUp :
      grid.MovesUp origin bottom m retain blank raised moved)
    (hDown :
      raised.MovesDown origin bottom m retain blank' lowered
        back)
    (hRing : grid.scrollback.Aligned)
    (hExchanges : grid.Exchanges origin bottom retain)
    (hRoom : m ≤ bottom + 1)
    (hCapacity : m ≤ grid.scrollback.capacity) :
    lowered.lines = grid.lines ∧
      (grid.scrollback.size + m ≤ grid.scrollback.capacity →
        lowered.scrollback.toList =
          grid.scrollback.toList) := by
  rcases hExchanges with ⟨hRetain, rfl, hWhole, hKeeps⟩
  rcases hUp.region with ⟨below, hBelow, hRaised⟩
  have hTop : (grid.lines.take m).length = m := by
    rw [List.length_take]
    unfold rows at hWhole
    omega
  have hKept :=
    (hUp.exchanged ⟨hRetain, rfl, hWhole, hKeeps⟩).1
  have hRaisedWhole : bottom + 1 = raised.rows :=
    hWhole.trans hRaised.rows_eq.symm
  rcases hDown.exchanged
      ⟨hRetain, rfl, hRaisedWhole,
        hUp.capacity_eq ▸ hKeeps⟩ with
    ⟨⟨above, hAbove, hLowered⟩, hLeft, hBack⟩
  -- The lines that went to the history are its newest.
  have hNewest :
      raised.scrollback.toList.rtake m = grid.lines.take m := by
    rw [hKept, rtake_rtake hCapacity, rtake_append hTop]
  have hCount : back = m := by
    rw [hBack, ← hUp.aligned.length_toList, hKept,
      List.rtake_eq_reverse_take_reverse,
      List.length_reverse, List.length_take,
      List.length_reverse, List.length_append, hTop]
    omega
  have hNone : above = [] := by
    apply List.eq_nil_of_length_eq_zero
    rw [hAbove.length_eq, hCount, Nat.sub_self]
  have hRaisedLines :
      raised.lines = grid.lines.drop m ++ below := by
    rw [← slice_zero_of_eq_rows hRaisedWhole,
      hRaised.region_eq, Nat.zero_add, slice_to_rows hWhole]
  constructor
  · have hLoweredWhole : bottom + 1 = lowered.rows :=
      hRaisedWhole.trans hLowered.rows_eq.symm
    have hStay :
        (grid.lines.drop m).length = bottom + 1 - m := by
      rw [List.length_drop, hWhole]
      rfl
    rw [← slice_zero_of_eq_rows hLoweredWhole,
      hLowered.region_eq, hNone, hNewest, List.nil_append,
      slice_zero, hRaisedLines, List.take_left' hStay,
      List.take_append_drop]
  · intro hFits
    rw [hLeft, hKept, rtake_of_length_le, rdrop_append hTop]
    rw [List.length_append, hRing.length_toList, hTop]
    exact hFits

/-
  Scrolling moves the rows of a region to the line, and a
  history that took the lines gives them back.
-/
theorem scrolls_there_and_back
    (hRing : grid.scrollback.Aligned)
    (hRegion : origin ≤ bottom)
    (hBottom : bottom < grid.rows)
    {n : Nat}
    (hSome : 0 < n)
    (retain : Bool)
    (blank : Cell) :
    let m := min n (bottom - origin + 1)
    let up :=
      grid.scrollRegion origin bottom n .up retain blank
    let down :=
      grid.scrollRegion origin bottom n .down retain blank
    grid.MovesUp origin bottom m retain blank up.1 up.2 ∧
      grid.MovesDown origin bottom m retain blank down.1
        down.2 ∧
      (grid.Exchanges origin bottom retain →
        m ≤ grid.scrollback.capacity →
          ∀ blank' : Cell,
            let back :=
              up.1.scrollRegion origin bottom n .down retain
                blank'
            back.1.lines = grid.lines ∧
              (grid.scrollback.size + m ≤
                  grid.scrollback.capacity →
                back.1.scrollback.toList =
                  grid.scrollback.toList)) := by
  intro m up down
  have hUp :
      grid.MovesUp origin bottom m retain blank up.1 up.2 :=
    movesUp_scrollUp hRing hRegion hBottom rfl hSome retain
      blank
  refine
    ⟨hUp,
      movesDown_scrollDown hRing hRegion hBottom rfl hSome
        retain blank, ?_⟩
  intro hExchanges hCapacity blank' back
  rcases hUp.region with ⟨_, _, hReplaces⟩
  have hDown :
      up.1.MovesDown origin bottom m retain blank' back.1
        back.2 :=
    movesDown_scrollDown hUp.aligned hRegion
      (hReplaces.rows_eq ▸ hBottom) rfl hSome retain blank'
  exact
    hUp.undone hDown hRing hExchanges (by omega) hCapacity

end

/- Lines of two columns, each of one letter. -/
def bands
    (chars : List Char) : List Line :=
  chars.map fun char => .ofBlank 2 (.styled char .plain 7 0)

/-
  Three rows over a history that has had three lines in its
  three slots and has one of them left.
-/
def threeBands : Grid :=
  let blank := Cell.blank 7 0
  let full :=
    ((Scrollback.empty 3).pushAll blank
      (bands ['x', 'y', 'z'])).1
  { ofBlank 2 3 3 blank with
    lines := bands ['a', 'b', 'c']
    scrollback := (full.popInto blank (bands ['v', 'w'])).1 }

theorem scrolls_threeBands :
    let up :=
      (threeBands.scrollRegion 0 2 2 .up true
        (.blank 7 0)).1
    let back :=
      (up.scrollRegion 0 2 2 .down true (.blank 7 0)).1
    up.scrollback.toList = bands ['x', 'a', 'b'] ∧
      back.lines = bands ['a', 'b', 'c'] ∧
      back.scrollback.toList = bands ['x'] := by
  intro up back
  have hRing : threeBands.scrollback.Aligned :=
    (((Scrollback.aligned_empty 3).pushAll _ _).1.popInto
      _ _).1
  have hExchanges : threeBands.Exchanges 0 2 true :=
    ⟨rfl, rfl, rfl, by decide⟩
  have hLeft :
      threeBands.scrollback.toList = bands ['x'] := by
    decide
  rcases scrolls_there_and_back hRing
      (show 0 ≤ 2 by decide)
      (show 2 < threeBands.rows by decide)
      (show 0 < 2 by decide) true (.blank 7 0) with
    ⟨hUp, _, hUndone⟩
  rcases hUndone hExchanges (by decide) (.blank 7 0) with
    ⟨hLines, hHistory⟩
  refine ⟨?_, hLines, (hHistory (by decide)).trans hLeft⟩
  rw [(hUp.exchanged hExchanges).1, hLeft]
  rfl

end Grid

end VideoTerminal
