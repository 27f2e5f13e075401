import VideoTerminal.Proofs.Session.Alike
import VideoTerminal.Proofs.Session.Offstage

/-
  Two sessions that differ in nothing that an application or
  its user can tell, but for the length of the history: the
  one with less room for it has kept the newest lines of what
  the other one has kept.

  Main declarations:
    * `Session.departing`
    * `Session.Tracks`
    * `Session.Tracks.scrollLines`
    * `Session.Tracks.writeChar`
    * `Session.Tracks.handleAll`
    * `Session.Tracks.resizeTo`
-/

namespace VideoTerminal

------------------------------------------------------------
-- Lines That Come Back
------------------------------------------------------------

namespace Grid

theorem WellFormed.retained_eq_nil
    {cols rows : Nat}
    {grid : Grid}
    (hGrid : grid.WellFormed cols rows 0) :
    grid.scrollback.retained = [] := by
  apply List.eq_nil_of_length_eq_zero
  rw [hGrid.history.length_retained]
  exact hGrid.size_eq_zero

/- Scrolling depends on the lines that there are alone. -/
theorem bare_scrollRegion_of_retained_eq
    {cols rows capacity : Nat}
    {grid grid' : Grid}
    (hGrid : grid.WellFormed cols rows capacity)
    (hGrid' : grid'.WellFormed cols rows capacity)
    (hBare : grid.bare = grid'.bare)
    (hRetained :
      grid.scrollback.retained = grid'.scrollback.retained)
    {origin bottom n : Nat}
    (hBottom : bottom < rows)
    (hSome : 0 < n)
    (hRoom : origin + n ≤ bottom + 1)
    (retain : Bool)
    (blank : Cell) :
    (grid.scrollRegion origin bottom n .down retain
        blank).1.bare =
      (grid'.scrollRegion origin bottom n .down retain
        blank).1.bare := by
  rcases bare_eq_iff.mp hBare with ⟨hCols, hLines⟩
  have hScrolled :=
    (scrolls_scrollDown hGrid hBottom hSome hRoom retain
      blank).1
  have hScrolled' :=
    (scrolls_scrollDown hGrid' hBottom hSome hRoom retain
      blank).1
  have hUses :
      grid.usesHistory origin bottom retain =
        grid'.usesHistory origin bottom retain := by
    unfold usesHistory
    rw [hGrid.rows_eq, hGrid'.rows_eq, hGrid.capacity_eq,
      hGrid'.capacity_eq]
  have hSize :
      grid.scrollback.size = grid'.scrollback.size := by
    rw [← hGrid.history.length_retained, hRetained,
      hGrid'.history.length_retained]
  apply bare_eq_iff.mpr
  refine ⟨?_, ?_⟩
  · exact
      hScrolled.cols_eq.trans
        (hCols.trans hScrolled'.cols_eq.symm)
  · refine
      hScrolled.lines_eq.trans
        (Eq.trans ?_ hScrolled'.lines_eq.symm)
    unfold returning
    rw [hUses, hLines, hRetained, hSize]

end Grid

namespace Session

------------------------------------------------------------
-- What Scrolling Does to the History
------------------------------------------------------------

/-
  The lines that scrolling up sends to the history, as far as
  it has room, with the newest in front.
-/
def departing
    (session : Session)
    (origin count : Nat)
    (retain : Bool) : List Line :=
  if session.screen = .primary ∧ retain ∧ origin = 0 ∧
      session.regionBottom + 1 = session.rows then
    (session.primary.slice origin
      (origin + session.scrollCount origin count)).reverse
  else
    []

section

variable {config : Config} {cols rows : Nat}
  {session : Session}
  (hSession : session.WellFormed config cols rows)

include hSession

theorem WellFormed.length_retained_le :
    session.primary.scrollback.retained.length ≤
      config.scrollbackLines := by
  rw [hSession.primary.history.length_retained,
    ← hSession.primary.capacity_eq]
  exact hSession.primary.history.size_le_capacity

theorem WellFormed.take_retained :
    session.primary.scrollback.retained.take
        config.scrollbackLines =
      session.primary.scrollback.retained :=
  List.take_of_length_le hSession.length_retained_le

theorem WellFormed.retained_scrollLines_up
    (origin count : Nat)
    (retain : Bool) :
    (session.scrollLines origin count .up
        retain).primary.scrollback.retained =
      (session.departing origin count retain ++
        session.primary.scrollback.retained).take
          config.scrollbackLines := by
  have hNothing := hSession.take_retained
  have hCapacity := hSession.primary.capacity_eq
  by_cases hNone : session.scrollCount origin count = 0
  · have hDeparting :
        session.departing origin count retain = [] := by
      unfold departing Grid.slice
      rw [hNone]
      split
      · simp
      · rfl
    rw [scrollLines_of_eq_zero hNone, hDeparting]
    exact hNothing.symm
  · have hRoom := add_scrollCount_le hNone
    rw [primary_scrollLines hNone]
    unfold departing
    cases hScreen : session.screen with
    | alternate =>
        simp only [reduceCtorEq, false_and, if_false,
          List.nil_append, hNothing]
    | primary =>
        have hScrolled :=
          (Grid.scrolls_scrollUp hSession.primary
            hSession.region_lt (Nat.pos_of_ne_zero hNone)
            hRoom retain session.blank).1.scrollback_eq
        have hPushed :=
          (hSession.primary.pushAll_slice
            (Nat.le_trans hRoom hSession.region_lt)
            session.blank).2.1
        show Scrollback.retained
          (session.primary.scrollUp _ _ _ _ _).1.scrollback = _
        rw [hScrolled]
        by_cases hUses :
            session.primary.usesHistory origin
              session.regionBottom retain
        · rcases Grid.usesHistory_iff.mp hUses with
            ⟨hRetain, hTop, hWhole, _⟩
          rw [if_pos hUses, if_pos ⟨rfl, hRetain, hTop, hWhole⟩,
            hPushed, hCapacity]
        · rw [if_neg hUses]
          split
          · rename_i hAll
            have hNoRoom : config.scrollbackLines = 0 := by
              apply Nat.eq_zero_of_not_pos
              intro hSome
              rw [← hCapacity] at hSome
              exact
                hUses
                  (Grid.usesHistory_iff.mpr
                    ⟨hAll.2.1, hAll.2.2.1, hAll.2.2.2, hSome⟩)
            rw [hNoRoom] at hNothing ⊢
            exact hNothing.symm
          · exact hNothing.symm

theorem WellFormed.retained_scrollLines_down
    (origin count : Nat)
    (retain : Bool) :
    (session.scrollLines origin count .down
        retain).primary.scrollback.retained =
      if session.screen = .primary ∧
          session.primary.usesHistory origin
            session.regionBottom retain then
        session.primary.scrollback.retained.drop
          (session.scrollCount origin count)
      else
        session.primary.scrollback.retained := by
  by_cases hNone : session.scrollCount origin count = 0
  · rw [scrollLines_of_eq_zero hNone, hNone, List.drop_zero,
      ite_self]
  · have hRoom := add_scrollCount_le hNone
    rw [primary_scrollLines hNone]
    cases hScreen : session.screen with
    | alternate =>
        simp only [reduceCtorEq, false_and, if_false]
    | primary =>
        have hScrolled :=
          (Grid.scrolls_scrollDown hSession.primary
            hSession.region_lt (Nat.pos_of_ne_zero hNone)
            hRoom retain session.blank).1.scrollback_eq
        have hPopped :=
          (hSession.primary.popInto_slice hSession.region_lt
            (show session.scrollCount origin count ≤
                session.regionBottom + 1 by omega)
            session.blank).2.1
        show Scrollback.retained
          (session.primary.scrollDown _ _ _ _ _).1.scrollback = _
        rw [hScrolled]
        by_cases hUses :
            session.primary.usesHistory origin
              session.regionBottom retain
        · rw [if_pos hUses, if_pos ⟨rfl, hUses⟩, hPopped]
        · rw [if_neg hUses, if_neg fun hAll => hUses hAll.2]

end

------------------------------------------------------------
-- Sessions That Keep Together
------------------------------------------------------------

/- The names of the window. -/
def titles
    (session : Session) : String × String :=
  (session.title, session.iconName)

/-
  Two sessions that have sent the same, whose windows have the
  same names, and that an application cannot tell apart.  The
  first has kept as much of the history of the second as it
  has room for.
-/
structure Tracks
    (config config' : Config)
    (cols rows : Nat)
    (session session' : Session) : Prop where
  left : session.WellFormed config cols rows
  right : session'.WellFormed config' cols rows
  core_eq : session.core = session'.core
  output_eq : session.output = session'.output
  titles_eq : session.titles = session'.titles
  history :
    session.primary.scrollback.retained =
      session'.primary.scrollback.retained.take
        config.scrollbackLines

theorem Tracks.refl
    {config : Config}
    {cols rows : Nat}
    {session : Session}
    (hSession : session.WellFormed config cols rows) :
    Tracks config config cols rows session session :=
  ⟨hSession, hSession, rfl, rfl, rfl,
    hSession.take_retained.symm⟩

/-
  A step that changes what the user sees and selects at most.
-/
structure Unnoticed
    (config : Config)
    (cols rows : Nat)
    (session next : Session) : Prop where
  wellFormed : next.WellFormed config cols rows
  core_eq : next.core = session.core
  output_eq : next.output = session.output
  records_eq : next.records = session.records

/- A change of the view of the screen in use. -/
theorem WellFormed.unnoticed_modifyActive
    {config : Config}
    {cols rows : Nat}
    {session : Session}
    (hSession : session.WellFormed config cols rows)
    {change : Grid → Grid}
    (hChange :
      ∀ capacity,
        session.active.WellFormed cols rows capacity →
          (change session.active).WellFormed cols rows
            capacity)
    (hBare :
      (change session.active).bare = session.active.bare)
    (hHistory :
      (change session.active).scrollback =
        session.active.scrollback) :
    Unnoticed config cols rows session
      (session.modifyActive change) where
  wellFormed := hSession.modifyActive hChange
  core_eq := by
    rw [core_modifyActive, hBare]
    rcases session with ⟨_, _, _, screen⟩
    cases screen with
    | primary => rfl
    | alternate => rfl
  output_eq := output_modifyActive session change
  records_eq :=
    congrArg Prod.snd (offstage_modifyActive hHistory)

theorem titles_scrollLines
    (session : Session)
    (origin count : Nat)
    (direction : ScrollDirection)
    (retain : Bool) :
    (session.scrollLines origin count direction
      retain).titles = session.titles := by
  by_cases hNone : session.scrollCount origin count = 0
  · rw [scrollLines_of_eq_zero hNone]
  · rw [scrollLines_of_ne_zero hNone]
    unfold Session.modifyActive
    split <;> rfl

section

variable {config config' : Config} {cols rows : Nat}
  {session session' : Session}
  (hTracks : Tracks config config' cols rows session session')

include hTracks

theorem Tracks.alike :
    Alike config config' cols rows session.output
      session'.output session session' where
  left := hTracks.left
  right := hTracks.right
  core_eq := hTracks.core_eq
  output := by
    have hNothing :
        ∀ output : Output, output = output.extend [] [] := by
      intro output
      unfold Output.extend
      rw [List.append_nil]
      rfl
    exact ⟨[], [], hNothing _, hNothing _⟩

/- What two alike steps send is the same. -/
theorem Tracks.of_alike
    {cols' rows' : Nat}
    {next next' : Session}
    (hAlike :
      Alike config config' cols' rows' session.output
        session'.output next next')
    (hTitles : next.titles = next'.titles)
    (hHistory :
      next.primary.scrollback.retained =
        next'.primary.scrollback.retained.take
          config.scrollbackLines) :
    Tracks config config' cols' rows' next next' where
  left := hAlike.left
  right := hAlike.right
  core_eq := hAlike.core_eq
  output_eq := by
    rcases hAlike.output with
      ⟨notices, writes, hLeft, hRight⟩
    rw [hLeft, hRight, hTracks.output_eq]
  titles_eq := hTitles
  history := hHistory

/- Two alike steps that reach neither names nor history. -/
theorem Tracks.quiet
    {next next' : Session}
    (hAlike :
      Alike config config' cols rows session.output
        session'.output next next')
    (hRecords : next.records = session.records)
    (hRecords' : next'.records = session'.records) :
    Tracks config config' cols rows next next' := by
  have hHistory := congrArg Prod.fst hRecords
  have hHistory' := congrArg Prod.fst hRecords'
  have hTitles := congrArg Prod.snd hRecords
  have hTitles' := congrArg Prod.snd hRecords'
  dsimp only [records] at hHistory hHistory' hTitles hTitles'
  apply hTracks.of_alike hAlike
  · exact hTitles.trans (hTracks.titles_eq.trans hTitles'.symm)
  · rw [hHistory, hHistory']
    exact hTracks.history

/- A step of the first alone that the second does not notice. -/
theorem Tracks.step_left
    {next : Session}
    (hNext : Unnoticed config cols rows session next) :
    Tracks config config' cols rows next session' where
  left := hNext.wellFormed
  right := hTracks.right
  core_eq := hNext.core_eq.trans hTracks.core_eq
  output_eq := hNext.output_eq.trans hTracks.output_eq
  titles_eq :=
    (congrArg Prod.snd hNext.records_eq).trans
      hTracks.titles_eq
  history := by
    have hHistory := congrArg Prod.fst hNext.records_eq
    dsimp only [records] at hHistory
    rw [hHistory]
    exact hTracks.history

/- A step of the second alone that the first does not notice. -/
theorem Tracks.step_right
    {next' : Session}
    (hNext : Unnoticed config' cols rows session' next') :
    Tracks config config' cols rows session next' where
  left := hTracks.left
  right := hNext.wellFormed
  core_eq := hTracks.core_eq.trans hNext.core_eq.symm
  output_eq := hTracks.output_eq.trans hNext.output_eq.symm
  titles_eq :=
    hTracks.titles_eq.trans
      (congrArg Prod.snd hNext.records_eq).symm
  history := by
    have hHistory := congrArg Prod.fst hNext.records_eq
    dsimp only [records] at hHistory
    rw [hHistory]
    exact hTracks.history

/- What is on its way out is taken or redirected alike. -/
theorem Tracks.modifyOutput
    (change : Output → Output) :
    Tracks config config' cols rows
      { session with
        notices := (change session.output).notices
        outbox := (change session.output).outbox }
      { session' with
        notices := (change session'.output).notices
        outbox := (change session'.output).outbox } where
  left := { hTracks.left with }
  right := { hTracks.right with }
  core_eq := hTracks.core_eq
  output_eq := congrArg change hTracks.output_eq
  titles_eq := hTracks.titles_eq
  history := hTracks.history

/- With equal room the two histories are equal. -/
theorem Tracks.retained_eq
    (hSame : config.scrollbackLines = config'.scrollbackLines) :
    session.primary.scrollback.retained =
      session'.primary.scrollback.retained := by
  rw [hTracks.history, hSame]
  exact hTracks.right.take_retained

theorem Tracks.usesHistory_eq
    (hSame : config.scrollbackLines = config'.scrollbackLines)
    (origin bottom : Nat)
    (retain : Bool) :
    session.primary.usesHistory origin bottom retain =
      session'.primary.usesHistory origin bottom retain := by
  have hRows :
      session.primary.rows = session'.primary.rows :=
    hTracks.alike.rows_eq
  unfold Grid.usesHistory
  rw [hRows, hTracks.left.primary.capacity_eq,
    hTracks.right.primary.capacity_eq, hSame]

/- With equal room the same lines come back. -/
theorem Tracks.scrollLines_down
    (hSame : config.scrollbackLines = config'.scrollbackLines)
    (origin count : Nat)
    (retain : Bool) :
    Tracks config config' cols rows
      (session.scrollLines origin count .down retain)
      (session'.scrollLines origin count .down retain) := by
  have hAlike := hTracks.alike
  have hRetained := hTracks.retained_eq hSame
  have hScreen := hAlike.screen_eq
  have hCount :
      session.scrollCount origin count =
        session'.scrollCount origin count :=
    hAlike.read (·.scrollCount origin count)
  apply hTracks.of_alike
  · apply hAlike.scrollLines_of_bare_eq
    intro hSome
    have hRight := hAlike.right.active
    have hActive :
        session.active.scrollback.retained =
          session'.active.scrollback.retained := by
      unfold Session.active
      rw [hScreen]
      cases session'.screen with
      | primary => exact hRetained
      | alternate =>
          exact
            hAlike.left.alternate.retained_eq_nil.trans
              hAlike.right.alternate.retained_eq_nil.symm
    have hCapacity :
        session'.activeCapacity = session.activeCapacity := by
      unfold activeCapacity
      rw [hScreen, hAlike.left.config_eq,
        hAlike.right.config_eq, hSame]
    rw [hCapacity] at hRight
    unfold scrolledGrid
    rw [← hCount, ← hAlike.regionBottom_eq,
      ← hAlike.blank_eq]
    exact
      Grid.bare_scrollRegion_of_retained_eq
        hAlike.left.active hRight hAlike.bare_active_eq hActive
        hAlike.left.region_lt (Nat.pos_of_ne_zero hSome)
        (add_scrollCount_le hSome) retain _
  · rw [titles_scrollLines, titles_scrollLines,
      hTracks.titles_eq]
  · have hRoom := hTracks.left.length_retained_le
    rw [hTracks.left.retained_scrollLines_down,
      hTracks.right.retained_scrollLines_down,
      ← hTracks.usesHistory_eq hSame, ← hScreen,
      ← hAlike.regionBottom_eq, ← hCount, ← hRetained]
    split
    · refine (List.take_of_length_le ?_).symm
      rw [List.length_drop]
      exact Nat.le_trans (Nat.sub_le _ _) hRoom
    · exact (List.take_of_length_le hRoom).symm

/-
  What goes to both histories leaves the first as much of the
  second as it has room for.
-/
theorem Tracks.history_append
    (hLess : config.scrollbackLines ≤ config'.scrollbackLines)
    (lines : List Line)
    (change : Line → Line) :
    (lines ++
        session.primary.scrollback.retained.map change).take
        config.scrollbackLines =
      ((lines ++
          session'.primary.scrollback.retained.map
            change).take config'.scrollbackLines).take
          config.scrollbackLines := by
  rw [hTracks.history, List.map_take, List.take_take,
    Nat.min_eq_left hLess, List.take_append, List.take_append,
    List.take_take, Nat.min_eq_left (Nat.sub_le _ _)]

theorem Tracks.scrollLines
    (hLess : config.scrollbackLines ≤ config'.scrollbackLines)
    (origin count : Nat)
    {direction : ScrollDirection}
    {retain : Bool}
    (hBack :
      direction = .down →
        retain →
          config.scrollbackLines = config'.scrollbackLines) :
    Tracks config config' cols rows
      (session.scrollLines origin count direction retain)
      (session'.scrollLines origin count direction
        retain) := by
  have hAlike := hTracks.alike
  cases direction with
  | up =>
      have hDeparting :
          session.departing origin count retain =
            session'.departing origin count retain :=
        hAlike.read (·.departing origin count retain)
      apply hTracks.of_alike
      · exact hAlike.scrollLines origin count .up retain nofun
      · rw [titles_scrollLines, titles_scrollLines,
          hTracks.titles_eq]
      · rw [hTracks.left.retained_scrollLines_up,
          hTracks.right.retained_scrollLines_up, hDeparting]
        have hHistory :=
          hTracks.history_append hLess
            (session'.departing origin count retain) id
        rw [List.map_id, List.map_id] at hHistory
        exact hHistory
  | down =>
      cases retain with
      | true =>
          exact
            hTracks.scrollLines_down (hBack rfl rfl) origin
              count true
      | false =>
          have hOffstage :
              ∀ session : Session,
                (session.scrollLines origin count .down
                  false).records = session.records :=
            fun session =>
              congrArg Prod.snd
                (offstage_scrollLines session _ _ _)
          exact
            hTracks.quiet
              (hAlike.scrollLines origin count .down false
                fun _ => rfl)
              (hOffstage session) (hOffstage session')

end

------------------------------------------------------------
-- Writing
------------------------------------------------------------

section

variable {config config' : Config} {cols rows : Nat}
  {session session' : Session}
  (hTracks : Tracks config config' cols rows session session')
  (hLess : config.scrollbackLines ≤ config'.scrollbackLines)

include hTracks hLess

theorem Tracks.newLine
    (toFirstColumn : Bool) :
    Tracks config config' cols rows
      (session.newLine toFirstColumn)
      (session'.newLine toFirstColumn) := by
  have hAlike := hTracks.alike
  have hRow := hTracks.left.cursor_row
  have hCol :
      (if toFirstColumn then 0 else session.cursor.col) <
        cols := by
    split
    · exact hTracks.left.cols_pos
    · exact hTracks.left.cursor_col
  unfold Session.newLine
  dsimp only
  rw [← hAlike.cursor_eq, ← hAlike.regionBottom_eq,
    ← hAlike.regionTop_eq, ← hAlike.rows_eq]
  split
  · have hScrolled :=
      @Tracks.scrollLines _ _ _ _ _ _ hTracks hLess
        session.regionTop 1 .up true nofun
    exact
      hScrolled.quiet (hScrolled.alike.goto hCol hRow) rfl rfl
  · split
    · rename_i hNext
      exact
        hTracks.quiet
          (hAlike.goto hCol (hTracks.left.rows_eq ▸ hNext))
          rfl rfl
    · exact hTracks.quiet (hAlike.goto hCol hRow) rfl rfl

theorem Tracks.softWrap :
    Tracks config config' cols rows session.softWrap
      session'.softWrap := by
  have hMarked :
      Tracks config config' cols rows session.markWrapped
        session'.markWrapped :=
    hTracks.quiet hTracks.alike.markWrapped
      (congrArg Prod.snd hTracks.left.offstage_markWrapped)
      (congrArg Prod.snd hTracks.right.offstage_markWrapped)
  exact hMarked.newLine hLess true

theorem Tracks.makeRoom
    {width : Nat}
    (hSome : 0 < width) :
    Tracks config config' cols rows
      (session.makeRoom width) (session'.makeRoom width) := by
  have hWrapped :
      Tracks config config' cols rows session.wrapIfPending
        session'.wrapIfPending := by
    unfold Session.wrapIfPending
    rw [hTracks.alike.cursor_eq, hTracks.alike.modes_eq]
    split
    · exact hTracks.softWrap hLess
    · exact hTracks
  have hFit := hWrapped.alike.fit session.modes.autoWrap hSome
  rw [makeRoom_eq, makeRoom_eq, ← hTracks.alike.modes_eq]
  unfold Session.fit at hFit ⊢
  rw [← hWrapped.alike.cols_eq, ← hWrapped.alike.cursor_eq]
    at hFit ⊢
  split
  · split
    · exact hWrapped.softWrap hLess
    · rename_i hNarrow hStays
      rw [if_pos hNarrow, if_neg hStays, if_pos hNarrow,
        if_neg hStays] at hFit
      exact hWrapped.quiet hFit rfl rfl
  · exact hWrapped

theorem Tracks.writeChar
    [TextLibrary]
    (c : Char) :
    Tracks config config' cols rows (session.writeChar c)
      (session'.writeChar c) := by
  have hCharsets :
      session.charsets = session'.charsets :=
    hTracks.alike.read Session.charsets
  unfold Session.writeChar
  rw [← hCharsets, ← hTracks.alike.cols_eq]
  dsimp only
  split
  · exact hTracks
  · exact hTracks
  · rename_i width hZero hWidth
    split
    · exact hTracks
    · rename_i hFits
      have hSome : 0 < width := Nat.pos_of_ne_zero hZero
      have hLe : width ≤ cols := by
        rw [hTracks.left.cols_eq] at hFits
        exact Nat.le_of_not_lt hFits
      have hRoom := hTracks.makeRoom hLess hSome
      have hPlace := hTracks.left.col_makeRoom_add_le hLe
      have hPlace' := hTracks.right.col_makeRoom_add_le hLe
      have hPut :=
        hRoom.quiet
          (hRoom.alike.putAtCursor hSome hPlace
            (session.charsets.substitute c))
          (congrArg Prod.snd
            (hRoom.left.offstage_putAtCursor hSome hPlace _))
          (congrArg Prod.snd
            (hRoom.right.offstage_putAtCursor hSome hPlace' _))
      exact
        hPut.quiet ((hPut.alike.notePrinted _).advance width)
          rfl rfl

theorem Tracks.repeatLast
    [TextLibrary]
    (n : Nat) :
    Tracks config config' cols rows (session.repeatLast n)
      (session'.repeatLast n) := by
  have hLast :
      session.lastPrinted = session'.lastPrinted :=
    hTracks.alike.read Session.lastPrinted
  unfold Session.repeatLast
  rw [← hLast]
  split
  · exact hTracks
  · rename_i c hPrinted
    clear hLast hPrinted
    induction n generalizing session session' with
    | zero => exact hTracks
    | succ n hRest => exact hRest (hTracks.writeChar hLess c)

end

------------------------------------------------------------
-- Events
------------------------------------------------------------

theorem primary_performString
    [TextLibrary]
    (session : Session)
    (kind : StringKind)
    (payload : String) :
    (session.performString kind payload).primary =
      session.primary := by
  rcases performString_eq session kind payload with
    ⟨title, iconName, notices, hPerformed⟩
  rw [hPerformed]

theorem titles_performString
    [TextLibrary]
    {session session' : Session}
    (hTitles : session.titles = session'.titles)
    (kind : StringKind)
    (payload : String) :
    (session.performString kind payload).titles =
      (session'.performString kind payload).titles := by
  have hTitle : session.title = session'.title :=
    congrArg Prod.fst hTitles
  have hIconName : session.iconName = session'.iconName :=
    congrArg Prod.snd hTitles
  unfold Session.performString
  split
  · unfold Session.performCommand
    split
    · rfl
    · exact Prod.ext hTitle rfl
    · exact Prod.ext rfl hIconName
    · unfold setClipboard
      split
      · exact hTitles
      · dsimp only
        split
        · exact hTitles
        · split <;> exact hTitles
    · exact hTitles
  · exact Prod.ext rfl hIconName
  · exact hTitles
  · exact hTitles
  · exact hTitles

section

variable {config config' : Config} {cols rows : Nat}
  {session session' : Session}
  (hTracks : Tracks config config' cols rows session session')

include hTracks

theorem Tracks.clearScrollback :
    Tracks config config' cols rows session.clearScrollback
      session'.clearScrollback := by
  apply hTracks.of_alike hTracks.alike.clearScrollback
  · exact hTracks.titles_eq
  · show session.primary.clearScrollback.scrollback.retained =
      session'.primary.clearScrollback.scrollback.retained.take
        config.scrollbackLines
    rw [Grid.scrollback_clearScrollback,
      Grid.scrollback_clearScrollback]
    exact List.take_nil.symm

section

variable [TextLibrary]

theorem Tracks.performString
    (kind : StringKind)
    (payload : String) :
    Tracks config config' cols rows
      (session.performString kind payload)
      (session'.performString kind payload) := by
  apply
    hTracks.of_alike
      (hTracks.alike.handle (.string kind payload))
  · exact
      titles_performString hTracks.titles_eq kind payload
  · show
      (session.performString kind
          payload).primary.scrollback.retained =
        (session'.performString kind
          payload).primary.scrollback.retained.take
            config.scrollbackLines
    rw [primary_performString, primary_performString]
    exact hTracks.history

/- Whatever the application sends, the two keep together. -/
theorem Tracks.handle
    (hLess : config.scrollbackLines ≤ config'.scrollbackLines)
    (event : Event) :
    Tracks config config' cols rows (session.handle event)
      (session'.handle event) := by
  have hAlike := hTracks.alike
  cases event.reach with
  | nothing hLocal =>
      exact
        hTracks.quiet (hAlike.handle event)
          (congrArg Prod.snd
            (hTracks.left.offstage_handle hLocal))
          (congrArg Prod.snd
            (hTracks.right.offstage_handle hLocal))
  | write c hHandle =>
      rw [hHandle, hHandle]
      exact hTracks.writeChar hLess c
  | repeatLast n hHandle =>
      rw [hHandle, hHandle]
      exact hTracks.repeatLast hLess n
  | newLine toFirstColumn hHandle =>
      rw [hHandle, hHandle, hAlike.modes_eq]
      exact hTracks.newLine hLess _
  | clear _ hHandle =>
      rw [hHandle, hHandle]
      exact hTracks.clearScrollback
  | reset hHandle =>
      rw [hHandle, hHandle]
      exact
        hTracks.quiet hAlike.reset (records_reset session)
          (records_reset session')
  | modes isPrivate on params hHandle =>
      rw [hHandle, hHandle]
      exact
        hTracks.quiet (hAlike.setModes isPrivate on params)
          (toggles_setModes session isPrivate on
            params).records_eq
          (toggles_setModes session' isPrivate on
            params).records_eq
  | string kind payload hHandle =>
      rw [hHandle, hHandle]
      exact hTracks.performString kind payload

theorem Tracks.handleAll
    (hLess : config.scrollbackLines ≤ config'.scrollbackLines)
    (events : List Event) :
    Tracks config config' cols rows
      (events.foldl Session.handle session)
      (events.foldl Session.handle session') := by
  induction events generalizing session session' with
  | nil => exact hTracks
  | cons event events hRest =>
      exact hRest (hTracks.handle hLess event)

end

end

------------------------------------------------------------
-- Size
------------------------------------------------------------

/-
  The lines that leave the primary screen with a change of
  size, the lowest in front.
-/
def squeezedOut
    (session : Session)
    (anchorRow cols rows : Nat) : List Line :=
  ((session.primary.lines.map
      (session.primary.refit cols session.config.blank)).take
    (min (anchorRow + 1 - rows) session.rows)).reverse

theorem WellFormed.retained_resizeTo
    {config : Config}
    {cols rows : Nat}
    {session : Session}
    (hSession : session.WellFormed config cols rows)
    (cols' rows' : Nat) :
    (session.resizeTo cols'
        rows').primary.scrollback.retained =
      (session.squeezedOut session.anchorRow cols' rows' ++
        session.primary.scrollback.retained.map
          (session.primary.refit cols'
            session.config.blank)).take
          config.scrollbackLines :=
  hSession.primary.retained_resize cols' rows' _
    (isPlain_configBlank session.config)

theorem Tracks.resizeTo
    {config config' : Config}
    {cols rows cols' rows' : Nat}
    {session session' : Session}
    (hTracks :
      Tracks config config' cols rows session session')
    (hLess : config.scrollbackLines ≤ config'.scrollbackLines)
    (hCols : 0 < cols')
    (hRows : 0 < rows') :
    Tracks config config' cols' rows'
      (session.resizeTo cols' rows')
      (session'.resizeTo cols' rows') := by
  have hAlike := hTracks.alike
  have hAnchor : session.anchorRow = session'.anchorRow := by
    rw [← anchorRow_core session, hTracks.core_eq,
      anchorRow_core]
  have hLines :
      session.squeezedOut session.anchorRow cols' rows' =
        session'.squeezedOut session.anchorRow cols' rows' :=
    hAlike.read (·.squeezedOut session.anchorRow cols' rows')
  have hRefit :
      session.primary.refit cols' session.config.blank =
        session'.primary.refit cols' session'.config.blank :=
    hAlike.read fun other =>
      other.primary.refit cols' other.config.blank
  apply hTracks.of_alike (hAlike.resizeTo hCols hRows)
  · exact hTracks.titles_eq
  · rw [hTracks.left.retained_resizeTo,
      hTracks.right.retained_resizeTo, hLines, hAnchor, hRefit]
    exact hTracks.history_append hLess _ _

end Session

end VideoTerminal
