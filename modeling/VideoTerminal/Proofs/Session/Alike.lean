import VideoTerminal.Proofs.Session.WellFormed

/-
  Two sessions that an application cannot tell apart.  They
  may differ in what the user does with them, in their
  history, and in what they have sent so far, and they stay
  alike whatever events they are given.

  Main declarations:
    * `Session.core`
    * `Session.Alike`
    * `Session.Alike.scrollLines`
    * `Session.Alike.writeChar`
    * `Session.Alike.resize`
    * `Session.Alike.handle`
-/

namespace VideoTerminal

------------------------------------------------------------
-- What a Screen Shows
------------------------------------------------------------

namespace Grid

/- A screen without its history and its records of changes. -/
def bare
    (grid : Grid) : Grid :=
  { grid with
    scrollback := .empty 0
    dirty := []
    viewOffset := 0 }

theorem bare_eq_iff
    {grid other : Grid} :
    grid.bare = other.bare ↔
      grid.cols = other.cols ∧ grid.lines = other.lines := by
  constructor
  · intro hBare
    have hCols := congrArg Grid.cols hBare
    have hLines := congrArg Grid.lines hBare
    exact ⟨hCols, hLines⟩
  · rintro ⟨hCols, hLines⟩
    unfold bare
    rw [hCols, hLines]

theorem bare_setViewOffset
    (grid : Grid)
    (offset : Nat) :
    (grid.setViewOffset offset).bare = grid.bare := by
  unfold setViewOffset
  dsimp only
  split
  · rfl
  · rfl

/- A change of size does not depend on the history. -/
theorem bare_resize
    (grid : Grid)
    (cols rows cursorRow : Nat)
    (retain : Bool)
    (blank : Cell) :
    (grid.resize cols rows cursorRow retain blank).1.bare =
        (grid.bare.resize cols rows cursorRow retain
          blank).1.bare ∧
      (grid.resize cols rows cursorRow retain blank).2 =
        (grid.bare.resize cols rows cursorRow retain
          blank).2 := by
  unfold resize resizeCols
  have hCols : grid.bare.cols = grid.cols := rfl
  rw [hCols]
  split
  · exact ⟨rfl, rfl⟩
  · exact ⟨rfl, rfl⟩

/- The same change of the same lines has the same result. -/
theorem Edits.bare_eq
    {grid edited grid' edited' : Grid}
    {change : Nat → Line → Line}
    (hBare : grid.bare = grid'.bare)
    (hEdits : grid.Edits edited change)
    (hEdits' : grid'.Edits edited' change) :
    edited.bare = edited'.bare := by
  rcases bare_eq_iff.mp hBare with ⟨hCols, hLines⟩
  apply bare_eq_iff.mpr
  constructor
  · rw [hEdits.cols_eq, hEdits'.cols_eq, hCols]
  · rw [hEdits.lines_eq, hEdits'.lines_eq, hLines]

end Grid

namespace Session

------------------------------------------------------------
-- What an Application Can Tell
------------------------------------------------------------

/-
  The part of a session that what it does for an application
  depends on.
-/
def core
    (session : Session) : Session :=
  { session with
    config := { session.config with scrollbackLines := 0 }
    primary := session.primary.bare
    alternate := session.alternate.bare
    selection := none
    clicks := .start
    title := ""
    iconName := ""
    notices := []
    outbox := .empty }

/- What a session has sent to the embedder and beyond. -/
structure Output where
  notices : List Notice
  outbox : Outbox

namespace Output

/- The output after some more notices and writes. -/
def extend
    (output : Output)
    (notices : List Notice)
    (writes : List (List UInt8)) : Output where
  notices := output.notices ++ notices
  outbox := writes.foldl Outbox.write output.outbox

end Output

/- What a session has sent so far. -/
def output
    (session : Session) : Output :=
  ⟨session.notices, session.outbox⟩

/-
  Two sessions on screens of one size that an application
  cannot tell apart, and that have sent the same since they
  had sent `before` and `before'`.
-/
structure Alike
    (config config' : Config)
    (cols rows : Nat)
    (before before' : Output)
    (session session' : Session) : Prop where
  left : session.WellFormed config cols rows
  right : session'.WellFormed config' cols rows
  core_eq : session.core = session'.core
  output :
    ∃ notices writes,
      session.output = before.extend notices writes ∧
        session'.output = before'.extend notices writes

theorem core_modifyActive
    (session : Session)
    (change : Grid → Grid) :
    (session.modifyActive change).core =
      session.core.modifyActive fun _ =>
        (change session.active).bare := by
  rcases session with ⟨_, _, _, screen⟩
  cases screen with
  | primary => rfl
  | alternate => rfl

theorem output_modifyActive
    (session : Session)
    (change : Grid → Grid) :
    (session.modifyActive change).output =
      session.output := by
  rcases session with ⟨_, _, _, screen⟩
  cases screen with
  | primary => rfl
  | alternate => rfl

theorem core_moveTo
    (session : Session)
    (col row : Nat) :
    (session.moveTo col row).core =
      session.core.moveTo col row := by
  rcases session with ⟨_, _, _, _, _, _, _, _, modes⟩
  rcases modes with ⟨_, _, origin⟩
  cases origin with
  | false => rfl
  | true => rfl

theorem core_useAlternate
    (session : Session) :
    session.useAlternate.core = session.core.useAlternate := by
  have hPrimary := Grid.bare_setViewOffset session.primary 0
  rcases session with ⟨_, _, _, screen⟩
  cases screen with
  | primary =>
      unfold useAlternate core Grid.resetView
      dsimp only
      rw [hPrimary]
      rfl
  | alternate => rfl

theorem core_usePrimary
    (session : Session) :
    session.usePrimary.core = session.core.usePrimary := by
  rcases session with ⟨_, _, _, screen⟩
  cases screen with
  | primary => rfl
  | alternate => rfl

theorem core_saveCursor
    (session : Session) :
    session.saveCursor.core = session.core.saveCursor := by
  rcases session with ⟨_, _, _, screen⟩
  cases screen with
  | primary => rfl
  | alternate => rfl

theorem core_reset
    (session : Session) :
    session.reset.core = session.core.reset.core := by
  have hPrimary :=
    Grid.bare_setViewOffset
      (session.primary.clear session.config.blank) 0
  unfold reset core Grid.resetView
  dsimp only
  rw [show
    ((session.primary.clear
        session.config.blank).setViewOffset
          0).markAllDirty.bare =
      ((session.primary.clear
        session.config.blank).setViewOffset 0).bare from rfl,
    hPrimary]
  rfl

theorem core_notify
    (session : Session)
    (notice : Notice) :
    (session.notify notice).core = session.core :=
  rfl

/-
  A change of size, given the two screens after it and the
  numbers of lines that left them at the top.
-/
def resizedWith
    (session : Session)
    (cols rows : Nat)
    (primary alternate : Grid × Nat) : Session :=
  let (cursorShift, savedShift) :=
    match session.screen with
    | .primary => (primary.2, 0)
    | .alternate => (alternate.2, primary.2)
  { session with
    primary := primary.1
    alternate := alternate.1
    cursor :=
      { session.cursor with
        col := min session.cursor.col (cols - 1)
        row := min (session.cursor.row - cursorShift) (rows - 1)
        wrapPending := false }
    savedPrimary :=
      session.savedPrimary.map fun saved =>
        clampSaved cols rows
          { saved with row := saved.row - savedShift }
    savedAlternate :=
      session.savedAlternate.map (clampSaved cols rows)
    tabStops :=
      resizeTabStops session.tabStops cols
        session.config.tabWidth
    regionTop := 0
    regionBottom := rows - 1
    selection := none }

theorem resizeTo_eq
    (session : Session)
    (cols rows : Nat) :
    session.resizeTo cols rows =
      (session.resizedWith cols rows
        (session.primary.resize cols rows session.anchorRow
          true session.config.blank)
        (session.alternate.resize cols rows
          session.cursor.row false
          session.config.blank)).notify
        (.resized cols rows) :=
  rfl

theorem core_resizedWith
    (session : Session)
    (cols rows : Nat)
    (primary alternate : Grid × Nat) :
    (session.resizedWith cols rows primary alternate).core =
      session.core.resizedWith cols rows
        (primary.1.bare, primary.2)
        (alternate.1.bare, alternate.2) := by
  rcases session with ⟨_, _, _, screen⟩
  cases screen with
  | primary => rfl
  | alternate => rfl

theorem anchorRow_core
    (session : Session) :
    session.core.anchorRow = session.anchorRow := by
  rcases session with ⟨_, _, _, screen⟩
  cases screen with
  | primary => rfl
  | alternate => rfl

theorem core_resizeTo
    (session : Session)
    (cols rows : Nat) :
    (session.resizeTo cols rows).core =
      (session.core.resizeTo cols rows).core := by
  have hPrimary :=
    Grid.bare_resize session.primary cols rows
      session.anchorRow true session.config.blank
  have hAlternate :=
    Grid.bare_resize session.alternate cols rows
      session.cursor.row false session.config.blank
  rw [resizeTo_eq, resizeTo_eq, anchorRow_core, core_notify,
    core_notify, core_resizedWith, core_resizedWith,
    hPrimary.1, hPrimary.2, hAlternate.1, hAlternate.2]
  rfl

/- The pen does not depend on the length of the history. -/
theorem applyAll_scrollbackLines
    (pen : Pen)
    (config : Config)
    (lines : Nat)
    (items : List Parameter) :
    pen.applyAll { config with scrollbackLines := lines }
        items =
      pen.applyAll config items := by
  fun_induction Pen.applyAll pen config items with
  | case1 pen => rw [Pen.applyAll]
  | case2 pen item rest code hColour colour count hCount
      hRest =>
      rw [Pen.applyAll, if_pos hColour]
      simp only [hCount]
      exact hRest
  | case3 pen item rest code hColour subs hRest =>
      rw [Pen.applyAll, if_neg hColour]
      exact hRest

theorem core_selectRendition
    (session : Session)
    (params : Parameters) :
    (session.modifyCursor fun cursor =>
        { cursor with
          pen :=
            cursor.pen.select session.config params }).core =
      session.core.modifyCursor fun cursor =>
        { cursor with
          pen :=
            cursor.pen.select session.core.config
              params } := by
  have hPen :
      session.cursor.pen.select session.core.config params =
        session.cursor.pen.select session.config params := by
    unfold Pen.select
    split
    · rfl
    · exact applyAll_scrollbackLines _ _ 0 _
  exact
    congrArg
      (fun pen =>
        session.core.modifyCursor fun cursor =>
          { cursor with pen := pen })
      hPen.symm

theorem Output.extend_notice
    {output before : Output}
    {notices : List Notice}
    {writes : List (List UInt8)}
    (hOutput : output = before.extend notices writes)
    (notice : Notice) :
    { output with notices := output.notices ++ [notice] } =
      before.extend (notices ++ [notice]) writes := by
  rw [hOutput]
  unfold Output.extend
  rw [List.append_assoc]

theorem Output.extend_write
    {output before : Output}
    {notices : List Notice}
    {writes : List (List UInt8)}
    (hOutput : output = before.extend notices writes)
    (bytes : List UInt8) :
    { output with outbox := output.outbox.write bytes } =
      before.extend notices (writes ++ [bytes]) := by
  rw [hOutput]
  unfold Output.extend
  rw [List.foldl_append]
  rfl

/-
  Where lines only come back from the history if they move
  down and that is asked for, the lines of a screen alone
  decide what scrolling makes of them.
-/
theorem bare_scrollRegion
    {cols rows capacity capacity' : Nat}
    {grid grid' : Grid}
    (hGrid : grid.WellFormed cols rows capacity)
    (hGrid' : grid'.WellFormed cols rows capacity')
    (hBare : grid.bare = grid'.bare)
    {origin bottom n : Nat}
    (hBottom : bottom < rows)
    (hSome : 0 < n)
    (hRoom : origin + n ≤ bottom + 1)
    {direction : ScrollDirection}
    {retain : Bool}
    (hRetain : direction = .down → retain = false)
    (blank : Cell) :
    (grid.scrollRegion origin bottom n direction retain
        blank).1.bare =
      (grid'.scrollRegion origin bottom n direction retain
        blank).1.bare := by
  rcases Grid.bare_eq_iff.mp hBare with ⟨hCols, hLines⟩
  apply Grid.bare_eq_iff.mpr
  unfold Grid.scrollRegion
  cases direction with
  | up =>
      have hScrolled :=
        (Grid.scrolls_scrollUp hGrid hBottom hSome hRoom
          retain blank).1
      have hScrolled' :=
        (Grid.scrolls_scrollUp hGrid' hBottom hSome hRoom
          retain blank).1
      refine ⟨?_, ?_⟩
      · rw [hScrolled.cols_eq, hScrolled'.cols_eq, hCols]
      · rw [hScrolled.lines_eq, hScrolled'.lines_eq, hLines]
  | down =>
      have hScrolled :=
        (Grid.scrolls_scrollDown hGrid hBottom hSome hRoom
          retain blank).1
      have hScrolled' :=
        (Grid.scrolls_scrollDown hGrid' hBottom hSome hRoom
          retain blank).1
      refine ⟨?_, ?_⟩
      · rw [hScrolled.cols_eq, hScrolled'.cols_eq, hCols]
      · rw [hScrolled.lines_eq, hScrolled'.lines_eq, hLines,
          hRetain rfl]
        rfl

section

variable {config config' : Config} {cols rows : Nat}
  {before before' : Output} {session session' : Session}
  (hAlike :
    Alike config config' cols rows before before' session
      session')

include hAlike

/- What is read off the part that counts is the same. -/
theorem Alike.read
    {α : Type}
    (value : Session → α) :
    value session.core = value session'.core :=
  congrArg value hAlike.core_eq

/- A change that sends nothing and depends on that part. -/
theorem Alike.step
    {next next' : Session}
    (hLeft : next.WellFormed config cols rows)
    (hRight : next'.WellFormed config' cols rows)
    (hCore : next.core = next'.core)
    (hOutput : next.output = session.output)
    (hOutput' : next'.output = session'.output) :
    Alike config config' cols rows before before' next
      next' where
  left := hLeft
  right := hRight
  core_eq := hCore
  output := by
    rw [hOutput, hOutput']
    exact hAlike.output

theorem Alike.cols_eq :
    session.cols = session'.cols :=
  hAlike.read Session.cols

theorem Alike.rows_eq :
    session.rows = session'.rows :=
  hAlike.read Session.rows

theorem Alike.cursor_eq :
    session.cursor = session'.cursor :=
  hAlike.read Session.cursor

theorem Alike.modes_eq :
    session.modes = session'.modes :=
  hAlike.read Session.modes

theorem Alike.screen_eq :
    session.screen = session'.screen :=
  hAlike.read Session.screen

theorem Alike.regionTop_eq :
    session.regionTop = session'.regionTop :=
  hAlike.read Session.regionTop

theorem Alike.regionBottom_eq :
    session.regionBottom = session'.regionBottom :=
  hAlike.read Session.regionBottom

theorem Alike.blank_eq :
    session.blank = session'.blank :=
  hAlike.read Session.blank

theorem Alike.bare_active_eq :
    session.active.bare = session'.active.bare := by
  have hPrimary := hAlike.read Session.primary
  have hAlternate := hAlike.read Session.alternate
  unfold Session.active
  rw [hAlike.screen_eq]
  cases session'.screen with
  | primary => exact hPrimary
  | alternate => exact hAlternate

------------------------------------------------------------
-- Changes of One Part
------------------------------------------------------------

theorem Alike.modifyActive
    {change change' : Grid → Grid}
    (hLeft :
      (session.modifyActive change).WellFormed config cols
        rows)
    (hRight :
      (session'.modifyActive change').WellFormed config' cols
        rows)
    (hBare :
      (change session.active).bare =
        (change' session'.active).bare) :
    Alike config config' cols rows before before'
      (session.modifyActive change)
      (session'.modifyActive change') where
  left := hLeft
  right := hRight
  core_eq := by
    rw [core_modifyActive, core_modifyActive, hBare,
      hAlike.core_eq]
  output := by
    rw [output_modifyActive, output_modifyActive]
    exact hAlike.output

theorem Alike.notify
    (notice : Notice) :
    Alike config config' cols rows before before'
      (session.notify notice) (session'.notify notice) where
  left := hAlike.left.notify notice
  right := hAlike.right.notify notice
  core_eq := hAlike.core_eq
  output := by
    rcases hAlike.output with
      ⟨notices, writes, hLeft, hRight⟩
    exact
      ⟨notices ++ [notice], writes,
        Output.extend_notice hLeft notice,
        Output.extend_notice hRight notice⟩

theorem Alike.respond
    (bytes : List UInt8) :
    Alike config config' cols rows before before'
      (session.respond bytes) (session'.respond bytes) where
  left := hAlike.left.respond bytes
  right := hAlike.right.respond bytes
  core_eq := hAlike.core_eq
  output := by
    rcases hAlike.output with
      ⟨notices, writes, hLeft, hRight⟩
    exact
      ⟨notices, writes ++ [bytes],
        Output.extend_write hLeft bytes,
        Output.extend_write hRight bytes⟩

theorem Alike.goto
    {col row : Nat}
    (hCol : col < cols)
    (hRow : row < rows) :
    Alike config config' cols rows before before'
      (session.goto col row) (session'.goto col row) :=
  hAlike.step (hAlike.left.goto hCol hRow)
    (hAlike.right.goto hCol hRow)
    (hAlike.read (·.goto col row)) rfl rfl

/- A change of the cursor that depends on it alone. -/
theorem Alike.modifyCursor
    (change : Cursor → Cursor)
    (hCol : (change session.cursor).col < cols)
    (hRow : (change session.cursor).row < rows) :
    Alike config config' cols rows before before'
      (session.modifyCursor change)
      (session'.modifyCursor change) :=
  hAlike.step (hAlike.left.modifyCursor hCol hRow)
    (hAlike.right.modifyCursor (hAlike.cursor_eq ▸ hCol)
      (hAlike.cursor_eq ▸ hRow))
    (hAlike.read (·.modifyCursor change)) rfl rfl

theorem Alike.modifyModes
    (change : Modes → Modes) :
    Alike config config' cols rows before before'
      (session.modifyModes change)
      (session'.modifyModes change) :=
  hAlike.step (hAlike.left.modifyModes change)
    (hAlike.right.modifyModes change)
    (hAlike.read (·.modifyModes change)) rfl rfl

/- Selections are no part of what counts. -/
theorem Alike.dropSelectionIn
    (x₁ y₁ x₂ y₂ u₁ v₁ u₂ v₂ : Nat) :
    Alike config config' cols rows before before'
      (session.dropSelectionIn x₁ y₁ x₂ y₂)
      (session'.dropSelectionIn u₁ v₁ u₂ v₂) :=
  hAlike.step (hAlike.left.dropSelectionIn _ _ _ _)
    (hAlike.right.dropSelectionIn _ _ _ _) hAlike.core_eq rfl
    rfl

------------------------------------------------------------
-- Scrolling and Clearing
------------------------------------------------------------

/- Scrolling stays alike where it moves the same lines. -/
theorem Alike.scrollLines_of_bare_eq
    {origin count : Nat}
    {direction : ScrollDirection}
    {retain : Bool}
    (hBare :
      session.scrollCount origin count ≠ 0 →
        (session.scrolledGrid origin count direction
            retain).1.bare =
          (session'.scrolledGrid origin count direction
            retain).1.bare) :
    Alike config config' cols rows before before'
      (session.scrollLines origin count direction retain)
      (session'.scrollLines origin count direction
        retain) := by
  have hLeft :=
    hAlike.left.scrollLines origin count direction retain
  have hRight :=
    hAlike.right.scrollLines origin count direction retain
  have hCount :
      session.scrollCount origin count =
        session'.scrollCount origin count :=
    hAlike.read (·.scrollCount origin count)
  by_cases hNone : session.scrollCount origin count = 0
  · rw [scrollLines_of_eq_zero hNone,
      scrollLines_of_eq_zero (hCount ▸ hNone)]
    exact hAlike
  · have hNone' : session'.scrollCount origin count ≠ 0 :=
      hCount ▸ hNone
    have hScrolled :
        Alike config config' cols rows before before'
          (session.modifyActive fun _ =>
            (session.scrolledGrid origin count direction
              retain).1)
          (session'.modifyActive fun _ =>
            (session'.scrolledGrid origin count direction
              retain).1) :=
      hAlike.modifyActive
        (hAlike.left.modifyActive fun _ hActive =>
          hAlike.left.scrolledGrid hNone direction retain
            hActive)
        (hAlike.right.modifyActive fun _ hActive =>
          hAlike.right.scrolledGrid hNone' direction retain
            hActive)
        (hBare hNone)
    rw [scrollLines_of_ne_zero hNone] at hLeft ⊢
    rw [scrollLines_of_ne_zero hNone'] at hRight ⊢
    exact
      hScrolled.step hLeft hRight hScrolled.core_eq rfl rfl

theorem Alike.scrollLines
    (origin count : Nat)
    (direction : ScrollDirection)
    (retain : Bool)
    (hRetain : direction = .down → retain = false) :
    Alike config config' cols rows before before'
      (session.scrollLines origin count direction retain)
      (session'.scrollLines origin count direction
        retain) := by
  apply hAlike.scrollLines_of_bare_eq
  intro hSome
  have hCount :
      session.scrollCount origin count =
        session'.scrollCount origin count :=
    hAlike.read (·.scrollCount origin count)
  unfold scrolledGrid
  rw [← hCount, ← hAlike.regionBottom_eq,
    ← hAlike.blank_eq]
  exact
    bare_scrollRegion hAlike.left.active
      hAlike.right.active hAlike.bare_active_eq
      hAlike.left.region_lt (Nat.pos_of_ne_zero hSome)
      (add_scrollCount_le hSome) hRetain _

theorem Alike.clearRegion
    (x₁ y₁ x₂ y₂ : Nat) :
    Alike config config' cols rows before before'
      (session.clearRegion x₁ y₁ x₂ y₂)
      (session'.clearRegion x₁ y₁ x₂ y₂) := by
  have hBlank := hAlike.blank_eq
  have hCols :
      session.active.cols = session'.active.cols :=
    (Grid.bare_eq_iff.mp hAlike.bare_active_eq).1
  unfold Session.clearRegion
  apply
    (hAlike.dropSelectionIn _ _ _ _ _ _ _ _).modifyActive
  · exact hAlike.left.clearRegion x₁ y₁ x₂ y₂
  · exact hAlike.right.clearRegion x₁ y₁ x₂ y₂
  · have hEdits :=
      Grid.edits_eraseRect session.active x₁ y₁ x₂ y₂
        session.blank
    rw [hBlank, hCols] at hEdits
    rw [hBlank]
    exact
      hEdits.bare_eq hAlike.bare_active_eq
        (Grid.edits_eraseRect session'.active x₁ y₁ x₂ y₂
          session'.blank)

theorem Alike.clearScrollback :
    Alike config config' cols rows before before'
      session.clearScrollback session'.clearScrollback := by
  have hBare :
      ∀ grid : Grid,
        grid.clearScrollback.bare = grid.bare := by
    intro grid
    exact
      Grid.bare_eq_iff.mpr
        ⟨grid.cols_clearScrollback, grid.lines_clearScrollback⟩
  refine
    hAlike.step hAlike.left.clearScrollback
      hAlike.right.clearScrollback ?_ rfl rfl
  have hCore :
      ∀ other : Session,
        other.clearScrollback.core = other.core := by
    intro other
    have hPrimary := hBare other.primary
    unfold Session.clearScrollback core
    rw [hPrimary]
  rw [hCore, hCore, hAlike.core_eq]

------------------------------------------------------------
-- Cursor Positions
------------------------------------------------------------

theorem Alike.moveTo
    (col row : Nat) :
    Alike config config' cols rows before before'
      (session.moveTo col row) (session'.moveTo col row) := by
  refine
    hAlike.step (hAlike.left.moveTo col row)
      (hAlike.right.moveTo col row) ?_ rfl rfl
  rw [core_moveTo, core_moveTo, hAlike.core_eq]

theorem Alike.moveToOrigin
    (col row : Nat) :
    Alike config config' cols rows before before'
      (session.moveToOrigin col row)
      (session'.moveToOrigin col row) := by
  unfold Session.moveToOrigin
  rw [hAlike.modes_eq, hAlike.regionTop_eq]
  exact hAlike.moveTo _ _

theorem Alike.setScrollRegion
    (top bottom : Nat) :
    Alike config config' cols rows before before'
      (session.setScrollRegion top bottom)
      (session'.setScrollRegion top bottom) := by
  have hConfined :=
    hAlike.step (hAlike.left.confinedTo top bottom)
      (hAlike.right.confinedTo top bottom)
      (hAlike.read (·.confinedTo top bottom)) rfl rfl
  exact hConfined.moveToOrigin 0 0

------------------------------------------------------------
-- Lines
------------------------------------------------------------

theorem Alike.newLine
    (toFirstColumn : Bool) :
    Alike config config' cols rows before before'
      (session.newLine toFirstColumn)
      (session'.newLine toFirstColumn) := by
  have hRow := hAlike.left.cursor_row
  have hCol :
      (if toFirstColumn then 0 else session.cursor.col) <
        cols := by
    split
    · exact hAlike.left.cols_pos
    · exact hAlike.left.cursor_col
  unfold Session.newLine
  dsimp only
  rw [← hAlike.cursor_eq, ← hAlike.regionBottom_eq,
    ← hAlike.regionTop_eq, ← hAlike.rows_eq]
  split
  · exact
      (hAlike.scrollLines _ 1 .up true nofun).goto hCol hRow
  · split
    · rename_i hNext
      exact
        hAlike.goto hCol (hAlike.left.rows_eq ▸ hNext)
    · exact hAlike.goto hCol hRow

theorem Alike.reverseIndex :
    Alike config config' cols rows before before'
      session.reverseIndex session'.reverseIndex := by
  unfold Session.reverseIndex
  dsimp only
  rw [← hAlike.cursor_eq, ← hAlike.regionTop_eq]
  split
  · have hScrolled :=
      hAlike.scrollLines session.regionTop 1 .down false
        fun _ => rfl
    exact
      hScrolled.modifyCursor _ hScrolled.left.cursor_col
        hScrolled.left.cursor_row
  · exact
      hAlike.goto hAlike.left.cursor_col
        (Nat.lt_of_le_of_lt (Nat.sub_le _ _)
          hAlike.left.cursor_row)

theorem Alike.markWrapped :
    Alike config config' cols rows before before'
      session.markWrapped session'.markWrapped := by
  unfold Session.markWrapped
  apply hAlike.modifyActive
  · exact hAlike.left.markWrapped
  · exact hAlike.right.markWrapped
  · have hEdits := hAlike.right.edits_softWrapped
    rw [← hAlike.cursor_eq] at hEdits ⊢
    exact
      hAlike.left.edits_softWrapped.bare_eq
        hAlike.bare_active_eq hEdits

theorem Alike.softWrap :
    Alike config config' cols rows before before'
      session.softWrap session'.softWrap :=
  hAlike.markWrapped.newLine true

------------------------------------------------------------
-- Characters
------------------------------------------------------------

theorem Alike.wrapIfPending :
    Alike config config' cols rows before before'
      session.wrapIfPending session'.wrapIfPending := by
  unfold Session.wrapIfPending
  rw [hAlike.cursor_eq, hAlike.modes_eq]
  split
  · exact hAlike.softWrap
  · exact hAlike

theorem Alike.fit
    (wraps : Bool)
    {width : Nat}
    (hSome : 0 < width) :
    Alike config config' cols rows before before'
      (session.fit wraps width)
      (session'.fit wraps width) := by
  have hCols := hAlike.left.cols_pos
  have hWidth := hAlike.left.cols_eq
  unfold Session.fit
  rw [← hAlike.cols_eq, ← hAlike.cursor_eq]
  split
  · split
    · exact hAlike.softWrap
    · apply hAlike.modifyCursor
      · simp only
        omega
      · exact hAlike.left.cursor_row
  · exact hAlike

theorem Alike.makeRoom
    {width : Nat}
    (hSome : 0 < width) :
    Alike config config' cols rows before before'
      (session.makeRoom width) (session'.makeRoom width) := by
  rw [makeRoom_eq, makeRoom_eq, hAlike.modes_eq]
  exact hAlike.wrapIfPending.fit _ hSome

theorem Alike.advance
    (width : Nat) :
    Alike config config' cols rows before before'
      (session.advance width) (session'.advance width) :=
  hAlike.step (hAlike.left.advance width)
    (hAlike.right.advance width)
    (hAlike.read (·.advance width)) rfl rfl

theorem Alike.putAtCursor
    {width : Nat}
    (hSome : 0 < width)
    (hRoom : session.cursor.col + width ≤ cols)
    (c : Char) :
    Alike config config' cols rows before before'
      (session.putAtCursor width c)
      (session'.putAtCursor width c) := by
  have hRoom' : session'.cursor.col + width ≤ cols :=
    hAlike.cursor_eq ▸ hRoom
  have hLine :
      session.writtenLine width c =
        session'.writtenLine width c :=
    hAlike.read (·.writtenLine width c)
  have hEdits := hAlike.left.edits_putAtCursor hSome hRoom c
  have hEdits' :=
    hAlike.right.edits_putAtCursor hSome hRoom' c
  rw [hLine, hAlike.cursor_eq] at hEdits
  unfold Session.putAtCursor
  apply
    (hAlike.dropSelectionIn _ _ _ _ _ _ _ _).modifyActive
  · exact hAlike.left.putAtCursor hSome hRoom c
  · exact hAlike.right.putAtCursor hSome hRoom' c
  · rw [hAlike.cursor_eq]
    exact hEdits.bare_eq hAlike.bare_active_eq hEdits'

theorem Alike.notePrinted
    (c : Char) :
    Alike config config' cols rows before before'
      { session with lastPrinted := some c }
      { session' with lastPrinted := some c } :=
  hAlike.step { hAlike.left with } { hAlike.right with }
    (hAlike.read fun other =>
      { other with lastPrinted := some c })
    rfl rfl

theorem Alike.writeChar
    [TextLibrary]
    (c : Char) :
    Alike config config' cols rows before before'
      (session.writeChar c) (session'.writeChar c) := by
  have hCharsets :
      session.charsets = session'.charsets :=
    hAlike.read Session.charsets
  have hLeft := hAlike.left.writeChar c
  have hRight := hAlike.right.writeChar c
  unfold Session.writeChar at hLeft hRight ⊢
  rw [← hCharsets, ← hAlike.cols_eq] at hRight ⊢
  dsimp only at hLeft hRight ⊢
  split
  · exact hAlike
  · exact hAlike
  · rename_i width hZero hWidth
    split
    · exact hAlike
    · rename_i hFits
      have hSome : 0 < width := Nat.pos_of_ne_zero hZero
      have hLe : width ≤ cols := by
        rw [hAlike.left.cols_eq] at hFits
        exact Nat.le_of_not_lt hFits
      have hWritten :=
        (hAlike.makeRoom hSome).putAtCursor hSome
          (hAlike.left.col_makeRoom_add_le hLe)
          (session.charsets.substitute c)
      exact (hWritten.notePrinted _).advance width

theorem Alike.writeCharTimes
    [TextLibrary]
    (c : Char)
    (n : Nat) :
    Alike config config' cols rows before before'
      (session.writeCharTimes c n)
      (session'.writeCharTimes c n) := by
  induction n generalizing session session' with
  | zero => exact hAlike
  | succ n hRest => exact hRest (hAlike.writeChar c)

------------------------------------------------------------
-- Control Characters
------------------------------------------------------------

theorem Alike.tabForward
    (n : Nat) :
    Alike config config' cols rows before before'
      (session.tabForward n) (session'.tabForward n) :=
  hAlike.step (hAlike.left.tabForward n)
    (hAlike.right.tabForward n)
    (hAlike.read (·.tabForward n)) rfl rfl

theorem Alike.tabBackward
    (n : Nat) :
    Alike config config' cols rows before before'
      (session.tabBackward n) (session'.tabBackward n) :=
  hAlike.step (hAlike.left.tabBackward n)
    (hAlike.right.tabBackward n)
    (hAlike.read (·.tabBackward n)) rfl rfl

theorem Alike.setTabStop
    (on : Bool) :
    Alike config config' cols rows before before'
      (session.setTabStop on) (session'.setTabStop on) :=
  hAlike.step (hAlike.left.setTabStop on)
    (hAlike.right.setTabStop on)
    (hAlike.read (·.setTabStop on)) rfl rfl

theorem Alike.shiftCharset
    (slot : Nat) :
    Alike config config' cols rows before before'
      (session.shiftCharset slot)
      (session'.shiftCharset slot) :=
  hAlike.step (hAlike.left.shiftCharset slot)
    (hAlike.right.shiftCharset slot)
    (hAlike.read (·.shiftCharset slot)) rfl rfl

theorem Alike.cursorLeft
    (n : Nat) :
    Alike config config' cols rows before before'
      (session.modifyCursor (·.left n))
      (session'.modifyCursor (·.left n)) :=
  hAlike.step (hAlike.left.left n) (hAlike.right.left n)
    (hAlike.read (·.modifyCursor (·.left n))) rfl rfl

theorem Alike.showSubstitute :
    Alike config config' cols rows before before'
      session.showSubstitute session'.showSubstitute := by
  have hEdits' := hAlike.right.edits_showSubstitute
  rw [← hAlike.cursor_eq] at hEdits'
  unfold Session.showSubstitute
  apply hAlike.modifyActive
  · exact hAlike.left.showSubstitute
  · exact hAlike.right.showSubstitute
  · rw [← hAlike.cursor_eq]
    exact
      hAlike.left.edits_showSubstitute.bare_eq
        hAlike.bare_active_eq hEdits'

theorem Alike.reportAttributes :
    Alike config config' cols rows before before'
      session.reportAttributes session'.reportAttributes := by
  have hAnswer :
      session.config.answerback =
        session'.config.answerback :=
    hAlike.read (·.config.answerback)
  unfold Session.reportAttributes
  rw [hAnswer]
  exact hAlike.respond _

theorem Alike.execute
    (c : Char) :
    Alike config config' cols rows before before'
      (session.execute c) (session'.execute c) := by
  have hNewLine :
      session.modes.newLine = session'.modes.newLine :=
    hAlike.read (·.modes.newLine)
  unfold Session.execute
  rw [← hNewLine, ← hAlike.cursor_eq]
  split
  · exact hAlike.notify _
  · exact hAlike.cursorLeft 1
  · exact hAlike.tabForward 1
  · exact hAlike.newLine _
  · exact hAlike.newLine _
  · exact hAlike.newLine _
  · exact
      hAlike.goto hAlike.left.cols_pos
        hAlike.left.cursor_row
  · exact hAlike.shiftCharset 1
  · exact hAlike.shiftCharset 0
  · exact hAlike.showSubstitute
  · exact hAlike.newLine false
  · exact hAlike.newLine true
  · exact hAlike.setTabStop true
  · exact hAlike.reverseIndex
  · exact hAlike.reportAttributes
  · exact hAlike

------------------------------------------------------------
-- Screens
------------------------------------------------------------

theorem Alike.useAlternate :
    Alike config config' cols rows before before'
      session.useAlternate session'.useAlternate := by
  have hOutput :
      ∀ other : Session,
        other.useAlternate.output = other.output := by
    intro other
    unfold Session.useAlternate
    split
    · rfl
    · rfl
  refine
    hAlike.step hAlike.left.useAlternate
      hAlike.right.useAlternate ?_ (hOutput _) (hOutput _)
  rw [core_useAlternate, core_useAlternate, hAlike.core_eq]

theorem Alike.usePrimary :
    Alike config config' cols rows before before'
      session.usePrimary session'.usePrimary := by
  have hOutput :
      ∀ other : Session,
        other.usePrimary.output = other.output := by
    intro other
    unfold Session.usePrimary
    split
    · rfl
    · rfl
  refine
    hAlike.step hAlike.left.usePrimary
      hAlike.right.usePrimary ?_ (hOutput _) (hOutput _)
  rw [core_usePrimary, core_usePrimary, hAlike.core_eq]

theorem Alike.saveCursor :
    Alike config config' cols rows before before'
      session.saveCursor session'.saveCursor := by
  have hOutput :
      ∀ other : Session,
        other.saveCursor.output = other.output := by
    intro other
    unfold Session.saveCursor
    split
    · rfl
    · rfl
  refine
    hAlike.step hAlike.left.saveCursor
      hAlike.right.saveCursor ?_ (hOutput _) (hOutput _)
  rw [core_saveCursor, core_saveCursor, hAlike.core_eq]

theorem Alike.restoreCursor :
    Alike config config' cols rows before before'
      session.restoreCursor session'.restoreCursor := by
  have hSaved :
      session.saved.getD session.unsaved =
        session'.saved.getD session'.unsaved :=
    hAlike.read fun other => other.saved.getD other.unsaved
  unfold Session.restoreCursor
  rw [← hSaved]
  apply Alike.moveTo
  exact
    hAlike.step { hAlike.left with } { hAlike.right with }
      (hAlike.read fun other =>
        let saved := session.saved.getD session.unsaved
        { other with
          cursor := { other.cursor with pen := saved.pen }
          charsets := saved.charsets
          modes :=
            { other.modes with origin := saved.origin } })
      rfl rfl

theorem Alike.reset :
    Alike config config' cols rows before before'
      session.reset session'.reset := by
  refine
    hAlike.step hAlike.left.reset hAlike.right.reset ?_ rfl
      rfl
  rw [core_reset session, core_reset session',
    hAlike.core_eq]

theorem Alike.resizeTo
    {cols' rows' : Nat}
    (hCols : 0 < cols')
    (hRows : 0 < rows') :
    Alike config config' cols' rows' before before'
      (session.resizeTo cols' rows')
      (session'.resizeTo cols' rows') := by
  have hLeft := hAlike.left.resizeTo hCols hRows
  have hRight := hAlike.right.resizeTo hCols hRows
  have hCore :
      (session.resizeTo cols' rows').core =
        (session'.resizeTo cols' rows').core := by
    rw [core_resizeTo session, core_resizeTo session',
      hAlike.core_eq]
  rw [resizeTo_eq] at hLeft hRight hCore ⊢
  rw [resizeTo_eq] at hCore ⊢
  apply Alike.notify
  exact
    { left := { hLeft with }
      right := { hRight with }
      core_eq := hCore
      output := hAlike.output }

------------------------------------------------------------
-- Modes
------------------------------------------------------------

theorem Alike.setReverseVideo
    (on : Bool) :
    Alike config config' cols rows before before'
      (session.setReverseVideo on)
      (session'.setReverseVideo on) := by
  unfold Session.setReverseVideo
  rw [← hAlike.modes_eq]
  split
  · exact hAlike
  · have hChanged :=
      hAlike.modifyModes ({ · with reverseVideo := on })
    apply hChanged.modifyActive
    · exact
        hChanged.left.modifyActive fun _ hActive =>
          hActive.markAllDirty
    · exact
        hChanged.right.modifyActive fun _ hActive =>
          hActive.markAllDirty
    · exact hChanged.bare_active_eq

theorem Alike.setAlternate
    (on : Bool) :
    Alike config config' cols rows before before'
      (session.setAlternate on)
      (session'.setAlternate on) := by
  unfold Session.setAlternate
  split
  · exact hAlike.useAlternate
  · exact hAlike.usePrimary

theorem Alike.setAlternateWithCursor
    (on : Bool) :
    Alike config config' cols rows before before'
      (session.setAlternateWithCursor on)
      (session'.setAlternateWithCursor on) := by
  unfold Session.setAlternateWithCursor
  rw [← hAlike.screen_eq]
  split
  · exact hAlike.saveCursor.useAlternate
  · exact hAlike.usePrimary.restoreCursor
  · exact hAlike

theorem Alike.setMouseMode
    (mode : MouseMode)
    (on : Bool) :
    Alike config config' cols rows before before'
      (session.setMouseMode mode on)
      (session'.setMouseMode mode on) :=
  hAlike.step { hAlike.left with } { hAlike.right with }
    (hAlike.read (·.setMouseMode mode on)) rfl rfl

theorem Alike.setPrivateMode?
    (mode : Nat)
    (on : Bool) :
    Option.Rel
      (Alike config config' cols rows before before')
      (session.setPrivateMode? mode on)
      (session'.setPrivateMode? mode on) := by
  unfold Session.setPrivateMode?
  split
  · exact .some (hAlike.modifyModes _)
  · exact .some (hAlike.setReverseVideo on)
  · exact .some ((hAlike.modifyModes _).moveToOrigin 0 0)
  · exact .some (hAlike.modifyModes _)
  · exact .some (hAlike.setMouseMode _ on)
  · exact
      .some
        (hAlike.modifyCursor _ hAlike.left.cursor_col
          hAlike.left.cursor_row)
  · exact .some (hAlike.setAlternate on)
  · exact .some (hAlike.setAlternate on)
  · exact .some (hAlike.setMouseMode _ on)
  · exact .some (hAlike.setMouseMode _ on)
  · exact .some (hAlike.setMouseMode _ on)
  · exact .some (hAlike.modifyModes _)
  · exact
      .some
        (hAlike.step { hAlike.left with }
          { hAlike.right with }
          (hAlike.read fun other =>
            { other with
              mouseEncoding := if on then .sgr else .legacy })
          rfl rfl)
  · cases on with
    | true => exact .some hAlike.saveCursor
    | false => exact .some hAlike.restoreCursor
  · exact .some (hAlike.setAlternateWithCursor on)
  · exact .some (hAlike.modifyModes _)
  · exact .none

theorem Alike.setAnsiMode?
    (mode : Nat)
    (on : Bool) :
    Option.Rel
      (Alike config config' cols rows before before')
      (session.setAnsiMode? mode on)
      (session'.setAnsiMode? mode on) := by
  unfold Session.setAnsiMode?
  split
  · exact .some (hAlike.modifyModes _)
  · exact .some (hAlike.modifyModes _)
  · exact .none

theorem Alike.setMode
    (isPrivate on : Bool)
    (mode : Nat) :
    Alike config config' cols rows before before'
      (session.setMode isPrivate on mode)
      (session'.setMode isPrivate on mode) := by
  have hChanged :
      Option.Rel
        (Alike config config' cols rows before before')
        (if isPrivate then
          session.setPrivateMode? mode on
        else
          session.setAnsiMode? mode on)
        (if isPrivate then
          session'.setPrivateMode? mode on
        else
          session'.setAnsiMode? mode on) := by
    split
    · exact hAlike.setPrivateMode? mode on
    · exact hAlike.setAnsiMode? mode on
  unfold Session.setMode
  dsimp only
  generalize
    (if isPrivate then
      session.setPrivateMode? mode on
    else
      session.setAnsiMode? mode on) = changed,
    (if isPrivate then
      session'.setPrivateMode? mode on
    else
      session'.setAnsiMode? mode on) = changed'
    at hChanged ⊢
  cases hChanged with
  | none => exact hAlike
  | some hChanged => exact hChanged.notify _

theorem Alike.setModes
    (isPrivate on : Bool)
    (params : Parameters) :
    Alike config config' cols rows before before'
      (session.setModes isPrivate on params)
      (session'.setModes isPrivate on params) := by
  unfold Session.setModes
  induction params.items.filterMap Parameter.value
    generalizing session session' with
  | nil => exact hAlike
  | cons mode modes hRest =>
      exact hRest (hAlike.setMode isPrivate on mode)

------------------------------------------------------------
-- Control Sequences
------------------------------------------------------------

theorem Alike.cursorUp
    (n : Nat) :
    Alike config config' cols rows before before'
      (session.cursorUp n) (session'.cursorUp n) :=
  hAlike.step (hAlike.left.cursorUp n)
    (hAlike.right.cursorUp n) (hAlike.read (·.cursorUp n))
    rfl rfl

theorem Alike.cursorDown
    (n : Nat) :
    Alike config config' cols rows before before'
      (session.cursorDown n) (session'.cursorDown n) :=
  hAlike.step (hAlike.left.cursorDown n)
    (hAlike.right.cursorDown n)
    (hAlike.read (·.cursorDown n)) rfl rfl

theorem Alike.toFirstColumn :
    Alike config config' cols rows before before'
      session.toFirstColumn session'.toFirstColumn :=
  hAlike.step hAlike.left.toFirstColumn
    hAlike.right.toFirstColumn
    (hAlike.read Session.toFirstColumn) rfl rfl

theorem Alike.clearTabStops
    (param : Nat) :
    Alike config config' cols rows before before'
      (session.clearTabStops param)
      (session'.clearTabStops param) := by
  have hLeft := hAlike.left.clearTabStops param
  have hRight := hAlike.right.clearTabStops param
  unfold Session.clearTabStops at hLeft hRight ⊢
  split
  · exact hAlike.setTabStop false
  · exact
      hAlike.step hLeft hRight
        (hAlike.read fun other =>
          { other with
            tabStops :=
              List.replicate other.tabStops.length false })
        rfl rfl
  · exact hAlike

theorem Alike.setCursorStyle
    (param : Nat) :
    Alike config config' cols rows before before'
      (session.setCursorStyle param)
      (session'.setCursorStyle param) := by
  have hStyle :
      session.config.cursorStyle =
        session'.config.cursorStyle :=
    hAlike.read (·.config.cursorStyle)
  unfold Session.setCursorStyle
  rw [← hStyle]
  split
  · exact hAlike
  · exact
      hAlike.modifyCursor _ hAlike.left.cursor_col
        hAlike.left.cursor_row

theorem Alike.eraseDisplay
    (param : Nat) :
    Alike config config' cols rows before before'
      (session.eraseDisplay param)
      (session'.eraseDisplay param) := by
  unfold Session.eraseDisplay
  dsimp only
  rw [← hAlike.cursor_eq, ← hAlike.cols_eq,
    ← hAlike.rows_eq]
  split
  · split
    · exact (hAlike.clearRegion _ _ _ _).clearRegion _ _ _ _
    · exact hAlike.clearRegion _ _ _ _
  · apply Alike.clearRegion
    split
    · exact hAlike.clearRegion _ _ _ _
    · exact hAlike
  · exact hAlike.clearRegion _ _ _ _
  · exact hAlike.clearScrollback
  · exact hAlike

theorem Alike.eraseLine
    (param : Nat) :
    Alike config config' cols rows before before'
      (session.eraseLine param)
      (session'.eraseLine param) := by
  unfold Session.eraseLine
  dsimp only
  rw [← hAlike.cursor_eq, ← hAlike.cols_eq]
  split
  · exact hAlike.clearRegion _ _ _ _
  · exact hAlike.clearRegion _ _ _ _
  · exact hAlike.clearRegion _ _ _ _
  · exact hAlike

theorem Alike.eraseChars
    (n : Nat) :
    Alike config config' cols rows before before'
      (session.eraseChars n) (session'.eraseChars n) := by
  unfold Session.eraseChars
  dsimp only
  rw [← hAlike.cursor_eq, ← hAlike.cols_eq]
  exact hAlike.clearRegion _ _ _ _

theorem Alike.scrollFromCursor
    (n : Nat)
    (direction : ScrollDirection) :
    Alike config config' cols rows before before'
      (session.scrollFromCursor n direction)
      (session'.scrollFromCursor n direction) := by
  unfold Session.scrollFromCursor
  dsimp only
  rw [← hAlike.cursor_eq, ← hAlike.regionTop_eq,
    ← hAlike.regionBottom_eq]
  split
  · exact hAlike.scrollLines _ n direction false fun _ => rfl
  · exact hAlike

theorem Alike.insertChars
    (n : Nat) :
    Alike config config' cols rows before before'
      (session.insertChars n) (session'.insertChars n) := by
  have hEdits' := hAlike.right.edits_insertChars n
  rw [← hAlike.cursor_eq, ← hAlike.blank_eq] at hEdits'
  unfold Session.insertChars Session.editLine
  apply
    (hAlike.dropSelectionIn _ _ _ _ _ _ _ _).modifyActive
  · exact hAlike.left.insertChars n
  · exact hAlike.right.insertChars n
  · rw [← hAlike.cursor_eq, ← hAlike.blank_eq]
    exact
      (hAlike.left.edits_insertChars n).bare_eq
        hAlike.bare_active_eq hEdits'

theorem Alike.deleteChars
    (n : Nat) :
    Alike config config' cols rows before before'
      (session.deleteChars n) (session'.deleteChars n) := by
  have hEdits' := hAlike.right.edits_deleteChars n
  rw [← hAlike.cursor_eq, ← hAlike.blank_eq] at hEdits'
  unfold Session.deleteChars Session.editLine
  apply
    (hAlike.dropSelectionIn _ _ _ _ _ _ _ _).modifyActive
  · exact hAlike.left.deleteChars n
  · exact hAlike.right.deleteChars n
  · rw [← hAlike.cursor_eq, ← hAlike.blank_eq]
    exact
      (hAlike.left.edits_deleteChars n).bare_eq
        hAlike.bare_active_eq hEdits'

theorem Alike.repeatLast
    [TextLibrary]
    (n : Nat) :
    Alike config config' cols rows before before'
      (session.repeatLast n) (session'.repeatLast n) := by
  have hLast :
      session.lastPrinted = session'.lastPrinted :=
    hAlike.read Session.lastPrinted
  unfold Session.repeatLast
  rw [← hLast]
  split
  · exact hAlike
  · exact hAlike.writeCharTimes _ n

theorem Alike.reportStatus
    (param : Nat) :
    Alike config config' cols rows before before'
      (session.reportStatus param)
      (session'.reportStatus param) := by
  unfold Session.reportStatus
  dsimp only
  rw [← hAlike.cursor_eq, ← hAlike.modes_eq,
    ← hAlike.regionTop_eq]
  split
  · exact hAlike.respond _
  · exact hAlike.respond _
  · exact hAlike

theorem Alike.reportIfZero
    (param : Nat)
    {report : Session → Session}
    (hReport :
      Alike config config' cols rows before before'
        (report session) (report session')) :
    Alike config config' cols rows before before'
      (session.reportIfZero param report)
      (session'.reportIfZero param report) := by
  unfold Session.reportIfZero
  split
  · exact hReport
  · exact hAlike

theorem Alike.setRegionByParams
    (params : Parameters) :
    Alike config config' cols rows before before'
      (session.setRegionByParams params)
      (session'.setRegionByParams params) := by
  unfold Session.setRegionByParams
  rw [← hAlike.rows_eq]
  exact hAlike.setScrollRegion _ _

theorem Alike.selectRendition
    (params : Parameters) :
    Alike config config' cols rows before before'
      (session.modifyCursor fun cursor =>
        { cursor with
          pen := cursor.pen.select session.config params })
      (session'.modifyCursor fun cursor =>
        { cursor with
          pen :=
            cursor.pen.select session'.config params }) :=
  hAlike.step
    (hAlike.left.modifyCursor hAlike.left.cursor_col
      hAlike.left.cursor_row)
    (hAlike.right.modifyCursor hAlike.right.cursor_col
      hAlike.right.cursor_row)
    (by
      rw [core_selectRendition, core_selectRendition,
        hAlike.core_eq])
    rfl rfl

theorem Alike.perform
    [TextLibrary]
    (action : Action)
    (params : Parameters) :
    Alike config config' cols rows before before'
      (session.perform action params)
      (session'.perform action params) := by
  have hRow := hAlike.left.cursor_row
  unfold Session.perform
  dsimp only
  rw [← hAlike.cursor_eq, ← hAlike.cols_eq,
    ← hAlike.regionTop_eq]
  cases action with
  | insertChars => exact hAlike.insertChars _
  | cursorUp => exact hAlike.cursorUp _
  | cursorDown => exact hAlike.cursorDown _
  | cursorForward =>
      exact
        hAlike.modifyCursor _ (hAlike.left.min_lt_cols _) hRow
  | cursorBack => exact hAlike.cursorLeft _
  | cursorNextLine =>
      exact (hAlike.cursorDown _).toFirstColumn
  | cursorPrevLine => exact (hAlike.cursorUp _).toFirstColumn
  | cursorColumn =>
      exact hAlike.goto (hAlike.left.min_lt_cols _) hRow
  | cursorPosition => exact hAlike.moveToOrigin _ _
  | tabForward => exact hAlike.tabForward _
  | eraseDisplay => exact hAlike.eraseDisplay _
  | eraseLine => exact hAlike.eraseLine _
  | insertLines => exact hAlike.scrollFromCursor _ _
  | deleteLines => exact hAlike.scrollFromCursor _ _
  | deleteChars => exact hAlike.deleteChars _
  | scrollUp =>
      exact hAlike.scrollLines _ _ _ _ fun _ => rfl
  | scrollDown =>
      exact hAlike.scrollLines _ _ _ _ fun _ => rfl
  | eraseChars => exact hAlike.eraseChars _
  | tabBackward => exact hAlike.tabBackward _
  | repeatChar => exact hAlike.repeatLast _
  | deviceAttributes =>
      exact hAlike.reportIfZero _ hAlike.reportAttributes
  | secondaryDeviceAttributes =>
      exact hAlike.reportIfZero _ (hAlike.respond _)
  | linePosition => exact hAlike.moveToOrigin _ _
  | tabClear => exact hAlike.clearTabStops _
  | setMode => exact hAlike.setModes _ _ _
  | resetMode => exact hAlike.setModes _ _ _
  | setPrivateMode => exact hAlike.setModes _ _ _
  | resetPrivateMode => exact hAlike.setModes _ _ _
  | selectRendition => exact hAlike.selectRendition params
  | deviceStatus => exact hAlike.reportStatus _
  | setScrollRegion => exact hAlike.setRegionByParams params
  | saveCursor => exact hAlike.saveCursor
  | restoreCursor => exact hAlike.restoreCursor
  | setCursorStyle => exact hAlike.setCursorStyle _

------------------------------------------------------------
-- Escape Sequences and Strings
------------------------------------------------------------

theorem Alike.aligned :
    Alike config config' cols rows before before'
      session.aligned session'.aligned := by
  have hBlank :
      session.config.blank = session'.config.blank :=
    hAlike.read (·.config.blank)
  have hFilled :
      Alike config config' cols rows before before'
        (session.modifyActive
          (·.fillWith 'E' session.config.blank))
        (session'.modifyActive
          (·.fillWith 'E' session'.config.blank)) := by
    apply hAlike.modifyActive
    · exact hAlike.left.filled
    · exact hAlike.right.filled
    · rw [hBlank]
      exact
        (Grid.edits_clear _ _).bare_eq hAlike.bare_active_eq
          (Grid.edits_clear _ _)
  have hLeft := hAlike.left.aligned
  have hRight := hAlike.right.aligned
  unfold Session.aligned at hLeft hRight ⊢
  rw [← hAlike.rows_eq, ← hAlike.modes_eq] at hRight ⊢
  exact
    hFilled.step hLeft hRight
      (hFilled.read fun other =>
        { other with
          selection := none
          regionTop := 0
          regionBottom := session.rows - 1
          modes := { session.modes with origin := false } })
      rfl rfl

theorem Alike.alignmentTest :
    Alike config config' cols rows before before'
      session.alignmentTest session'.alignmentTest :=
  hAlike.aligned.moveTo 0 0

theorem Alike.performEscape
    (intermediate : Option Char)
    (final : Char) :
    Alike config config' cols rows before before'
      (session.performEscape intermediate final)
      (session'.performEscape intermediate final) := by
  unfold Session.performEscape
  split
  · unfold performPlainEscape
    split
    · exact hAlike.saveCursor
    · exact hAlike.restoreCursor
    · exact hAlike.newLine false
    · exact hAlike.newLine true
    · exact hAlike.setTabStop true
    · exact hAlike.reverseIndex
    · exact hAlike.reportAttributes
    · exact hAlike.reset
    · exact hAlike.modifyModes _
    · exact hAlike.modifyModes _
    · exact hAlike.shiftCharset 2
    · exact hAlike.shiftCharset 3
    · exact hAlike
  · split
    · exact hAlike.alignmentTest
    · exact hAlike
  · split
    · exact hAlike
    · unfold designate
      split
      · exact hAlike
      · rename_i slot _ _ charset _
        exact
          hAlike.step { hAlike.left with }
            { hAlike.right with }
            (hAlike.read fun other =>
              { other with
                charsets :=
                  other.charsets.designate slot charset })
            rfl rfl

/- Titles are no part of what counts. -/
theorem Alike.setTitle
    (title : String) :
    Alike config config' cols rows before before'
      (session.setTitle title) (session'.setTitle title) := by
  have hTitled :
      Alike config config' cols rows before before'
        { session with title := title }
        { session' with title := title } :=
    hAlike.step { hAlike.left with } { hAlike.right with }
      hAlike.core_eq rfl rfl
  exact hTitled.notify _

theorem Alike.setIconName
    (iconName : String) :
    Alike config config' cols rows before before'
      { session with iconName := iconName }
      { session' with iconName := iconName } :=
  hAlike.step { hAlike.left with } { hAlike.right with }
    hAlike.core_eq rfl rfl

section

variable [TextLibrary]

theorem Alike.setClipboard
    (args : List Char) :
    Alike config config' cols rows before before'
      (session.setClipboard args)
      (session'.setClipboard args) := by
  unfold Session.setClipboard
  split
  · exact hAlike
  · dsimp only
    split
    · exact hAlike
    · split
      · exact hAlike
      · exact hAlike.notify _

theorem Alike.performCommand
    (payload : String) :
    Alike config config' cols rows before before'
      (session.performCommand payload)
      (session'.performCommand payload) := by
  unfold Session.performCommand
  split
  · exact (hAlike.setIconName _).setTitle _
  · exact hAlike.setIconName _
  · exact hAlike.setTitle _
  · exact hAlike.setClipboard _
  · exact hAlike

/- Whatever the application sends, the two stay alike. -/
theorem Alike.handle
    (event : Event) :
    Alike config config' cols rows before before'
      (session.handle event) (session'.handle event) := by
  unfold Session.handle
  cases event with
  | print c => exact hAlike.writeChar c
  | execute c => exact hAlike.execute c
  | escape intermediate final =>
      exact hAlike.performEscape intermediate final
  | sequence action params =>
      exact hAlike.perform action params
  | string kind payload =>
      dsimp only
      unfold Session.performString
      split
      · exact hAlike.performCommand payload
      · exact hAlike.setTitle payload
      · exact hAlike
      · exact hAlike
      · exact hAlike

end

------------------------------------------------------------
-- On Behalf of the User
------------------------------------------------------------

theorem Alike.paste
    (text : String) :
    Alike config config' cols rows before before'
      (session.paste text) (session'.paste text) := by
  have hView :
      Alike config config' cols rows before before'
        (session.modifyActive Grid.resetView)
        (session'.modifyActive Grid.resetView) := by
    apply hAlike.modifyActive
    · exact
        hAlike.left.modifyActive fun _ hActive =>
          hActive.setViewOffset 0
    · exact
        hAlike.right.modifyActive fun _ hActive =>
          hActive.setViewOffset 0
    · unfold Grid.resetView
      rw [Grid.bare_setViewOffset, Grid.bare_setViewOffset]
      exact hAlike.bare_active_eq
  unfold Session.paste
  rw [hAlike.modes_eq]
  exact hView.respond _

theorem Alike.reportFocus
    (focused : Bool) :
    Alike config config' cols rows before before'
      (session.reportFocus focused)
      (session'.reportFocus focused) := by
  unfold Session.reportFocus
  rw [hAlike.modes_eq]
  split
  · exact hAlike.respond _
  · exact hAlike

theorem Alike.setTracker
    (tracker : MouseTracker) :
    Alike config config' cols rows before before'
      { session with mouseTracker := tracker }
      { session' with mouseTracker := tracker } :=
  hAlike.step { hAlike.left with } { hAlike.right with }
    (hAlike.read fun other =>
      { other with mouseTracker := tracker })
    rfl rfl

/- What is reported is written by both or by none. -/
theorem Alike.reportMouse
    (event : MouseEvent) :
    Alike config config' cols rows before before'
        (session.reportMouse event).1
        (session'.reportMouse event).1 ∧
      (session.reportMouse event).2 =
        (session'.reportMouse event).2 := by
  have hReport :
      session.mouseTracker.report session.mouseMode
          session.mouseEncoding event =
        session'.mouseTracker.report session'.mouseMode
          session'.mouseEncoding event :=
    hAlike.read fun other =>
      other.mouseTracker.report other.mouseMode
        other.mouseEncoding event
  unfold Session.reportMouse
  rw [← hReport]
  dsimp only
  split
  · exact ⟨hAlike.setTracker _, rfl⟩
  · exact ⟨(hAlike.setTracker _).respond _, rfl⟩

end

end Session

end VideoTerminal
