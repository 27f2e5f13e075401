import VideoTerminal.Yaml.Scalar

/-
  This file defines the block scalars of YAML, which are the
  indented lines below a header.

  The header names the style, and may tell what becomes of the
  line breaks at the end and how far the lines are indented.
  A literal scalar keeps its line breaks.  A folded one makes
  a space of a single line feed between two lines that do not
  start with white space.

  Key definitions include:
    * `Yaml.Chomp`
    * `Yaml.BlockHeader`
    * `Yaml.blockHeader?`
    * `Yaml.BlockText`
    * `Yaml.blockScalar?`
-/

namespace VideoTerminal

namespace Yaml

------------------------------------------------------------
-- Headers
------------------------------------------------------------

/- What becomes of the line breaks that end a scalar. -/
inductive Chomp where
  | strip
  | clip
  | keep
  deriving DecidableEq, Repr

/- What the header of a block scalar tells. -/
structure BlockHeader where
  folds : Bool
  chomp : Chomp
  indent : Option Nat
  deriving DecidableEq, Repr

/- The chomping at a reader, and the reader after it. -/
def takeChomp
    (reader : Reader) : Option Chomp × Reader :=
  match reader.rest with
  | '-' :: _ => (some .strip, reader.next)
  | '+' :: _ => (some .keep, reader.next)
  | _ => (none, reader)

/- The digit at a reader, and the reader after it. -/
def takeDigit
    (reader : Reader) : Option Nat × Reader :=
  match reader.rest.head?.bind (digit? 10) with
  | some n => (some n, reader.next)
  | none => (none, reader)

/-
  Read the header of a block scalar, and the rest of its line.
  The chomping and the indentation, which is not zero, come in
  either order.
-/
def blockHeader?
    (folds : Bool)
    (reader : Reader) : Option (BlockHeader × Reader) :=
  let (first, reader) := takeChomp reader
  let (indent, reader) := takeDigit reader
  let (chomp, reader) :=
    if first.isSome then
      (first, reader)
    else
      takeChomp reader
  if indent = some 0 then
    none
  else
    reader.endLine?.map fun reader =>
      (⟨folds, chomp.getD .clip, indent⟩, reader)

------------------------------------------------------------
-- Text
------------------------------------------------------------

/-
  The lines of a block scalar so far, from right to left.
  `lineEnd` is the break after the last of them, and `others`
  holds those of empty lines, from the last to the first.
-/
structure BlockText where
  text : List Char
  startsBlank : Bool
  lineEnd : Option Char
  others : List Char
  deriving DecidableEq, Repr

namespace BlockText

/- No line but empty ones. -/
def ofBreaks
    (others : List Char) : BlockText :=
  ⟨[], false, none, others⟩

/-
  What stands between the last line and the next, from right
  to left.
-/
def separator
    (block : BlockText)
    (folds : Bool)
    (line : List Char) : List Char :=
  if folds ∧ block.lineEnd = some '\n' ∧
      ¬block.startsBlank ∧ ¬Yaml.startsBlank line then
    if block.others.isEmpty then [' '] else block.others
  else
    block.others ++ block.lineEnd.toList

/- Add a line, and the line breaks that follow it. -/
def push
    (block : BlockText)
    (folds : Bool)
    (line : List Char)
    (lineEnd : Option Char)
    (others : List Char) : BlockText :=
  ⟨line.reverse ++ (block.separator folds line ++ block.text),
    Yaml.startsBlank line, lineEnd, others⟩

/- The whole text, from left to right. -/
def finish
    (block : BlockText)
    (chomp : Chomp) : List Char :=
  match chomp with
  | .strip => block.text.reverse
  | .clip => block.text.reverse ++ block.lineEnd.toList
  | .keep =>
    block.text.reverse ++
      (block.lineEnd.toList ++ block.others.reverse)

end BlockText

------------------------------------------------------------
-- Lines
------------------------------------------------------------

/-
  The start of a line that is not empty: the widest of the
  indentations up to there, the breaks of the empty lines from
  the last to the first, and the reader.
-/
structure LineStart where
  widest : Nat
  breaks : List Char
  reader : Reader
  deriving Repr

/-
  Skip empty lines, and the indentation of the next line as
  far as it is not text.  All spaces are indentation as long
  as its width is not known.  Tabs are refused there.
-/
def lineStart?
    (indent : Option Nat)
    (widest : Nat)
    (breaks : List Char)
    (position : Position) :
    List Char → Option LineStart
  | [] =>
    some ⟨max widest position.column, breaks, [], position⟩
  | c :: rest =>
    let column := position.column
    if isBreak c then
      lineStart? indent (max widest column) (c :: breaks)
        (position.after c) rest
    else if isBlank c ∧ indent.all (column < ·) then
      if c = ' ' then
        lineStart? indent widest breaks (position.after c)
          rest
      else
        none
    else
      some ⟨max widest column, breaks, c :: rest, position⟩

/- Skipping leaves no more text than there was. -/
theorem length_le_of_lineStart?_eq_some
    {indent : Option Nat}
    {widest : Nat}
    {breaks : List Char}
    {position : Position}
    {chars : List Char}
    {start : LineStart}
    (h : lineStart? indent widest breaks position chars =
      some start) :
    start.reader.rest.length ≤ chars.length := by
  induction chars generalizing widest breaks position with
  | nil =>
    simp only [lineStart?, Option.some.injEq] at h
    subst h
    simp
  | cons c rest ih =>
    simp only [lineStart?] at h
    split at h
    · have hRest := ih h
      simp only [List.length_cons]
      omega
    · split at h
      · split at h
        · have hRest := ih h
          simp only [List.length_cons]
          omega
        · simp at h
      · simp only [Option.some.injEq] at h
        subst h
        simp

/- Read the lines that start in the column `indent`. -/
def blockLines?
    (folds : Bool)
    (indent : Nat)
    (block : BlockText)
    (reader : Reader) : Option (BlockText × Reader) :=
  if reader.column ≠ indent then
    some (block, reader)
  else
    match _ : reader.rest with
    | [] => some (block, reader)
    | _ :: _ =>
      let line := reader.rest.takeWhile (!isBreak ·)
      let stop := reader.advance line.length
      match stop.rest with
      | [] => some (block.push folds line none [], stop)
      | c :: _ =>
        let after := stop.next
        match _ : lineStart? (some indent) 0 []
            after.position after.rest with
        | none => none
        | some start =>
          blockLines? folds indent
            (block.push folds line (some c) start.breaks)
            start.reader
termination_by reader.rest.length
decreasing_by
  have hLength :=
    length_le_of_lineStart?_eq_some (by assumption)
  have hNext : after.rest.length =
      reader.rest.length - line.length - 1 := by
    rw [Reader.length_rest_next, Reader.length_rest_advance]
  have hCons := congrArg List.length ‹reader.rest = _ :: _›
  simp only [List.length_cons] at hCons
  omega

/-
  Read a block scalar, the reader being after the indicator of
  its style.  Its lines are indented by `indent` columns or
  more, and by one at least.  Where the header does not tell
  how far, the first line that is not empty does.
-/
def blockScalar?
    (folds : Bool)
    (indent : Nat)
    (reader : Reader) : Option Scanned := do
  let (header, reader) ← blockHeader? folds reader
  let told := header.indent.map (indent - 1 + ·)
  let start ←
    lineStart? told 0 [] reader.position reader.rest
  let width :=
    told.getD (max start.widest (max indent 1))
  let (block, reader) ←
    blockLines? folds width (.ofBreaks start.breaks)
      start.reader
  return ⟨⟨block.finish header.chomp,
    if folds then .folded else .literal⟩, reader, true⟩

end Yaml

end VideoTerminal
