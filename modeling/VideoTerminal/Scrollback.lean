import VideoTerminal.Line

/-
  This file defines the history of lines that have left the
  top of a screen, kept in a ring of bounded capacity.

  The ring grows until it holds as many slots as its capacity.
  From then on a new line takes the slot of the oldest one,
  and the line it displaces is handed back to be used again.

  Key definitions include:
    * `Scrollback`
    * `Scrollback.slot`
    * `Scrollback.get?`
    * `Scrollback.push`
    * `Scrollback.pop?`
    * `Scrollback.toList`
    * `Scrollback.pushAll`
    * `Scrollback.popInto`
-/

namespace VideoTerminal

------------------------------------------------------------
-- The Ring
------------------------------------------------------------

/-
  A ring of lines.  `head` counts the lines pushed less the
  lines popped, and `size` the lines retained.
-/
structure Scrollback where
  slots : Array Line
  capacity : Nat
  head : Nat
  size : Nat
  deriving DecidableEq, Repr

namespace Scrollback

/- A ring without lines. -/
def empty
    (capacity : Nat) : Scrollback :=
  ⟨#[], capacity, 0, 0⟩

/- The ring retains no line. -/
def isEmpty
    (ring : Scrollback) : Bool :=
  ring.size == 0

/- The slot of the line that is `age` steps from the newest. -/
def slot
    (ring : Scrollback)
    (age : Nat) : Nat :=
  (ring.head - 1 - age) % ring.capacity

/- The line that is `age` steps from the newest. -/
def get?
    (ring : Scrollback)
    (age : Nat) : Option Line :=
  if age < ring.size then
    ring.slots[ring.slot age]?
  else
    none

/- The lines from the oldest to the newest. -/
def toList
    (ring : Scrollback) : List Line :=
  (List.range ring.size).reverse.filterMap ring.get?

------------------------------------------------------------
-- Adding and Removing Lines
------------------------------------------------------------

/-
  Retain a line as the newest, and give a blank line for it in
  return.
-/
def push
    (ring : Scrollback)
    (line : Line)
    (blank : Cell) : Scrollback × Line :=
  if ring.capacity = 0 then
    (ring, line.fill blank)
  else if ring.slots.size < ring.capacity then
    ({ ring with
        slots := ring.slots.push line
        head := ring.head + 1
        size := min (ring.size + 1) ring.capacity },
      line.fill blank)
  else
    let slot := ring.head % ring.capacity
    ({ ring with
        slots := ring.slots.setIfInBounds slot line
        head := ring.head + 1
        size := min (ring.size + 1) ring.capacity },
      (ring.slots[slot]?.getD line).fill blank)

/-
  Take out the newest line.  While the ring grows, that is the
  last of its slots.  A ring that has all its slots keeps the
  given line in the one that becomes free.
-/
def pop?
    (ring : Scrollback)
    (line : Line) : Option (Scrollback × Line) :=
  if ring.size = 0 then
    none
  else if ring.slots.size < ring.capacity then
    ring.slots.back?.map fun newest =>
      ({ ring with
          slots := ring.slots.pop
          head := ring.head - 1
          size := ring.size - 1 },
        newest)
  else
    ring.slots[ring.slot 0]?.map fun newest =>
      ({ ring with
          slots :=
            ring.slots.setIfInBounds (ring.slot 0) line
          head := ring.head - 1
          size := ring.size - 1 },
        newest)

/- Drop every line. -/
def clear
    (ring : Scrollback) : Scrollback :=
  empty ring.capacity

/- Change the width of every line. -/
def resizeCols
    (ring : Scrollback)
    (cols : Nat)
    (blank : Cell) : Scrollback :=
  { ring with slots := ring.slots.map (·.resize cols blank) }

------------------------------------------------------------
-- Several Lines at Once
------------------------------------------------------------

/-
  Retain lines one after the other, and collect the blank
  lines given in return.
-/
def pushAll
    (ring : Scrollback)
    (blank : Cell) :
    List Line → Scrollback × List Line
  | [] => (ring, [])
  | line :: lines =>
    let (next, recycled) := ring.push line blank
    let (last, rest) := next.pushAll blank lines
    (last, recycled :: rest)

/-
  Replace each line by the newest one of the ring while there
  are any, and by a blank one afterwards.
-/
def popInto
    (ring : Scrollback)
    (blank : Cell) :
    List Line → Scrollback × List Line
  | [] => (ring, [])
  | line :: lines =>
    match ring.pop? line with
    | some (next, newest) =>
      let (last, rest) := next.popInto blank lines
      (last, newest :: rest)
    | none =>
      let (last, rest) := ring.popInto blank lines
      (last, line.fill blank :: rest)

end Scrollback

end VideoTerminal
