/-
  This file defines the parameters of a control sequence: the
  numbers between its introducer and its final character, and
  the marker and intermediate character that qualify it.

  A parameter that is left out differs from a zero, so that
  each action can apply a default of its own.

  Key definitions include:
    * `Parameter`
    * `Parameters`
    * `Parameters.pushDigit`
    * `Parameters.pushSeparator`
    * `Parameters.get?`
    * `Parameters.count`
    * `Parameters.subCount`
    * `Parameters.items`
-/

namespace VideoTerminal

------------------------------------------------------------
-- Parameters
------------------------------------------------------------

/-
  One parameter.  `value` is absent when no digit was given,
  and `sub` marks one that a colon attaches to its
  predecessor.
-/
structure Parameter where
  value : Option Nat
  sub : Bool
  deriving DecidableEq, Repr

/- The number of parameters that are kept. -/
def Parameters.maxCount : Nat :=
  16

/-
  The parameters of a sequence.  `started` counts all of them,
  also those that are not kept.  The masks have a bit for each
  parameter kept: `present` tells that it has digits, and
  `attached` that a colon stands in front of it.
-/
structure Parameters where
  values : Vector Nat Parameters.maxCount
  started : Nat
  present : BitVec Parameters.maxCount
  attached : BitVec Parameters.maxCount
  marker : Option Char
  intermediate : Option Char
  deriving DecidableEq, Repr

namespace Parameters

/- The value at which a parameter saturates. -/
def maxValue : Nat :=
  65535

/- The number at which the count of parameters saturates. -/
def maxStarted : Nat :=
  UInt64.size - 1

/- A sequence of which nothing has been read. -/
def empty : Parameters where
  values := .replicate maxCount 0
  started := 0
  present := .ofNat maxCount 0
  attached := .ofNat maxCount 0
  marker := none
  intermediate := none

------------------------------------------------------------
-- Collecting
------------------------------------------------------------

/- Start the first parameter if none has been started. -/
def startFirst
    (params : Parameters) : Parameters :=
  { params with
    started :=
      if params.started = 0 then 1 else params.started }

/- The mask with the bit of a parameter set. -/
def setBit
    (mask : BitVec maxCount)
    (index : Nat) : BitVec maxCount :=
  mask ||| BitVec.twoPow maxCount index

/- Append a decimal digit to a number, up to the maximum. -/
def appendDigit
    (value digit : Nat) : Nat :=
  min (value * 10 + digit) maxValue

/-
  Append a digit to a parameter, unless it is one of those
  that are not kept.
-/
def appendAt
    (params : Parameters)
    (index digit : Nat) : Parameters :=
  if hKept : index < maxCount then
    { params with
      values :=
        params.values.set index
          (appendDigit params.values[index] digit)
      present := setBit params.present index }
  else
    params

/- Read a digit of the latest parameter. -/
def pushDigit
    (params : Parameters)
    (digit : Nat) : Parameters :=
  let params := params.startFirst
  params.appendAt (params.started - 1) digit

/-
  Read a separator, which starts a further parameter.  A colon
  makes it a sub-parameter.
-/
def pushSeparator
    (params : Parameters)
    (sub : Bool) : Parameters :=
  let params := params.startFirst
  let started := min (params.started + 1) maxStarted
  let index := started - 1
  { params with
    started := started
    attached :=
      if sub ∧ index < maxCount then
        setBit params.attached index
      else
        params.attached }

/-
  Read a private marker.  It counts only at the start of the
  sequence.
-/
def pushMarker
    (params : Parameters)
    (c : Char) : Parameters :=
  if params.started = 0 ∧ params.marker.isNone then
    { params with marker := some c }
  else
    params

/- Read an intermediate character, which replaces another. -/
def pushIntermediate
    (params : Parameters)
    (c : Char) : Parameters :=
  { params with intermediate := some c }

------------------------------------------------------------
-- Reading
------------------------------------------------------------

/- The number of parameters kept. -/
def length
    (params : Parameters) : Nat :=
  min params.started maxCount

/- No parameter was started. -/
def isEmpty
    (params : Parameters) : Bool :=
  params.started == 0

/- A parameter, none when it is missing or left out. -/
def get?
    (params : Parameters)
    (index : Nat) : Option Nat :=
  if index < params.length ∧ params.present.getLsbD index then
    params.values[index]?
  else
    none

/- A parameter, or a default when it is left out. -/
def getD
    (params : Parameters)
    (index default : Nat) : Nat :=
  (params.get? index).getD default

/- A parameter as a count: left out and zero mean one. -/
def count
    (params : Parameters)
    (index : Nat) : Nat :=
  ((params.get? index).filter (· ≠ 0)).getD 1

/- A parameter was attached to its predecessor. -/
def isSub
    (params : Parameters)
    (index : Nat) : Bool :=
  decide (index < params.length) &&
    params.attached.getLsbD index

/- The number of sub-parameters that follow a parameter. -/
def subCount
    (params : Parameters)
    (index : Nat) : Nat :=
  ((List.range' (index + 1)
    (params.length - (index + 1))).takeWhile
      params.isSub).length

/- The parameters kept, one after the other. -/
def items
    (params : Parameters) : List Parameter :=
  (List.range params.length).map fun index =>
    ⟨params.get? index, params.isSub index⟩

end Parameters

end VideoTerminal
