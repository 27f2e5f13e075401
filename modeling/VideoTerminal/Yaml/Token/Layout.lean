import VideoTerminal.Yaml.Token.Basic

/-
  This file defines how the places of tokens make up keys and
  indented collections.

  A key without an indicator of its own is known by the colon
  after it, so that the place where it may have started is
  kept until then.  A collection that is marked by indentation
  starts with an entry further right than those around it, and
  ends before a token that is further left.

  Key definitions include:
    * `Yaml.KeyStart`
    * `Yaml.Layout`
    * `Yaml.Layout.expire?`
    * `Yaml.Layout.outdentTo`
    * `Yaml.Layout.addValue?`
-/

namespace VideoTerminal

namespace Yaml

------------------------------------------------------------
-- Keys
------------------------------------------------------------

/-
  A place where a key may have started, with the number of the
  tokens before it.  It is `required` to be one where nothing
  but an entry of the collection around it can start.
-/
structure KeyStart where
  position : Position
  before : Nat
  required : Bool
  deriving DecidableEq, Repr

namespace KeyStart

/-
  A key that started there would not end at a position.  Keys
  lie on one line and have at most 1024 bytes.
-/
def isOver
    (start : KeyStart)
    (position : Position) : Bool :=
  decide (start.position.line < position.line) ||
    decide (start.position.offset + 1024 < position.offset)

end KeyStart

------------------------------------------------------------
-- Layouts
------------------------------------------------------------

/-
  The tokens so far, from the last to the first, and what is
  open after them: the columns of indented collections, the
  innermost first, and brackets.  `keyStart` is where a key
  may have started within the innermost brackets, and `outer`
  holds the same for what is around each of them.
-/
structure Layout where
  tokens : List Token
  columns : List Nat
  keyAllowed : Bool
  keyStart : Option KeyStart
  outer : List (Option KeyStart)
  deriving DecidableEq, Repr

namespace Layout

/- The start of a text. -/
def start : Layout :=
  ⟨[], [], true, none, []⟩

/- Brackets are open. -/
def inBrackets
    (layout : Layout) : Bool :=
  !layout.outer.isEmpty

/-
  The least column of what belongs to the innermost indented
  collection but is none of its entries.
-/
def indent
    (layout : Layout) : Nat :=
  layout.columns.head?.elim 0 (· + 1)

/-
  Add a token, after which a key may start or not.
-/
def push
    (layout : Layout)
    (token : Token)
    (keyAllowed : Bool) : Layout :=
  { layout with
    tokens := token :: layout.tokens
    keyAllowed := keyAllowed }

/- Add a token after the first ones of a given number. -/
def insert
    (layout : Layout)
    (before : Nat)
    (token : Token) : Layout :=
  { layout with
    tokens :=
      layout.tokens.insertIdx
        (layout.tokens.length - before) token }

------------------------------------------------------------
-- Starts of Keys
------------------------------------------------------------

/- No key has started in the innermost brackets. -/
def dropKey?
    (layout : Layout) : Option Layout :=
  if layout.keyStart.any (·.required) then
    none
  else
    some { layout with keyStart := none }

/- A key may start at a position, if one is allowed there. -/
def startKey?
    (layout : Layout)
    (position : Position) : Option Layout :=
  if layout.keyAllowed then
    layout.dropKey?.map fun layout =>
      { layout with
        keyStart := some
          { position
            before := layout.tokens.length
            required :=
              !layout.inBrackets &&
                layout.columns.head? ==
                  some position.column } }
  else
    some layout

/- Drop the starts of keys that are over at a position. -/
def expire?
    (layout : Layout)
    (position : Position) : Option Layout :=
  let isOver : Option KeyStart → Bool :=
    fun start => start.any (·.isOver position)
  let isFault : Option KeyStart → Bool :=
    fun start => isOver start && start.any (·.required)
  if isFault layout.keyStart || layout.outer.any isFault then
    none
  else
    let keep :=
      fun start => if isOver start then none else start
    some
      { layout with
        keyStart := keep layout.keyStart
        outer := layout.outer.map keep }

------------------------------------------------------------
-- Indentation
------------------------------------------------------------

/-
  Start a collection at a column, unless it is inside brackets
  or one that starts there or further right is open.  Its
  token stands after the first ones of a given number.
-/
def indentTo
    (layout : Layout)
    (column before : Nat)
    (token : Token) : Layout :=
  if layout.inBrackets ||
      layout.columns.head?.any (column ≤ ·) then
    layout
  else
    { layout.insert before token with
      columns := column :: layout.columns }

/- End collections, of which some columns are left. -/
def endColumns
    (layout : Layout)
    (ended : List Nat) : Layout :=
  { layout with
    tokens := ended.map (fun _ => .outdent) ++ layout.tokens
    columns := layout.columns.drop ended.length }

/- End the collections that start further right. -/
def outdentTo
    (layout : Layout)
    (column : Nat) : Layout :=
  if layout.inBrackets then
    layout
  else
    layout.endColumns <|
      layout.columns.takeWhile (decide <| column < ·)

/- End all indented collections, unless brackets are open. -/
def outdent
    (layout : Layout) : Layout :=
  if layout.inBrackets then
    layout
  else
    layout.endColumns layout.columns

------------------------------------------------------------
-- Tokens
------------------------------------------------------------

/- Add a token that stands outside of documents. -/
def addOutside?
    (layout : Layout)
    (token : Token) : Option Layout :=
  layout.outdent.dropKey?.map (·.push token false)

/- Add the start of a collection in brackets. -/
def addOpening?
    (layout : Layout)
    (position : Position)
    (token : Token) : Option Layout :=
  (layout.startKey? position).map fun layout =>
    { layout.push token true with
      keyStart := none
      outer := layout.keyStart :: layout.outer }

/- Add the end of a collection in brackets. -/
def addClosing?
    (layout : Layout)
    (token : Token) : Option Layout :=
  layout.dropKey?.map fun layout =>
    let layout := layout.push token false
    match layout.outer with
    | [] => layout
    | keyStart :: outer => { layout with keyStart, outer }

/- Add a comma. -/
def addComma?
    (layout : Layout) : Option Layout :=
  layout.dropKey?.map (·.push .comma true)

/- Add the dash of an item. -/
def addItem?
    (layout : Layout)
    (position : Position) : Option Layout :=
  if layout.inBrackets || layout.keyAllowed then
    let layout :=
      layout.indentTo position.column layout.tokens.length
        .indentSequence
    layout.dropKey?.map (·.push .item true)
  else
    none

/- Add the indicator of a key. -/
def addKey?
    (layout : Layout)
    (position : Position) : Option Layout :=
  if layout.inBrackets || layout.keyAllowed then
    let layout :=
      layout.indentTo position.column layout.tokens.length
        .indentMapping
    layout.dropKey?.map (·.push .key !layout.inBrackets)
  else
    none

/-
  Add the colon of a value.  It follows a key that may have
  started before, or the indicator of a key.
-/
def addValue?
    (layout : Layout)
    (position : Position) : Option Layout :=
  match layout.keyStart with
  | some start =>
    let layout :=
      (layout.insert start.before .key).indentTo
        start.position.column start.before .indentMapping
    some
      { layout.push .value false with keyStart := none }
  | none =>
    if layout.inBrackets || layout.keyAllowed then
      let layout :=
        layout.indentTo position.column layout.tokens.length
          .indentMapping
      some (layout.push .value !layout.inBrackets)
    else
      none

/-
  Add a token that can stand in a key.  `keyAllowed` tells
  whether another key may start after it.
-/
def addContent?
    (layout : Layout)
    (position : Position)
    (token : Token)
    (keyAllowed : Bool) : Option Layout :=
  (layout.startKey? position).map (·.push token keyAllowed)

/- Add a scalar of lines, which is not part of a key. -/
def addBlock?
    (layout : Layout)
    (scalar : Scalar) : Option Layout :=
  layout.dropKey?.map (·.push (.scalar scalar) true)

/- All tokens from the first to the last. -/
def finish?
    (layout : Layout) : Option (List Token) :=
  layout.outdent.dropKey?.map (·.tokens.reverse)

end Layout

end Yaml

end VideoTerminal
