import VideoTerminal.Control.Action
import VideoTerminal.Control.Parameters

/-
  This file defines the parser that splits a stream of
  characters into printable characters, control characters,
  escape sequences, control sequences and strings.

  The parser reads one character at a time and yields at most
  one event for it.  It never fails: what it does not know is
  skipped.  Control characters act at once, also inside a
  sequence, except while a string is being collected.

  Key definitions include:
    * `StringKind`
    * `Event`
    * `Parser`
    * `Parser.isControl`
    * `Parser.step`
    * `Parser.run`
    * `Parser.state`
-/

namespace VideoTerminal

------------------------------------------------------------
-- Events
------------------------------------------------------------

/- The kinds of strings that an application can send. -/
inductive StringKind where
  | deviceControl
  | systemCommand
  | privacyMessage
  | applicationCommand
  | title
  deriving DecidableEq, Repr

/- What the parser recognises in its input. -/
inductive Event where
  | print (c : Char)
  | execute (c : Char)
  | escape (intermediate : Option Char) (final : Char)
  | sequence (action : Action) (params : Parameters)
  | string (kind : StringKind) (payload : String)
  deriving DecidableEq, Repr

------------------------------------------------------------
-- Parsers
------------------------------------------------------------

/- Where a parser is in its input. -/
inductive Parser.Mode where
  | ground
  | escape
  | escapeIntermediate (intermediate : Char)
  | parameters
  | string (kind : StringKind)
  deriving DecidableEq, Repr

/-
  A parser, which keeps at most `maxStringBytes` bytes of any
  one string.  It has a single place for the parameters of a
  sequence and one for the bytes of a string, and leaves in
  them what it has no more use for.  `pending` is the kind of
  a string into which an escape character broke.
-/
structure Parser where
  mode : Parser.Mode
  params : Parameters
  string : String
  isTruncated : Bool
  pending : Option StringKind
  maxStringBytes : Nat
  deriving DecidableEq, Repr

namespace Parser

/- The bytes kept of a string by default. -/
def defaultMaxStringBytes : Nat :=
  4096

/- A parser before any input. -/
def start
    (maxStringBytes : Nat) : Parser where
  mode := .ground
  params := .empty
  string := ""
  isTruncated := false
  pending := none
  maxStringBytes := maxStringBytes

/- Abandon whatever has been read in part. -/
def reset
    (parser : Parser) : Parser :=
  { parser with
    mode := .ground
    params := .empty
    string := ""
    pending := none }

------------------------------------------------------------
-- Character Classes
------------------------------------------------------------

/- A control character of the second block. -/
def isUpperControl
    (c : Char) : Bool :=
  decide (0x80 ≤ c.toNat ∧ c.toNat ≤ 0x9F)

/- A control character of either block, or delete. -/
def isControl
    (c : Char) : Bool :=
  decide (c.toNat < 0x20) || c == '\x7F' || isUpperControl c

/- A character that qualifies a final one. -/
def isIntermediate
    (c : Char) : Bool :=
  decide (0x20 ≤ c.toNat ∧ c.toNat ≤ 0x2F)

------------------------------------------------------------
-- Beginning and Ending
------------------------------------------------------------

/- Go on in another mode. -/
def enter
    (parser : Parser)
    (mode : Mode) : Parser :=
  { parser with mode := mode }

/- Begin to collect the parameters of a sequence. -/
def beginSequence
    (parser : Parser) : Parser :=
  { parser with mode := .parameters, params := .empty }

/- Begin to collect a string. -/
def beginString
    (parser : Parser)
    (kind : StringKind) : Parser :=
  { parser with
    mode := .string kind
    string := ""
    isTruncated := false
    pending := none }

/- Go on in the ground mode, and forget the parameters. -/
def endSequence
    (parser : Parser) : Parser :=
  { parser with mode := .ground, params := .empty }

/- Go on in the ground mode, and forget the string. -/
def endString
    (parser : Parser) : Parser :=
  { parser with mode := .ground, string := "" }

/- Complete a string. -/
def completeString
    (parser : Parser)
    (kind : StringKind) : Parser × Option Event :=
  (parser.endString, some (.string kind parser.string))

------------------------------------------------------------
-- Control Characters
------------------------------------------------------------

/-
  Read a control character outside every string.  Most are
  executed and leave the parser as it is.
-/
def control
    (parser : Parser)
    (c : Char) : Parser × Option Event :=
  match c with
  | '\x1B' =>
    ({ parser with
      mode := .escape
      params := .empty
      string := ""
      pending := none }, none)
  | '\x18' => (parser.endSequence, none)
  | '\x1A' => (parser.endSequence, some (.execute c))
  | '\u0090' => (parser.beginString .deviceControl, none)
  | '\u009B' => (parser.beginSequence, none)
  | '\u009C' => (parser, none)
  | '\u009D' => (parser.beginString .systemCommand, none)
  | '\u009E' => (parser.beginString .privacyMessage, none)
  | '\u009F' => (parser.beginString .applicationCommand, none)
  | _ => (parser, some (.execute c))

------------------------------------------------------------
-- Escape Sequences
------------------------------------------------------------

/- Read the character after a lone escape character. -/
def plainEscape
    (parser : Parser)
    (c : Char) : Parser × Option Event :=
  match c with
  | '[' => (parser.beginSequence, none)
  | ']' => (parser.beginString .systemCommand, none)
  | 'P' => (parser.beginString .deviceControl, none)
  | '^' => (parser.beginString .privacyMessage, none)
  | '_' => (parser.beginString .applicationCommand, none)
  | 'k' => (parser.beginString .title, none)
  | '\\' => (parser.enter .ground, none)
  | _ =>
    if isIntermediate c then
      (parser.enter (.escapeIntermediate c), none)
    else if 0x30 ≤ c.toNat ∧ c.toNat ≤ 0x7E then
      (parser.enter .ground, some (.escape none c))
    else
      (parser.enter .ground, none)

/-
  Read the character after an escape character.  A backslash
  completes a string into which the escape character broke,
  and any other one drops it.
-/
def escape
    (parser : Parser)
    (c : Char) : Parser × Option Event :=
  match parser.pending with
  | none => parser.plainEscape c
  | some kind =>
    let parser := { parser with pending := none }
    if c = '\\' then
      parser.completeString kind
    else
      { parser with string := "" }.plainEscape c

------------------------------------------------------------
-- Control Sequences
------------------------------------------------------------

/- The event of a sequence, if it is a known one. -/
def finishSequence
    (params : Parameters)
    (final : Char) : Option Event :=
  (Action.lookup? final params.marker
    params.intermediate).map (.sequence · params)

/- Collect parameters further. -/
def collect
    (parser : Parser)
    (change : Parameters → Parameters) : Parser :=
  { parser with
    mode := .parameters
    params := change parser.params }

/- Read a character inside a control sequence. -/
def sequence
    (parser : Parser)
    (c : Char) : Parser × Option Event :=
  if '0'.toNat ≤ c.toNat ∧ c.toNat ≤ '9'.toNat then
    (parser.collect (·.pushDigit (c.toNat - '0'.toNat)), none)
  else if c = ';' then
    (parser.collect (·.pushSeparator false), none)
  else if c = ':' then
    (parser.collect (·.pushSeparator true), none)
  else if '<'.toNat ≤ c.toNat ∧ c.toNat ≤ '?'.toNat then
    (parser.collect (·.pushMarker c), none)
  else if isIntermediate c then
    (parser.collect (·.pushIntermediate c), none)
  else if 0x40 ≤ c.toNat ∧ c.toNat ≤ 0x7E then
    (parser.endSequence, finishSequence parser.params c)
  else
    (parser.endSequence, none)

------------------------------------------------------------
-- Strings
------------------------------------------------------------

/-
  Append a character to the string if there is room for it,
  and note otherwise that one has been dropped.
-/
def appendChar
    (parser : Parser)
    (c : Char) : Parser :=
  if parser.string.utf8ByteSize + c.utf8Size ≤
      parser.maxStringBytes then
    { parser with string := parser.string.push c }
  else
    { parser with isTruncated := true }

/- Read a character inside a string. -/
def stringChar
    (parser : Parser)
    (kind : StringKind)
    (c : Char) : Parser × Option Event :=
  if c = '\x07' ∨ c = '\u009C' then
    parser.completeString kind
  else if c = '\x1B' then
    ({ parser with mode := .escape, pending := some kind },
      none)
  else if c = '\x18' then
    (parser.endString, none)
  else if c = '\x1A' then
    (parser.endString, some (.execute c))
  else if isUpperControl c then
    parser.endString.control c
  else
    (parser.appendChar c, none)

------------------------------------------------------------
-- Steps and Runs
------------------------------------------------------------

/- Read one character, and yield the event it completes. -/
def step
    (parser : Parser)
    (c : Char) : Parser × Option Event :=
  match parser.mode with
  | .string kind => parser.stringChar kind c
  | mode =>
    if isControl c then
      parser.control c
    else
      match mode with
      | .escape => parser.escape c
      | .escapeIntermediate intermediate =>
        (parser.enter .ground,
          some (.escape (some intermediate) c))
      | .parameters => parser.sequence c
      | _ => (parser, some (.print c))

/- Read characters one after the other. -/
def run
    (parser : Parser) :
    List Char → Parser × List Event
  | [] => (parser, [])
  | c :: chars =>
    let (middle, event) := parser.step c
    let (last, events) := middle.run chars
    (last, event.toList ++ events)

------------------------------------------------------------
-- What Is in Progress
------------------------------------------------------------

/-
  What a parser is in the middle of, with as much of its
  contents as belongs to that.  After an escape character that
  broke into a string, `interrupted` is that string.
-/
inductive State where
  | ground
  | escape (interrupted : Option (StringKind × String))
  | escapeIntermediate (intermediate : Char)
  | parameters (params : Parameters)
  | string (kind : StringKind) (payload : String)
  deriving DecidableEq, Repr

/- What the parser is in the middle of. -/
def state
    (parser : Parser) : State :=
  match parser.mode with
  | .ground => .ground
  | .escape =>
    .escape (parser.pending.map fun kind =>
      (kind, parser.string))
  | .escapeIntermediate intermediate =>
    .escapeIntermediate intermediate
  | .parameters => .parameters parser.params
  | .string kind => .string kind parser.string

end Parser

end VideoTerminal
