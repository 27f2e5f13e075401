import VideoTerminal.Yaml.Reader

/-
  This file defines the scalars of YAML, plain and quoted, and
  the whole numbers that plain ones stand for.

  White space inside a scalar is kept as it is within a line.
  Where lines end, it is folded: one line feed becomes a
  space, and of several the first is dropped.  Separators of
  lines and paragraphs are kept.

  Key definitions include:
    * `Yaml.Style`
    * `Yaml.Scalar`
    * `Yaml.plain?`
    * `Yaml.singleQuoted?`
    * `Yaml.doubleQuoted?`
    * `Yaml.natural?`
-/

namespace VideoTerminal

namespace Yaml

------------------------------------------------------------
-- Scalars
------------------------------------------------------------

/- The ways in which a scalar can be written. -/
inductive Style where
  | plain
  | quoted
  | literal
  | folded
  deriving DecidableEq, Repr

/- A scalar, and the way in which it is written. -/
structure Scalar where
  text : List Char
  style : Style
  deriving DecidableEq, Repr

/-
  A scalar that has been read, and the reader after it.
  `endsLine` tells whether the end of a line has been read
  after the text of the scalar.
-/
structure Scanned where
  scalar : Scalar
  reader : Reader
  endsLine : Bool
  deriving Repr

------------------------------------------------------------
-- Folding
------------------------------------------------------------

/-
  White space inside a scalar, from right to left: within a
  line as it is written, or across the ends of lines, which
  are the first and those after it.  The first is left out
  where it is escaped.
-/
inductive Gap where
  | spaces (chars : List Char)
  | breaks (first : Option Char) (others : List Char)
  deriving DecidableEq, Repr

namespace Gap

/- No white space. -/
def empty : Gap :=
  .spaces []

/- The gap ends a line. -/
def endsLine :
    Gap → Bool
  | spaces _ => false
  | breaks _ _ => true

/- The gap holds no character. -/
def isEmpty :
    Gap → Bool
  | spaces chars => chars.isEmpty
  | breaks _ _ => false

/- Add a space or tab.  At the start of a line it is lost. -/
def pushBlank
    (gap : Gap)
    (c : Char) : Gap :=
  match gap with
  | spaces chars => spaces (c :: chars)
  | breaks first others => breaks first others

/- Add the end of a line. -/
def pushBreak
    (gap : Gap)
    (c : Char) : Gap :=
  match gap with
  | spaces _ => breaks (some c) []
  | breaks first others => breaks first (c :: others)

/-
  The characters of a gap, from right to left.  A line feed
  that comes first stands for a space if it is the only one,
  and for nothing if others follow.
-/
def text :
    Gap → List Char
  | spaces chars => chars
  | breaks (some '\n') [] => [' ']
  | breaks (some '\n') others => others
  | breaks first others => others ++ first.toList

end Gap

------------------------------------------------------------
-- Plain Scalars
------------------------------------------------------------

/- The indicators that end a plain scalar inside brackets. -/
def isBracketIndicator
    (c : Char) : Bool :=
  [',', '[', ']', '\x7b', '\x7d'].contains c

/- A colon at the start of the text ends a plain scalar. -/
def endsAtColon :
    List Char → Bool
  | ':' :: rest => startsBlank rest
  | _ => false

/-
  A colon inside brackets must not be followed by one of the
  indicators at once.
-/
def isMisplacedColon :
    List Char → Bool
  | ':' :: c :: _ => isBracketIndicator c || c == '?'
  | _ => false

/-
  A plain scalar that has ended.  `text` holds it from right
  to left, and `gap` the white space after it.
-/
def endPlain
    (text : List Char)
    (gap : Gap)
    (reader : Reader) : Scanned :=
  ⟨⟨text.reverse, .plain⟩, reader, gap.endsLine⟩

/-
  A character that is not blank ends a plain scalar.  The next
  characters are those of `rest`.
-/
def endsPlain
    (inBrackets : Bool)
    (indent : Nat)
    (gap : Gap)
    (column : Nat)
    (c : Char)
    (rest : List Char) : Bool :=
  (gap.endsLine && !inBrackets && decide (column < indent)) ||
    (column == 0 && startsDocumentMark (c :: rest)) ||
    (c == '#' && !gap.isEmpty) ||
    endsAtColon (c :: rest) ||
    (inBrackets && isBracketIndicator c)

/-
  Read a plain scalar.  Lines that continue it outside of
  brackets are indented by `indent` columns or more.  That is
  not done by tabs, be it in brackets or not.
-/
def plain?
    (inBrackets : Bool)
    (indent : Nat)
    (text : List Char)
    (gap : Gap)
    (position : Position) :
    List Char → Option Scanned
  | [] => some (endPlain text gap ⟨[], position⟩)
  | c :: rest =>
    if isBreak c then
      plain? inBrackets indent text (gap.pushBreak c)
        (position.after c) rest
    else if isBlank c then
      if c = '\t' ∧ gap.endsLine ∧
          position.column < indent then
        none
      else
        plain? inBrackets indent text (gap.pushBlank c)
          (position.after c) rest
    else if endsPlain inBrackets indent gap position.column
        c rest then
      some (endPlain text gap ⟨c :: rest, position⟩)
    else if inBrackets ∧ isMisplacedColon (c :: rest) then
      none
    else
      plain? inBrackets indent (c :: (gap.text ++ text))
        .empty (position.after c) rest

------------------------------------------------------------
-- Single Quotes
------------------------------------------------------------

/-
  A scalar in quotes that has ended before a quote, which is
  the first character of the reader.
-/
def endQuoted
    (text : List Char)
    (gap : Gap)
    (reader : Reader) : Scanned :=
  ⟨⟨(gap.text ++ text).reverse, .quoted⟩, reader.next, false⟩

/-
  Read a scalar in single quotes after the first of them.  A
  quote inside is written twice.
-/
def singleQuoted?
    (text : List Char)
    (gap : Gap)
    (position : Position) :
    List Char → Option Scanned
  | [] => none
  | '\'' :: '\'' :: rest =>
    singleQuoted? ('\'' :: (gap.text ++ text)) .empty
      ((position.after '\'').after '\'') rest
  | c :: rest =>
    if isBreak c then
      singleQuoted? text (gap.pushBreak c) (position.after c)
        rest
    else if isBlank c then
      singleQuoted? text (gap.pushBlank c) (position.after c)
        rest
    else if c = '\'' then
      some (endQuoted text gap ⟨c :: rest, position⟩)
    else if position.column = 0 ∧
        startsDocumentMark (c :: rest) then
      none
    else
      singleQuoted? (c :: (gap.text ++ text)) .empty
        (position.after c) rest

------------------------------------------------------------
-- Double Quotes
------------------------------------------------------------

/- The character that an escape of one letter stands for. -/
def escaped? :
    Char → Option Char
  | '0' => some '\x00'
  | 'a' => some '\x07'
  | 'b' => some '\x08'
  | 't' => some '\t'
  | '\t' => some '\t'
  | 'n' => some '\n'
  | 'v' => some '\x0B'
  | 'f' => some '\x0C'
  | 'r' => some '\r'
  | 'e' => some '\x1B'
  | ' ' => some ' '
  | '"' => some '"'
  | '/' => some '/'
  | '\\' => some '\\'
  | 'N' => some '\u0085'
  | '_' => some '\u00A0'
  | 'L' => some '\u2028'
  | 'P' => some '\u2029'
  | _ => none

/- The number of digits of an escape by code point. -/
def escapeDigits? :
    Char → Option Nat
  | 'x' => some 2
  | 'u' => some 4
  | 'U' => some 8
  | _ => none

/- The value of a digit in a base up to sixteen. -/
def digit?
    (base : Nat)
    (c : Char) : Option Nat :=
  let n := c.toNat
  let value :=
    if '0'.toNat ≤ n ∧ n ≤ '9'.toNat then
      n - '0'.toNat
    else if 'a'.toNat ≤ n ∧ n ≤ 'f'.toNat then
      n - 'a'.toNat + 10
    else if 'A'.toNat ≤ n ∧ n ≤ 'F'.toNat then
      n - 'A'.toNat + 10
    else
      base
  if value < base then some value else none

/-
  Where the reader is in a scalar in double quotes: in its
  text, after a backslash, or among the digits of a code
  point, of which `left` are to come.
-/
inductive Escape where
  | text
  | backslash
  | digits (left value : Nat)
  deriving DecidableEq, Repr

/-
  Read a scalar in double quotes after the first of them.
-/
def doubleQuoted?
    (text : List Char)
    (gap : Gap)
    (position : Position)
    (escape : Escape) :
    List Char → Option Scanned
  | [] => none
  | c :: rest =>
    match escape with
    | .digits left value =>
      match digit? 16 c with
      | none => none
      | some digit =>
        let value := value * 16 + digit
        if 1 < left then
          doubleQuoted? text gap (position.after c)
            (.digits (left - 1) value) rest
        else if value.isValidChar then
          doubleQuoted? (.ofNat value :: text) gap
            (position.after c) .text rest
        else
          none
    | .backslash =>
      if isBreak c then
        doubleQuoted? text (.breaks none [])
          (position.after c) .text rest
      else
        match escaped? c, escapeDigits? c with
        | some meant, _ =>
          doubleQuoted? (meant :: text) gap
            (position.after c) .text rest
        | none, some count =>
          doubleQuoted? text gap (position.after c)
            (.digits count 0) rest
        | none, none => none
    | .text =>
      if isBreak c then
        doubleQuoted? text (gap.pushBreak c)
          (position.after c) .text rest
      else if isBlank c then
        doubleQuoted? text (gap.pushBlank c)
          (position.after c) .text rest
      else if c = '"' then
        some (endQuoted text gap ⟨c :: rest, position⟩)
      else if position.column = 0 ∧
          startsDocumentMark (c :: rest) then
        none
      else if c = '\\' then
        doubleQuoted? (gap.text ++ text) .empty
          (position.after c) .backslash rest
      else
        doubleQuoted? (c :: (gap.text ++ text)) .empty
          (position.after c) .text rest

------------------------------------------------------------
-- Whole Numbers
------------------------------------------------------------

/- The number that digits write in a base. -/
def digits?
    (base : Nat) :
    List Char → Option Nat
  | [] => none
  | chars =>
    chars.foldl
      (fun value c =>
        match value, digit? base c with
        | some value, some digit =>
          some (value * base + digit)
        | _, _ => none)
      (some 0)

/-
  The number that digits write, in the base that a leading
  zero and a letter name.  In base ten no zero may lead.
-/
def unsigned? :
    List Char → Option Nat
  | '0' :: 'x' :: rest => digits? 16 rest
  | '0' :: 'o' :: rest => digits? 8 rest
  | '0' :: 'b' :: rest => digits? 2 rest
  | ['0'] => some 0
  | '0' :: _ => none
  | chars => digits? 10 chars

/-
  The whole number from zero on that a scalar stands for.  It
  may have a plus sign, and not even zero has a minus sign.
-/
def natural? :
    List Char → Option Nat
  | '+' :: rest => unsigned? rest
  | chars => unsigned? chars

end Yaml

end VideoTerminal
