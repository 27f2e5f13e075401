/-
  This file defines the position of a YAML reader in its text,
  and the skipping of what separates one token from the next.

  Key definitions include:
    * `Yaml.isBreak`
    * `Yaml.normalize?`
    * `Yaml.Position`
    * `Yaml.Reader`
    * `Yaml.Reader.isDocumentMark`
    * `Yaml.skipFrom`
-/

namespace VideoTerminal

namespace Yaml

------------------------------------------------------------
-- Characters
------------------------------------------------------------

/- A character that a document may contain. -/
def isPrintable
    (c : Char) : Bool :=
  let n := c.toNat
  [0x9, 0xA, 0xD, 0x85].contains n ||
    decide (0x20 ≤ n ∧ n ≤ 0x7E) ||
    decide (0xA0 ≤ n ∧ n ≤ 0xFFFD) ||
    decide (0x10000 ≤ n)

/- A space or a tab. -/
def isBlank
    (c : Char) : Bool :=
  c == ' ' || c == '\t'

/-
  The end of a line: a line feed, or one of the separators of
  lines and paragraphs, which stay what they are.
-/
def isBreak
    (c : Char) : Bool :=
  c == '\n' || c == '\u2028' || c == '\u2029'

/- Write every other kind of line break as a line feed. -/
def unifyBreaks :
    List Char → List Char
  | [] => []
  | '\r' :: '\n' :: rest => '\n' :: unifyBreaks rest
  | '\r' :: rest => '\n' :: unifyBreaks rest
  | '\u0085' :: rest => '\n' :: unifyBreaks rest
  | c :: rest => c :: unifyBreaks rest

/-
  The text of a document.  Characters that cannot be printed
  are refused.
-/
def normalize?
    (chars : List Char) : Option (List Char) :=
  if chars.all isPrintable then
    some (unifyBreaks chars)
  else
    none

/- The text starts with white space, or is at its end. -/
def startsBlank :
    List Char → Bool
  | [] => true
  | c :: _ => isBlank c || isBreak c

/- The text starts with one of the two document marks. -/
def startsDocumentMark :
    List Char → Bool
  | '-' :: '-' :: '-' :: rest => startsBlank rest
  | '.' :: '.' :: '.' :: rest => startsBlank rest
  | _ => false

------------------------------------------------------------
-- Positions
------------------------------------------------------------

/-
  A position in a text: the line, the column within it, and
  the number of bytes before it.
-/
structure Position where
  line : Nat
  column : Nat
  offset : Nat
  deriving DecidableEq, Repr

namespace Position

/- The start of a text. -/
def start : Position :=
  ⟨0, 0, 0⟩

/- The position after a character. -/
def after
    (position : Position)
    (c : Char) : Position :=
  let offset := position.offset + c.utf8Size
  if isBreak c then
    ⟨position.line + 1, 0, offset⟩
  else
    ⟨position.line, position.column + 1, offset⟩

end Position

/- The text to be read, and the position that it starts at. -/
structure Reader where
  rest : List Char
  position : Position
  deriving Repr

namespace Reader

/- A reader at the start of a text. -/
def ofText
    (chars : List Char) : Reader :=
  ⟨chars, .start⟩

/- The column of the next character. -/
def column
    (reader : Reader) : Nat :=
  reader.position.column

/- Move past one character. -/
def next
    (reader : Reader) : Reader :=
  match reader.rest with
  | [] => reader
  | c :: rest => ⟨rest, reader.position.after c⟩

/- Move past some characters. -/
def advance
    (reader : Reader) :
    Nat → Reader
  | 0 => reader
  | count + 1 => reader.next.advance count

/- Moving past a character takes it away. -/
theorem length_rest_next
    (reader : Reader) :
    reader.next.rest.length = reader.rest.length - 1 := by
  obtain ⟨rest, position⟩ := reader
  cases rest <;> rfl

/- Moving past characters takes them away. -/
theorem length_rest_advance
    (reader : Reader)
    (count : Nat) :
    (reader.advance count).rest.length =
      reader.rest.length - count := by
  induction count generalizing reader with
  | zero => rfl
  | succ count ih =>
    simp only [advance, ih, length_rest_next]
    omega

/- Move past the characters of a kind. -/
def skipWhile
    (reader : Reader)
    (isSkipped : Char → Bool) : Reader :=
  reader.advance (reader.rest.takeWhile isSkipped).length

/- Move past the spaces and tabs of the same line. -/
def skipBlanks
    (reader : Reader) : Reader :=
  reader.skipWhile isBlank

/-
  Move past the end of a line, on which no more than white
  space and a comment follow.
-/
def endLine?
    (reader : Reader) : Option Reader :=
  let reader := reader.skipBlanks
  let reader :=
    if reader.rest.head? = some '#' then
      reader.skipWhile (!isBreak ·)
    else
      reader
  if startsBlank reader.rest then some reader.next else none

/- The reader is at a mark that ends a document. -/
def isDocumentMark
    (reader : Reader) : Bool :=
  reader.column == 0 && startsDocumentMark reader.rest

end Reader

------------------------------------------------------------
-- Between Tokens
------------------------------------------------------------

/- A mark of the byte order, which may start a line. -/
def byteOrderMark : Char :=
  '\uFEFF'

/-
  Skip spaces, comments and line breaks, and tell whether a
  key may start after them.  Outside of brackets one may at
  the start of a line.  Tabs are skipped inside brackets and
  where no key may start, since they are no indentation there.
-/
def skipFrom
    (inBrackets comment keyAllowed : Bool)
    (position : Position) :
    List Char → Reader × Bool
  | [] => (⟨[], position⟩, keyAllowed)
  | c :: rest =>
    if isBreak c then
      skipFrom inBrackets false (keyAllowed || !inBrackets)
        (position.after c) rest
    else if comment ∨ c = ' ' ∨
        (c = byteOrderMark ∧ position.column = 0) ∨
        (c = '\t' ∧ (inBrackets ∨ !keyAllowed)) then
      skipFrom inBrackets comment keyAllowed
        (position.after c) rest
    else if c = '#' then
      skipFrom inBrackets true keyAllowed (position.after c)
        rest
    else
      (⟨c :: rest, position⟩, keyAllowed)

end Yaml

end VideoTerminal
