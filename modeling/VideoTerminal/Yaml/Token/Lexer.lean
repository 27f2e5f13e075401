import VideoTerminal.Yaml.Token.Layout

/-
  This file defines how a text is read as tokens.

  The first characters of a token tell what it is.  Where no
  indicator comes, it is a plain scalar.

  Key definitions include:
    * `Yaml.Lexer`
    * `Yaml.startsPlain`
    * `Yaml.Lexer.skip?`
    * `Yaml.Lexer.token?`
    * `Yaml.tokens?`
-/

namespace VideoTerminal

namespace Yaml

------------------------------------------------------------
-- Lexers
------------------------------------------------------------

/-
  A reader, the layout of the tokens before it, and the number
  of each name that an anchor has had.
-/
structure Lexer where
  reader : Reader
  layout : Layout
  anchors : List (List Char × Nat)
  deriving Repr

namespace Lexer

/- A lexer at the start of a text. -/
def ofText
    (chars : List Char) : Lexer :=
  ⟨.ofText chars, .start, []⟩

/- Go on with another layout after some characters. -/
def move
    (lexer : Lexer)
    (count : Nat)
    (layout : Layout) : Lexer :=
  { lexer with
    reader := lexer.reader.advance count
    layout := layout }

/-
  Skip what separates the lexer from the next token, and end
  the keys and collections that are over there.
-/
def skip?
    (lexer : Lexer) : Option Lexer :=
  let layout := lexer.layout
  let (reader, keyAllowed) :=
    skipFrom layout.inBrackets false layout.keyAllowed
      lexer.reader.position lexer.reader.rest
  let layout := { layout with keyAllowed }
  (layout.expire? reader.position).map fun layout =>
    { lexer with
      reader := reader
      layout := layout.outdentTo reader.column }

------------------------------------------------------------
-- Directives
------------------------------------------------------------

/- Read a directive. -/
def directive?
    (lexer : Lexer) : Option Lexer := do
  let (directive, reader) ← Yaml.directive? lexer.reader
  let layout ← lexer.layout.addOutside? (.directive directive)
  return { lexer with reader, layout }

------------------------------------------------------------
-- Properties
------------------------------------------------------------

/-
  Give a name its number, which is how many other names there
  were when it was given.  A name that is given once more may
  thus come to share a number with a later one.
-/
def nameAnchor
    (lexer : Lexer)
    (name : List Char) : Lexer :=
  { lexer with
    anchors :=
      (name, lexer.anchors.length) ::
        lexer.anchors.filter (·.1 != name) }

/- Read an anchor. -/
def anchor?
    (lexer : Lexer) : Option Lexer := do
  let (name, reader) ← name? lexer.reader.next
  let layout ←
    lexer.layout.addContent? lexer.reader.position
      (.anchor lexer.anchors.length) false
  return { lexer.nameAnchor name with reader, layout }

/- Read a reference to an anchor that has been named. -/
def reference?
    (lexer : Lexer) : Option Lexer := do
  let (name, reader) ← name? lexer.reader.next
  let number ← lexer.anchors.lookup name
  let layout ←
    lexer.layout.addContent? lexer.reader.position
      (.reference number) false
  return { lexer with reader, layout }

/- Read a tag. -/
def tag?
    (lexer : Lexer) : Option Lexer := do
  let (name, reader) ←
    tagName? lexer.layout.inBrackets lexer.reader.next
  let layout ←
    lexer.layout.addContent? lexer.reader.position (.tag name)
      false
  return { lexer with reader, layout }

------------------------------------------------------------
-- Scalars
------------------------------------------------------------

/- A character that no plain scalar starts with. -/
def isReserved
    (c : Char) : Bool :=
  [',', '[', ']', '\x7b', '\x7d', '#', '&', '*', '!', '|', '>',
    '\'', '"', '%', '@', '\x60'].contains c

/- A plain scalar can start with the text. -/
def startsPlain :
    List Char → Bool
  | [] => false
  | c :: rest => !startsBlank (c :: rest) && !isReserved c

/- Add a scalar that can be a key. -/
def addScalar?
    (lexer : Lexer)
    (scanned : Scanned) : Option Lexer :=
  (lexer.layout.addContent? lexer.reader.position
    (.scalar scanned.scalar) scanned.endsLine).map
      fun layout =>
        { lexer with
          reader := scanned.reader
          layout := layout }

/- Read a plain scalar. -/
def plain?
    (lexer : Lexer) : Option Lexer :=
  let reader := lexer.reader
  let layout := lexer.layout
  (Yaml.plain? layout.inBrackets layout.indent [] .empty
    reader.position reader.rest).bind lexer.addScalar?

/- Read a scalar in single quotes. -/
def singleQuoted?
    (lexer : Lexer) : Option Lexer :=
  let reader := lexer.reader.next
  (Yaml.singleQuoted? [] .empty reader.position
    reader.rest).bind lexer.addScalar?

/- Read a scalar in double quotes. -/
def doubleQuoted?
    (lexer : Lexer) : Option Lexer :=
  let reader := lexer.reader.next
  (Yaml.doubleQuoted? [] .empty reader.position .text
    reader.rest).bind lexer.addScalar?

/- Read a block scalar, which does not stand in brackets. -/
def block?
    (lexer : Lexer)
    (folds : Bool) : Option Lexer :=
  if lexer.layout.inBrackets then
    none
  else do
    let scanned ←
      blockScalar? folds lexer.layout.indent lexer.reader.next
    let layout ← lexer.layout.addBlock? scanned.scalar
    return { lexer with reader := scanned.reader, layout }

------------------------------------------------------------
-- Tokens
------------------------------------------------------------

/-
  Read a token that starts with a given character, before
  given text.
-/
def tokenOf?
    (lexer : Lexer)
    (c : Char)
    (rest : List Char) : Option Lexer :=
  let layout := lexer.layout
  let position := lexer.reader.position
  let isIndicator := layout.inBrackets || startsBlank rest
  match c with
  | '[' =>
    (layout.addOpening? position .openBracket).map
      (lexer.move 1)
  | '\x7b' =>
    (layout.addOpening? position .openBrace).map (lexer.move 1)
  | ']' =>
    (layout.addClosing? .closeBracket).map (lexer.move 1)
  | '\x7d' =>
    (layout.addClosing? .closeBrace).map (lexer.move 1)
  | ',' => layout.addComma?.map (lexer.move 1)
  | '*' => lexer.reference?
  | '&' => lexer.anchor?
  | '!' => lexer.tag?
  | '|' => lexer.block? false
  | '>' => lexer.block? true
  | '\'' => lexer.singleQuoted?
  | '"' => lexer.doubleQuoted?
  | c =>
    if c = '-' ∧ startsBlank rest then
      (layout.addItem? position).map (lexer.move 1)
    else if c = '?' ∧ isIndicator then
      (layout.addKey? position).map (lexer.move 1)
    else if c = ':' ∧ isIndicator then
      (layout.addValue? position).map (lexer.move 1)
    else if startsPlain (c :: rest) then
      lexer.plain?
    else
      none

/-
  Read the token that the lexer is at.  Directives and marks
  of documents stand at the start of a line.
-/
def token?
    (lexer : Lexer) : Option Lexer :=
  match lexer.reader.rest with
  | [] => none
  | c :: rest =>
    if c = '%' ∧ lexer.reader.column = 0 then
      lexer.directive?
    else if lexer.reader.isDocumentMark then
      let mark :=
        if c = '-' then
          Token.documentStart
        else
          Token.documentEnd
      (lexer.layout.addOutside? mark).map (lexer.move 3)
    else
      lexer.tokenOf? c rest

/- Read no more than a number of tokens up to the end. -/
def tokens?
    (lexer : Lexer) :
    Nat → Option (List Token)
  | 0 => none
  | count + 1 => do
    let lexer ← lexer.skip?
    if lexer.reader.rest.isEmpty then
      lexer.layout.finish?
    else
      let lexer ← lexer.token?
      lexer.tokens? count

end Lexer

/-
  The tokens of a text.  There are no more of them than there
  are characters.
-/
def tokens?
    (chars : List Char) : Option (List Token) :=
  (Lexer.ofText chars).tokens? (chars.length + 1)

end Yaml

end VideoTerminal
