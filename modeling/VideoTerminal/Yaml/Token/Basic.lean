import VideoTerminal.Yaml.BlockScalar
import VideoTerminal.Yaml.Property

/-
  This file defines the tokens that YAML text is made of, and
  the reading of directives.

  Key definitions include:
    * `Yaml.Directive`
    * `Yaml.directive?`
    * `Yaml.Token`
-/

namespace VideoTerminal

namespace Yaml

------------------------------------------------------------
-- Directives
------------------------------------------------------------

/-
  A line in front of a document.  It tells the version of the
  language, or declares what tags with a handle start with.
-/
inductive Directive where
  | version (major minor : Nat)
  | handle (name : List Char) (start : List UInt8)
  deriving DecidableEq, Repr

/- Read a part of a version, which has up to nine digits. -/
def versionPart?
    (reader : Reader) : Option (Nat × Reader) :=
  let digits := reader.rest.takeWhile Char.isDigit
  if 9 < digits.length then
    none
  else
    (digits? 10 digits).map fun n =>
      (n, reader.advance digits.length)

/- Read a version, which is two numbers around a point. -/
def version?
    (reader : Reader) : Option (Directive × Reader) := do
  let (major, reader) ← versionPart? reader
  if reader.rest.head? = some '.' then
    let (minor, reader) ← versionPart? reader.next
    return (.version major minor, reader)
  else
    none

/-
  Read a handle, which starts with an exclamation mark and,
  where it is longer, ends with one.
-/
def handle?
    (reader : Reader) : Option (List Char × Reader) :=
  match reader.rest with
  | '!' :: rest =>
    let word := rest.takeWhile isNameChar
    let stop := reader.next.advance word.length
    if stop.rest.head? = some '!' then
      some ('!' :: (word ++ ['!']), stop.next)
    else if word.isEmpty then
      some (['!'], stop)
    else
      none
  | _ => none

/- Read a handle and what it stands for. -/
def handleDeclaration?
    (reader : Reader) : Option (Directive × Reader) := do
  let (name, reader) ← handle? reader
  if reader.rest.head?.any isBlank then
    let (start, reader) ←
      tagWord? isFullTagChar reader.skipBlanks
    if startsBlank reader.rest then
      return (.handle name start, reader)
    else
      none
  else
    none

/-
  Read a directive and the rest of its line, the reader being
  at its percent sign.
-/
def directive?
    (reader : Reader) : Option (Directive × Reader) := do
  let name := reader.next.rest.takeWhile isNameChar
  let reader := reader.next.advance name.length
  if startsBlank reader.rest then
    let (directive, reader) ←
      match String.ofList name with
      | "YAML" => version? reader.skipBlanks
      | "TAG" => handleDeclaration? reader.skipBlanks
      | _ => none
    let reader ← reader.endLine?
    return (directive, reader)
  else
    none

------------------------------------------------------------
-- Tokens
------------------------------------------------------------

/-
  The parts of a text.  Those of collections that are marked
  by indentation alone stand where the first of their entries
  starts and after the last one.

  Anchors have numbers.  A reference means the last value of
  the document that has the number of its anchor.
-/
inductive Token where
  | directive (directive : Directive)
  | documentStart
  | documentEnd
  | indentSequence
  | indentMapping
  | outdent
  | item
  | key
  | value
  | openBracket
  | closeBracket
  | openBrace
  | closeBrace
  | comma
  | anchor (number : Nat)
  | reference (number : Nat)
  | tag (name : TagName)
  | scalar (scalar : Scalar)
  deriving DecidableEq, Repr

end Yaml

end VideoTerminal
