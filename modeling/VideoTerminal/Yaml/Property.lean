import VideoTerminal.Yaml.Scalar

/-
  This file defines the names of anchors and the tags of YAML
  values.

  A tag is written in full or with a handle, which stands for
  the start of the tag.  Bytes of a tag can be escaped.

  Key definitions include:
    * `Yaml.name?`
    * `Yaml.Tag`
    * `Yaml.TagName`
    * `Yaml.tagName?`
    * `Yaml.TagName.resolve?`
-/

namespace VideoTerminal

namespace Yaml

------------------------------------------------------------
-- Names
------------------------------------------------------------

/- A character of the name of an anchor. -/
def isNameChar
    (c : Char) : Bool :=
  c.isAlphanum || c == '_' || c == '-'

/- A name can end before the text. -/
def endsName :
    List Char → Bool
  | [] => true
  | c :: rest =>
    startsBlank (c :: rest) ||
      ['?', ':', ',', ']', '\x7d', '%', '@', '\x60'].contains c

/- Read a name, the reader being after its indicator. -/
def name?
    (reader : Reader) : Option (List Char × Reader) :=
  let name := reader.rest.takeWhile isNameChar
  let reader := reader.advance name.length
  if name.isEmpty ∨ ¬endsName reader.rest then
    none
  else
    some (name, reader)

------------------------------------------------------------
-- Text of Tags
------------------------------------------------------------

/- The bytes of ASCII characters. -/
def bytesOf
    (chars : List Char) : List UInt8 :=
  chars.map (.ofNat ·.toNat)

/- A character of a tag, brackets and commas apart. -/
def isTagChar
    (c : Char) : Bool :=
  isNameChar c ||
    [';', '/', '?', ':', '@', '&', '=', '+', '$', '.', '!',
      '~', '*', '\'', '(', ')'].contains c

/- A character of a tag that is written in full. -/
def isFullTagChar
    (c : Char) : Bool :=
  isTagChar c || [',', '[', ']'].contains c

/-
  The number of escaped bytes that have to follow one, where
  it was `left` before.  The first byte of a character tells
  how many continue it.
-/
def escapesAfter?
    (left byte : Nat) : Option Nat :=
  if left ≠ 0 then
    if 0x80 ≤ byte ∧ byte < 0xC0 then
      some (left - 1)
    else
      none
  else if byte < 0x80 then
    some 0
  else if 0xC0 ≤ byte ∧ byte < 0xE0 then
    some 1
  else if 0xE0 ≤ byte ∧ byte < 0xF0 then
    some 2
  else if 0xF0 ≤ byte ∧ byte < 0xF8 then
    some 3
  else
    none

/-
  Read the characters of a tag.  Two digits after a percent
  sign stand for a byte.
-/
def tagText?
    (isChar : Char → Bool)
    (left : Nat)
    (position : Position) :
    List Char → Option (List UInt8 × Reader)
  | '%' :: c :: d :: rest =>
    match digit? 16 c, digit? 16 d with
    | some high, some low =>
      let byte := high * 16 + low
      match escapesAfter? left byte with
      | some left =>
        (tagText? isChar left
          (((position.after '%').after c).after d) rest).map
            fun (text, reader) =>
              (.ofNat byte :: text, reader)
      | none => none
    | _, _ => none
  | c :: rest =>
    if left ≠ 0 then
      none
    else if isChar c then
      (tagText? isChar 0 (position.after c) rest).map
        fun (text, reader) =>
          (.ofNat c.toNat :: text, reader)
    else
      some ([], ⟨c :: rest, position⟩)
  | [] =>
    if left = 0 then some ([], ⟨[], position⟩) else none

/- Read one or more characters of a tag. -/
def tagWord?
    (isChar : Char → Bool)
    (reader : Reader) : Option (List UInt8 × Reader) :=
  (tagText? isChar 0 reader.position reader.rest).filter
    fun (text, _) => !text.isEmpty

------------------------------------------------------------
-- Tags
------------------------------------------------------------

/- The type that a tag names, written in full. -/
structure Tag where
  bytes : List UInt8
  deriving DecidableEq, Repr

namespace Tag

/- The tag of one exclamation mark leaves the type open. -/
def unspecific : Tag :=
  ⟨bytesOf ['!']⟩

/- What every type of the language itself starts with. -/
def standardStart : List UInt8 :=
  bytesOf "tag:yaml.org,2002:".toList

/- The tag of whole numbers. -/
def integer : Tag :=
  ⟨standardStart ++ bytesOf "int".toList⟩

/-
  The name of an application's own type, which follows an
  exclamation mark and is well-formed text.
-/
def localName?
    (tag : Tag) : Option String :=
  match tag.bytes with
  | 0x21 :: name => String.fromUTF8? ⟨name.toArray⟩
  | _ => none

end Tag

/-
  A tag as it is written, which is a handle and what follows
  it.  The empty handle stands for nothing.
-/
structure TagName where
  handle : List Char
  suffix : List UInt8
  deriving DecidableEq, Repr

namespace TagName

/- The tag of one exclamation mark. -/
def unspecific : TagName :=
  ⟨[], Tag.unspecific.bytes⟩

/-
  The tag that a name stands for, of which a zero byte ends
  each part.  A handle that has not been declared is refused.
-/
def resolve?
    (name : TagName)
    (handles : List (List Char × List UInt8)) : Option Tag :=
  let start :=
    if name.handle.isEmpty then
      some []
    else
      handles.lookup name.handle
  start.map fun start =>
    ⟨start.takeWhile (· != 0) ++
      name.suffix.takeWhile (· != 0)⟩

end TagName

/- The handles that need no declaration. -/
def standardHandles : List (List Char × List UInt8) :=
  [(['!'], Tag.unspecific.bytes),
    (['!', '!'], Tag.standardStart)]

/- Read a tag in full, the reader being after the bracket. -/
def fullTag?
    (reader : Reader) : Option (TagName × Reader) :=
  match tagWord? isFullTagChar reader with
  | some (text, reader) =>
    if reader.rest.head? = some '>' then
      some (⟨[], text⟩, reader.next)
    else
      none
  | none => none

/-
  Read a handle and what follows it, the reader being after
  the first exclamation mark.
-/
def shortTag?
    (reader : Reader) : Option (TagName × Reader) :=
  let word := reader.rest.takeWhile isNameChar
  let reader := reader.advance word.length
  if reader.rest.head? = some '!' then
    (tagWord? isTagChar reader.next).map
      fun (text, reader) =>
        (⟨'!' :: (word ++ ['!']), text⟩, reader)
  else
    (tagText? isTagChar 0 reader.position reader.rest).map
      fun (text, reader) =>
        let text := bytesOf word ++ text
        if text.head?.all (· == 0) then
          (TagName.unspecific, reader)
        else
          (⟨['!'], text⟩, reader)

/-
  Read a tag, the reader being after the first exclamation
  mark.  White space follows it, or a comma inside brackets.
-/
def tagName?
    (inBrackets : Bool)
    (reader : Reader) : Option (TagName × Reader) :=
  let tag :=
    if reader.rest.head? = some '<' then
      fullTag? reader.next
    else
      shortTag? reader
  tag.filter fun (_, reader) =>
    startsBlank reader.rest ||
      (inBrackets && reader.rest.head? == some ',')

end Yaml

end VideoTerminal
