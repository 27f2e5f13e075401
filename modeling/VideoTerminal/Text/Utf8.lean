/-
  This file defines the incremental UTF-8 decoder that a
  terminal session reads its byte stream through, and the
  encoding of a character as bytes.

  A malformed or truncated sequence becomes one replacement
  character, and decoding resumes at the byte that broke it,
  so the sequence that follows is never swallowed.

  Key definitions include:
    * `Utf8.replacement`
    * `Utf8.Pending`
    * `Utf8.Decoder`
    * `Utf8.Decoder.push`
    * `Utf8.Decoder.pushAll`
    * `Utf8.encode`
    * `Utf8.encodeAll`
    * `Utf8.decodeLossy`
-/

namespace VideoTerminal

namespace Utf8

------------------------------------------------------------
-- Decoder State
------------------------------------------------------------

/- The character that stands for malformed input. -/
def replacement : Char :=
  '\uFFFD'

/-
  A sequence whose lead byte has been read.  `bits` holds the
  code point bits collected so far, `later` counts the
  continuation bytes expected after the next one, and the
  next byte must lie between `lower` and `upper`.
-/
structure Pending where
  bits : Nat
  later : Nat
  lower : Nat
  upper : Nat
  deriving DecidableEq, Repr

/-
  A decoder is either between sequences or inside one.
-/
structure Decoder where
  pending : Option Pending
  deriving DecidableEq, Repr

namespace Decoder

/- The decoder before any input. -/
def start : Decoder :=
  ⟨none⟩

/- A multi-byte sequence has been started and not ended. -/
def isPending
    (decoder : Decoder) : Bool :=
  decoder.pending.isSome

end Decoder

------------------------------------------------------------
-- Decoding
------------------------------------------------------------

/-
  The character with the given code point.  Numbers that are
  no scalar value stand for malformed input.
-/
def scalar
    (n : Nat) : Char :=
  if n.isValidChar then Char.ofNat n else replacement

/-
  Read a byte outside every sequence.  The range of the byte
  after a lead byte is narrowed where the full range would
  admit overlong forms, surrogates or numbers past U+10FFFF.
-/
def lead
    (byte : UInt8) : Decoder × List Char :=
  let n := byte.toNat
  let await (bits later lower upper : Nat) :
      Decoder × List Char :=
    (⟨some ⟨bits, later, lower, upper⟩⟩, [])
  if n < 0x80 then
    (.start, [scalar n])
  else if n < 0xC2 then
    (.start, [replacement])
  else if n < 0xE0 then
    await (n - 0xC0) 0 0x80 0xBF
  else if n = 0xE0 then
    await 0 1 0xA0 0xBF
  else if n = 0xED then
    await 0xD 1 0x80 0x9F
  else if n < 0xF0 then
    await (n - 0xE0) 1 0x80 0xBF
  else if n = 0xF0 then
    await 0 2 0x90 0xBF
  else if n < 0xF4 then
    await (n - 0xF0) 2 0x80 0xBF
  else if n = 0xF4 then
    await 4 2 0x80 0x8F
  else
    (.start, [replacement])

namespace Decoder

/-
  Read one byte.  A byte that cannot continue the sequence in
  progress ends it as malformed and is read afresh.
-/
def push
    (decoder : Decoder)
    (byte : UInt8) : Decoder × List Char :=
  match decoder.pending with
  | none => lead byte
  | some sequence =>
    let n := byte.toNat
    if n < sequence.lower ∨ sequence.upper < n then
      let (next, chars) := lead byte
      (next, replacement :: chars)
    else
      let bits := sequence.bits * 64 + n % 64
      match sequence.later with
      | 0 => (.start, [scalar bits])
      | later + 1 =>
        (⟨some ⟨bits, later, 0x80, 0xBF⟩⟩, [])

/- Read a chunk of bytes. -/
def pushAll
    (decoder : Decoder) :
    List UInt8 → Decoder × List Char
  | [] => (decoder, [])
  | byte :: bytes =>
    let (next, chars) := decoder.push byte
    let (last, rest) := next.pushAll bytes
    (last, chars ++ rest)

end Decoder

/-
  Decode a complete byte string.  A sequence that the end cuts
  short is malformed as well.
-/
def decodeLossy
    (bytes : List UInt8) : List Char :=
  let (decoder, chars) := Decoder.start.pushAll bytes
  if decoder.isPending then
    chars ++ [replacement]
  else
    chars

------------------------------------------------------------
-- Encoding
------------------------------------------------------------

/- The bytes of one character. -/
def encode
    (c : Char) : List UInt8 :=
  let n := c.toNat
  let tail (shift : Nat) : UInt8 :=
    .ofNat (0x80 + n / shift % 64)
  if n < 0x80 then
    [.ofNat n]
  else if n < 0x800 then
    [.ofNat (0xC0 + n / 64), tail 1]
  else if n < 0x10000 then
    [.ofNat (0xE0 + n / 4096), tail 64, tail 1]
  else
    [.ofNat (0xF0 + n / 262144), tail 4096, tail 64, tail 1]

/- The bytes of a list of characters, one after the other. -/
def encodeAll
    (chars : List Char) : List UInt8 :=
  chars.flatMap encode

/- The bytes of a text. -/
def ofString
    (text : String) : List UInt8 :=
  encodeAll text.toList

end Utf8

end VideoTerminal
