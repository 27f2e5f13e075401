/-
  This file defines the standard base64 encoding with padding.
  Decoding accepts exactly the texts that encoding writes:
  padding is required, and the bits that padding leaves over
  must be zero.

  Key definitions include:
    * `Base64.digit`
    * `Base64.value?`
    * `Base64.encode`
    * `Base64.decode?`
-/

namespace VideoTerminal

namespace Base64

------------------------------------------------------------
-- Alphabet
------------------------------------------------------------

/- The character for a number below 64. -/
def digit
    (n : Nat) : Char :=
  if n < 26 then
    Char.ofNat ('A'.toNat + n)
  else if n < 52 then
    Char.ofNat ('a'.toNat + (n - 26))
  else if n < 62 then
    Char.ofNat ('0'.toNat + (n - 52))
  else if n = 62 then
    '+'
  else
    '/'

/- The number that a character stands for. -/
def value?
    (c : Char) : Option Nat :=
  let n := c.toNat
  if 'A'.toNat ≤ n ∧ n ≤ 'Z'.toNat then
    some (n - 'A'.toNat)
  else if 'a'.toNat ≤ n ∧ n ≤ 'z'.toNat then
    some (n - 'a'.toNat + 26)
  else if '0'.toNat ≤ n ∧ n ≤ '9'.toNat then
    some (n - '0'.toNat + 52)
  else if c = '+' then
    some 62
  else if c = '/' then
    some 63
  else
    none

------------------------------------------------------------
-- Encoding
------------------------------------------------------------

/- Write bytes, three to a group of four characters. -/
def encode :
    List UInt8 → List Char
  | [] => []
  | [x] =>
    [digit (x.toNat / 4), digit (x.toNat % 4 * 16), '=', '=']
  | [x, y] =>
    [digit (x.toNat / 4),
      digit (x.toNat % 4 * 16 + y.toNat / 16),
      digit (y.toNat % 16 * 4), '=']
  | x :: y :: z :: rest =>
    digit (x.toNat / 4) ::
      digit (x.toNat % 4 * 16 + y.toNat / 16) ::
      digit (y.toNat % 16 * 4 + z.toNat / 64) ::
      digit (z.toNat % 64) :: encode rest

------------------------------------------------------------
-- Decoding
------------------------------------------------------------

/- The one byte of a group with two padding characters. -/
def decodeOne?
    (a b : Char) : Option (List UInt8) :=
  match value? a, value? b with
  | some a, some b =>
    if b % 16 = 0 then
      some [.ofNat (a * 4 + b / 16)]
    else
      none
  | _, _ => none

/- The two bytes of a group with one padding character. -/
def decodeTwo?
    (a b c : Char) : Option (List UInt8) :=
  match value? a, value? b, value? c with
  | some a, some b, some c =>
    if c % 4 = 0 then
      some [.ofNat (a * 4 + b / 16),
        .ofNat (b % 16 * 16 + c / 4)]
    else
      none
  | _, _, _ => none

/- The three bytes of a group without padding. -/
def decodeThree?
    (a b c d : Char) : Option (List UInt8) :=
  match value? a, value? b, value? c, value? d with
  | some a, some b, some c, some d =>
    some [.ofNat (a * 4 + b / 16),
      .ofNat (b % 16 * 16 + c / 4),
      .ofNat (c % 4 * 64 + d)]
  | _, _, _, _ => none

/-
  Read groups of four characters.  Only the last group may be
  padded.
-/
def decode? :
    List Char → Option (List UInt8)
  | [] => some []
  | [a, b, c, d] =>
    if d = '=' then
      if c = '=' then
        decodeOne? a b
      else
        decodeTwo? a b c
    else
      decodeThree? a b c d
  | a :: b :: c :: d :: rest => do
    let group ← decodeThree? a b c d
    let bytes ← decode? rest
    return group ++ bytes
  | _ => none

end Base64

end VideoTerminal
