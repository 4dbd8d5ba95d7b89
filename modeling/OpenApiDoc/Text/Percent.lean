import OpenApiDoc.Text.Utf8

/-!
# Percent encoding

`Percent.decode` replaces each `%XX` by the octet it names and leaves every other percent sign as
it is. `Form.encode` writes a text for a form: letters, digits and `.-*_` stand for themselves, a
space becomes a plus sign, and every other octet is written as `%XX` in capitals.
-/

namespace OpenApiDoc.Text

namespace Percent

/-- The value of an octet that is a hexadecimal digit. -/
def hexValue? (octet : Nat) : Option Nat :=
  if 0x30 ≤ octet ∧ octet ≤ 0x39 then some (octet - 0x30)
  else if 0x41 ≤ octet ∧ octet ≤ 0x46 then some (octet - 0x41 + 10)
  else if 0x61 ≤ octet ∧ octet ≤ 0x66 then some (octet - 0x61 + 10)
  else none

/-- Replace escapes by the octets they name; 0x25 is the percent sign. -/
def decodeOctets : List Nat → List Nat
  | [] => []
  | 0x25 :: high :: low :: rest =>
    match hexValue? high, hexValue? low with
    | some h, some l => (16 * h + l) :: decodeOctets rest
    | _, _ => 0x25 :: decodeOctets (high :: low :: rest)
  | octet :: rest => octet :: decodeOctets rest

/-- The text with its escapes read as UTF-8. -/
def decode (text : List Char) : List Char :=
  Utf8.decode (decodeOctets (Utf8.encode text))

/-- The capital hexadecimal digit of a number below 16. -/
def hexDigit (n : Nat) : Char :=
  if n < 10 then Char.ofNat (0x30 + n) else Char.ofNat (0x41 + (n - 10))

/-- The escape of an octet. -/
def escape (octet : Nat) : List Char := ['%', hexDigit (octet / 16), hexDigit (octet % 16)]

end Percent

namespace Form

/-- Whether an octet stands for itself in a form. -/
def isPlain (octet : Nat) : Bool :=
  (0x30 ≤ octet && octet ≤ 0x39) || (0x41 ≤ octet && octet ≤ 0x5A)
    || (0x61 ≤ octet && octet ≤ 0x7A)
    || octet == 0x2E || octet == 0x2D || octet == 0x2A || octet == 0x5F

/-- An octet as written in a form. -/
def encodeOctet (octet : Nat) : List Char :=
  if isPlain octet then [Char.ofNat octet]
  else if octet = 0x20 then ['+']
  else Percent.escape octet

/-- A text as written in a form. -/
def encode (text : List Char) : List Char := (Utf8.encode text).flatMap encodeOctet

end Form

end OpenApiDoc.Text
