/-!
# UTF-8

Octets are natural numbers below 256. `Utf8.encodeChar` gives the octets of a character.
`Utf8.decode` reads any list of octets: an octet sequence that is cut short or that no character
has becomes one replacement character for each longest start of a well-formed sequence, and for
each octet that starts none.
-/

namespace OpenApiDoc.Text.Utf8

/-- The octets of a character. -/
def encodeChar (c : Char) : List Nat :=
  let n := c.toNat
  if n < 0x80 then [n]
  else if n < 0x800 then [0xC0 + n / 64, 0x80 + n % 64]
  else if n < 0x10000 then [0xE0 + n / 4096, 0x80 + n / 64 % 64, 0x80 + n % 64]
  else [0xF0 + n / 262144, 0x80 + n / 4096 % 64, 0x80 + n / 64 % 64, 0x80 + n % 64]

/-- The octets of a text. -/
def encode (text : List Char) : List Nat := text.flatMap encodeChar

/-- The replacement character. -/
def replacement : Char := Char.ofNat 0xFFFD

/-- A character under way: the bounds of the next octet, how many octets are owed after it, and
the bits so far. -/
structure Partial where
  low : Nat
  high : Nat
  owed : Nat
  bits : Nat
deriving DecidableEq

/-- What an octet begins: a character of its own, a longer one, or nothing. -/
def begin (octet : Nat) : Char ⊕ Option Partial :=
  if octet < 0x80 then .inl (Char.ofNat octet)
  else if octet < 0xC2 then .inr none
  else if octet < 0xE0 then .inr (some ⟨0x80, 0xBF, 0, octet - 0xC0⟩)
  else if octet = 0xE0 then .inr (some ⟨0xA0, 0xBF, 1, 0⟩)
  else if octet = 0xED then .inr (some ⟨0x80, 0x9F, 1, 0xD⟩)
  else if octet < 0xF0 then .inr (some ⟨0x80, 0xBF, 1, octet - 0xE0⟩)
  else if octet = 0xF0 then .inr (some ⟨0x90, 0xBF, 2, 0⟩)
  else if octet < 0xF4 then .inr (some ⟨0x80, 0xBF, 2, octet - 0xF0⟩)
  else if octet = 0xF4 then .inr (some ⟨0x80, 0x8F, 2, 4⟩)
  else .inr none

/-- The characters completed by an octet that continues nothing, and what is under way then. -/
def fresh (octet : Nat) : List Char × Option Partial :=
  match begin octet with
  | .inl c => ([c], none)
  | .inr none => ([replacement], none)
  | .inr (some p) => ([], some p)

/-- The characters completed by an octet, and what is under way after it. -/
def step (underWay : Option Partial) (octet : Nat) : List Char × Option Partial :=
  match underWay with
  | none => fresh octet
  | some p =>
    if p.low ≤ octet ∧ octet ≤ p.high then
      let bits := p.bits * 64 + (octet - 0x80)
      if p.owed = 0 then ([Char.ofNat bits], none)
      else ([], some ⟨0x80, 0xBF, p.owed - 1, bits⟩)
    else
      let (chars, next) := fresh octet
      (replacement :: chars, next)

/-- Read octets from a state on. -/
def decodeFrom (underWay : Option Partial) : List Nat → List Char
  | [] =>
    match underWay with
    | none => []
    | some _ => [replacement]
  | octet :: rest =>
    let (chars, next) := step underWay octet
    chars ++ decodeFrom next rest

/-- The text of a list of octets. -/
def decode (octets : List Nat) : List Char := decodeFrom none octets

/-- The text of a list of octets that are well formed. -/
def decode? (octets : List Nat) : Option (List Char) :=
  let text := decode octets
  if encode text = octets then some text else none

end OpenApiDoc.Text.Utf8
