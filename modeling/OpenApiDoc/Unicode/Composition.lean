import OpenApiDoc.Unicode.Decomposition
import OpenApiDoc.Unicode.Mark

/-!
# Composed texts

`compose` gives a text its composed form (NFC): every character is taken apart, the marks after a
letter are put into the order of their classes, and letter and mark become one character where
there is one. Texts that differ only in how their marks are written have the same composed form.
-/

namespace OpenApiDoc.Unicode

/-! ### Taking apart -/

/-- Put a character with its class before a text whose marks are in order, behind the marks of
lower classes. -/
def placeMark (c : Char × Nat) : List (Char × Nat) → List (Char × Nat)
  | [] => [c]
  | d :: rest => if d.2 ≠ 0 ∧ d.2 < c.2 then d :: placeMark c rest else c :: d :: rest

/-- The characters of a text taken apart with their classes, the marks in order. -/
def decompose (text : List Char) : List (Char × Nat) :=
  ((text.flatMap decomposition).map fun c => (c, combiningClass c)).foldr placeMark []

/-! ### Composing -/

/-- The syllable of a first consonant and a vowel of Hangul, or of such a syllable and a last
consonant. -/
def syllable? (a b : Char) : Option Char :=
  let (a, b) := (a.toNat, b.toNat)
  if 0x1100 ≤ a ∧ a < 0x1113 ∧ 0x1161 ≤ b ∧ b < 0x1176 then
    some (Char.ofNat (0xAC00 + ((a - 0x1100) * 21 + (b - 0x1161)) * 28))
  else if 0xAC00 ≤ a ∧ a < 0xD7A4 ∧ (a - 0xAC00) % 28 = 0 ∧ 0x11A7 < b ∧ b < 0x11C3 then
    some (Char.ofNat (a + (b - 0x11A7)))
  else none

/-- The character composed of two. -/
def composition? (a b : Char) : Option Char := (syllable? a b).or (pairs.source? [a, b])

/-- Compose a text that is taken apart: a letter takes up each mark that composes with it, unless
one that it did not take up, of the same class or a higher one, stands just before the mark. The
marks between are held last first. -/
def composeFrom (letter : Char) (between : List (Char × Nat)) : List (Char × Nat) → List Char
  | [] => letter :: (between.map Prod.fst).reverse
  | c :: rest =>
    let blocked := between.head?.any fun d => c.2 ≤ d.2
    match if blocked then none else composition? letter c.1 with
    | some composed => composeFrom composed between rest
    | none =>
      if c.2 = 0 then letter :: (between.map Prod.fst).reverse ++ composeFrom c.1 [] rest
      else composeFrom letter (c :: between) rest

/-- The composed form of a text. Characters of ASCII are neither taken apart nor composed. -/
def compose (text : List Char) : List Char :=
  if text.all fun c => c.toNat < 0x80 then text
  else
    match decompose text with
    | [] => []
    | c :: rest => composeFrom c.1 [] rest

end OpenApiDoc.Unicode
