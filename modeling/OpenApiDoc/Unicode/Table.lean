import OpenApiDoc.Text.Radix
import OpenApiDoc.Text.Segments

/-!
# Tables of characters

The tables of Unicode are written as words between blanks, in rising order. All numbers in them
are code points in hexadecimal digits.

In a set, a word is a code point or a span of them: `AD 300-36F`. In a map, a word gives the
images of characters that follow each other, `B2=32,33,20+301`, where a plus sign joins the
characters of one image; or it moves a span, `41-5A=61`, or every second character of a span,
`100-12E/2=101`, so that its first character comes to stand at the code point named.
-/

namespace OpenApiDoc.Unicode

/-- The words of a text between blanks. -/
def words (text : String) : List (List Char) :=
  (Text.segments Char.isWhitespace text.toList).filter fun word => !word.isEmpty

/-- The code point that a word spells. -/
def codePoint (word : List Char) : Nat := (Text.readRadix 16 word).getD 0

/-- The code points between which a span reaches. -/
def span (word : List Char) : Nat × Nat :=
  match Text.cutAt '-' word with
  | some (first, last) => (codePoint first, codePoint last)
  | none => (codePoint word, codePoint word)

/-! ### Sets -/

/-- A set of characters as spans of code points in rising order. -/
structure CharSet where
  spans : List (Nat × Nat)

namespace CharSet

/-- The set that a table lists. -/
def ofText (text : String) : CharSet := ⟨(words text).map span⟩

/-- Whether one of the spans holds a code point. -/
def holds (n : Nat) : List (Nat × Nat) → Bool
  | [] => false
  | (first, last) :: rest => first ≤ n && (n ≤ last || holds n rest)

/-- Whether a character is in a set. -/
def contains (set : CharSet) (c : Char) : Bool := holds c.toNat set.spans

end CharSet

/-! ### Maps -/

/-- The images of some characters, which begin at a code point: listed one by one, or moved
together up to the last one, in steps. -/
inductive CharMap.Row where
  | listed (first : Nat) (images : List (List Char))
  | moved (first last step image : Nat)

/-- A map from characters to texts as rows in rising order. -/
structure CharMap where
  rows : List CharMap.Row

namespace CharMap

namespace Row

/-- The row that a word spells. -/
def ofWord (word : List Char) : Row :=
  match Text.cutAt '=' word with
  | none => .listed (codePoint word) []
  | some (source, images) =>
    if source.contains '-' then
      match Text.cutAt '/' source with
      | some (source, step) => .moved (span source).1 (span source).2 (codePoint step)
        (codePoint images)
      | none => .moved (span source).1 (span source).2 1 (codePoint images)
    else
      .listed (codePoint source) ((Text.segments (· == ',') images).map fun image =>
        (Text.segments (· == '+') image).map fun c => Char.ofNat (codePoint c))

/-- The first code point of a row. -/
def first : Row → Nat
  | .listed first _ => first
  | .moved first _ _ _ => first

/-- The image that a row gives to a code point from its first one on. -/
def image? (n : Nat) : Row → Option (List Char)
  | .listed first images => images[n - first]?
  | .moved first last step image =>
    if n ≤ last ∧ (n - first) % step = 0 then some [Char.ofNat (image + (n - first))] else none

/-- The character to which a row gives an image by listing it. -/
def source? (image : List Char) : Row → Option Char
  | .listed first images => (images.findIdx? (· == image)).map fun i => Char.ofNat (first + i)
  | .moved .. => none

end Row

/-- The map that a table lists. -/
def ofText (text : String) : CharMap := ⟨(words text).map Row.ofWord⟩

/-- The image that one of the rows gives to a code point. -/
def imageIn? (n : Nat) : List Row → Option (List Char)
  | [] => none
  | row :: rest => if n < row.first then none else (row.image? n).or (imageIn? n rest)

/-- The image of a character, if the map gives it one. -/
def image? (map : CharMap) (c : Char) : Option (List Char) := imageIn? c.toNat map.rows

/-- The character that has a listed image. -/
def source? (map : CharMap) (image : List Char) : Option Char :=
  map.rows.findSome? (Row.source? image)

end CharMap

end OpenApiDoc.Unicode
