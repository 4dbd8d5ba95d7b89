import OpenApiDoc.Text.Percent
import OpenApiDoc.Text.Segments

/-!
# Paths of addresses

The path of an address is read as segments between slashes. Segments of dots are resolved: a
single dot is left out, and two dots take the segment before with them, but never a drive. What a
path cannot hold is percent encoded.

A *drive* is a letter with a colon or a bar, as the first segment of a path to a file names it.
-/

namespace OpenApiDoc.WebAddress

/-! ### Segments -/

/-- Whether a character is written as an escape in a path. -/
def isEscapedInPath (c : Char) : Bool :=
  c.toNat ≤ 0x20 || 0x7F ≤ c.toNat || ['"', '#', '<', '>', '?', '`', '\x7b', '\x7d'].contains c

/-- A text with the characters that satisfy a test written as escapes. -/
def escape (isEscaped : Char → Bool) (text : List Char) : List Char :=
  text.flatMap fun c =>
    if isEscaped c then (Text.Utf8.encodeChar c).flatMap Text.Percent.escape else [c]

/-- The dots that a segment spells, plainly or escaped. -/
def dots? : List Char → Option Nat
  | [] => some 0
  | '.' :: rest => (dots? rest).map (· + 1)
  | '%' :: '2' :: c :: rest =>
    if c = 'e' ∨ c = 'E' then (dots? rest).map (· + 1) else none
  | _ => none

/-! ### Drives -/

/-- Whether a text begins with a drive, as a segment or up to a backslash. -/
def startsWithDrive : List Char → Bool
  | letter :: mark :: rest =>
    letter.isAlpha && (mark == ':' || mark == '|') && (rest.isEmpty || rest.head? == some '\\')
  | _ => false

/-- Whether a text is a drive. -/
def isDrive (text : List Char) : Bool := text.length == 2 && startsWithDrive text

/-- A drive as it is written in a path: with a colon. Other segments stay as they are. -/
def writeDrive (segment : List Char) : List Char :=
  if isDrive segment then segment.take 1 ++ [':'] else segment

/-! ### Dots -/

/-- The segments left of those before when two dots follow; those before are held in reverse. -/
def parent (before : List (List Char)) : List (List Char) :=
  if before.head?.any startsWithDrive then before else before.drop 1

/-- The segments with dots resolved; the segments before are held in reverse. Dots at the end
leave an empty segment. Where the path may begin with a drive, it is written as one. -/
def resolveDots (mayBeDrive : Bool) (before : List (List Char)) :
    List (List Char) → List (List Char)
  | [] => before.reverse
  | segment :: rest =>
    match dots? segment with
    | some 1 =>
      if rest.isEmpty then ([] :: before).reverse else resolveDots mayBeDrive before rest
    | some 2 =>
      if rest.isEmpty then ([] :: parent before).reverse
      else resolveDots mayBeDrive (parent before) rest
    | _ =>
      let segment := escape isEscapedInPath segment
      let segment := if mayBeDrive && before.isEmpty then writeDrive segment else segment
      resolveDots mayBeDrive (segment :: before) rest

/-- The path that is written after its first slash. -/
def resolvePath (isSlash : Char → Bool) (mayBeDrive : Bool) (text : List Char) : List Char :=
  '/' :: Text.joinWith ['/'] (resolveDots mayBeDrive [] (Text.segments isSlash text))

end OpenApiDoc.WebAddress
