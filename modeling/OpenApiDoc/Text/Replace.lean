/-!
# Replacing parts of a text

The occurrences of a pattern are found from left to right, and none of them overlaps the one
before.
-/

namespace OpenApiDoc.Text

/-- Replace the occurrences of a pattern, after passing over some characters of
the one before. -/
def replaceFrom (pattern replacement : List Char) (skip : Nat) : List Char → List Char
  | [] => []
  | c :: rest =>
    match skip with
    | skip + 1 => replaceFrom pattern replacement skip rest
    | 0 =>
      if pattern.isPrefixOf (c :: rest) then
        replacement ++ replaceFrom pattern replacement (pattern.length - 1) rest
      else c :: replaceFrom pattern replacement 0 rest

/-- Replace the occurrences of a pattern that is not empty. -/
def replace (pattern replacement text : List Char) : List Char :=
  replaceFrom pattern replacement 0 text

end OpenApiDoc.Text
