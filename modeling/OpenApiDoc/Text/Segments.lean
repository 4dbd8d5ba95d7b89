/-!
# Segments of a text

Cutting a text at separators: at the first one, or at all of them.
-/

namespace OpenApiDoc.Text

/-- The segments of a text between the characters that satisfy a test. -/
def segments (isSeparator : Char → Bool) : List Char → List (List Char)
  | [] => [[]]
  | c :: rest =>
    if isSeparator c then [] :: segments isSeparator rest
    else
      match segments isSeparator rest with
      | first :: more => (c :: first) :: more
      | [] => [[c]]

/-- The segments with a separator between them. -/
def joinWith (separator : List Char) : List (List Char) → List Char
  | [] => []
  | [segment] => segment
  | segment :: rest => segment ++ separator ++ joinWith separator rest

/-- What stands before and after the first occurrence of a character. -/
def cutAt (separator : Char) : List Char → Option (List Char × List Char)
  | [] => none
  | c :: rest =>
    if c = separator then some ([], rest)
    else (cutAt separator rest).map fun (before, after) => (c :: before, after)

/-- What stands before and after the last occurrence of a character. -/
def cutAtLast (separator : Char) (text : List Char) : Option (List Char × List Char) :=
  (cutAt separator text.reverse).map fun (before, after) => (after.reverse, before.reverse)

end OpenApiDoc.Text
