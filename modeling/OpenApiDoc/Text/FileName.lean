/-!
# File names

A name is made safe for a file by keeping ASCII letters and digits, hyphens and underscores. Each
run of other characters becomes an underscore, a run of hyphens and underscores shrinks to its
first character, and none of them stays at either end.
-/

namespace OpenApiDoc.Text.FileName

/-- A hyphen or an underscore. -/
def isSeparator (c : Char) : Bool := c == '-' || c == '_'

/-- Whether a file name may hold a character. -/
def isAllowed (c : Char) : Bool := c.isAlphanum || isSeparator c

/-- Replace each run of characters that are not allowed by an underscore; the flag tells that the
character before was one of them. -/
def replaceForbidden (within : Bool) : List Char → List Char
  | [] => []
  | c :: rest =>
    if isAllowed c then c :: replaceForbidden false rest
    else if within then replaceForbidden true rest
    else '_' :: replaceForbidden true rest

/-- Keep the first character of each run of separators; the flag tells that the character before
was a separator. -/
def collapse (within : Bool) : List Char → List Char
  | [] => []
  | c :: rest =>
    if isSeparator c then
      if within then collapse true rest else c :: collapse true rest
    else c :: collapse false rest

/-- The text without separators at its ends. -/
def trim (text : List Char) : List Char :=
  ((text.dropWhile isSeparator).reverse.dropWhile isSeparator).reverse

/-- The file name of a name. -/
def ofChars (name : List Char) : List Char := trim (collapse false (replaceForbidden false name))

/-- The file name of a name. -/
def ofName (name : String) : String := String.ofList (ofChars name.toList)

end OpenApiDoc.Text.FileName
