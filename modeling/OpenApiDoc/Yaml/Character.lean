/-!
# Characters of YAML text

Which characters a text may hold, which of them end a line, and which of them separate words.
-/

namespace OpenApiDoc.Yaml

/-- Whether a text may hold the character: control characters are refused, except for the tab and
the ends of lines. -/
def isAllowed (c : Char) : Bool :=
  let n := c.toNat
  n == 0x09 || n == 0x0A || n == 0x0D || n == 0x85 || (0x20 ≤ n && n ≤ 0x7E)
    || (0xA0 ≤ n && n ≤ 0xFFFD) || 0x10000 ≤ n

/-- The text with every carriage return, line feed, pair of both and next-line character as one
line feed. -/
def unifyBreaks : List Char → List Char
  | [] => []
  | '\r' :: '\n' :: rest => '\n' :: unifyBreaks rest
  | c :: rest => (if c = '\r' ∨ c = '\x85' then '\n' else c) :: unifyBreaks rest

/-- Whether a character ends a line, once the breaks are unified. The line and paragraph
separators do as well. -/
def isBreak (c : Char) : Bool := c == '\n' || c == '\u2028' || c == '\u2029'

/-- Whether a character is blank space within a line. -/
def isSpace (c : Char) : Bool := c == ' ' || c == '\t'

/-- Whether a character stands between words. -/
def isGap (c : Char) : Bool := isSpace c || isBreak c

/-- Whether a word ends before this text. -/
def atGap : List Char → Bool
  | [] => true
  | c :: _ => isGap c

/-- Whether a text goes on with one of these characters. -/
def startsWithAny (chars : List Char) : List Char → Bool
  | [] => false
  | c :: _ => chars.contains c

/-- Whether a character may stand in a name. -/
def isNameChar (c : Char) : Bool := c.isAlphanum || c == '_' || c == '-'

/-- The byte order mark. -/
def byteOrderMark : Char := '\uFEFF'

/-- The characters of a text as they are read, with unified breaks. -/
def characters? (text : String) : Option (List Char) :=
  let chars := text.toList
  if chars.all isAllowed then some (unifyBreaks chars) else none

end OpenApiDoc.Yaml
