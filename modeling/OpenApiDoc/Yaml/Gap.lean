import OpenApiDoc.Yaml.Character

/-!
# Gaps within scalars

Blank space between two words of a scalar is kept on a line and folded across lines: a single
line feed becomes a space, and of several the first one is dropped.
-/

namespace OpenApiDoc.Yaml

/-- Blank space between two words of a scalar; characters are held in reverse. -/
structure Gap where
  spaces : List Char := []
  breaks : List Char := []
  /-- The gap begins with an escaped line break, which stands for nothing. -/
  escaped : Bool := false

namespace Gap

/-- Whether nothing has been read since the last word. -/
def isEmpty (g : Gap) : Bool := g.spaces.isEmpty && g.breaks.isEmpty && !g.escaped

/-- Whether the gap crosses the end of a line. -/
def isMultiline (g : Gap) : Bool := g.escaped || !g.breaks.isEmpty

/-- The gap with one more character. Space around a break does not count. -/
def add (g : Gap) (c : Char) : Gap :=
  if isBreak c then { g with spaces := [], breaks := c :: g.breaks }
  else if g.isMultiline then g
  else { g with spaces := c :: g.spaces }

/-- What the breaks between two words stand for. -/
def fold : List Char → List Char
  | ['\n'] => [' ']
  | '\n' :: more => more
  | breaks => breaks

/-- What the gap stands for. -/
def text (g : Gap) : List Char :=
  if g.escaped then g.breaks.reverse
  else if g.breaks.isEmpty then g.spaces.reverse
  else fold g.breaks.reverse

end Gap

end OpenApiDoc.Yaml
