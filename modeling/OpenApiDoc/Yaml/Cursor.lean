import OpenApiDoc.Yaml.Character

/-!
# A place in a text

A cursor is a place in a text with the text that follows it.
-/

namespace OpenApiDoc.Yaml

/-- A place in a text: octets before it, lines before it, and characters before it
on its line. -/
structure Position where
  index : Nat := 0
  line : Nat := 0
  column : Nat := 0

/-- The place after a character. -/
def Position.after (p : Position) (c : Char) : Position :=
  let index := p.index + c.utf8Size
  if isBreak c then ⟨index, p.line + 1, 0⟩ else ⟨index, p.line, p.column + 1⟩

/-- A place in a text with the text that follows it. -/
structure Cursor where
  position : Position
  rest : List Char

namespace Cursor

/-- The start of a text. -/
def start (text : List Char) : Cursor := ⟨{}, text⟩

/-- The cursor after some characters. -/
def skip (c : Cursor) : Nat → Cursor
  | 0 => c
  | n + 1 =>
    match c.rest with
    | [] => c
    | x :: rest => skip ⟨c.position.after x, rest⟩ n

/-- The longest run of characters of a kind, and the cursor after it. -/
def span (p : Char → Bool) (c : Cursor) : List Char × Cursor :=
  let run := c.rest.takeWhile p
  (run, c.skip run.length)

/-- The cursor after the longest run of characters of a kind. -/
def skipWhile (p : Char → Bool) (c : Cursor) : Cursor := (c.span p).2

/-- The cursor after this character. -/
def expect? (x : Char) (c : Cursor) : Option Cursor :=
  if c.rest.head? = some x then some (c.skip 1) else none

/-- The cursor after the end of a line that holds nothing more than blank space and a comment. -/
def endOfLine? (c : Cursor) : Option Cursor :=
  let c := c.skipWhile isSpace
  let c := if c.rest.head? = some '#' then c.skipWhile fun x => !isBreak x else c
  match c.rest with
  | [] => some c
  | x :: _ => if isBreak x then some (c.skip 1) else none

/-- Whether a line begins here with three of this character standing alone. -/
def atTriple (x : Char) (c : Cursor) : Bool :=
  match c.rest with
  | a :: b :: d :: rest => c.position.column == 0 && a == x && b == x && d == x && atGap rest
  | _ => false

/-- Whether a line begins here that starts or ends a document. -/
def atDocumentMark (c : Cursor) : Bool := c.atTriple '-' || c.atTriple '.'

end Cursor

end OpenApiDoc.Yaml
