import OpenApiDoc.Yaml.Cursor

/-!
# Scalars written as blocks of lines

After the indicator `|` lines are kept; after `>` they are folded, except around lines that begin
with blank space. A header may fix the indentation and what becomes of the breaks at the end.
-/

namespace OpenApiDoc.Yaml

namespace BlockScalar

/-- What becomes of the breaks at the end of a block. -/
inductive Chomping where
  | strip
  | clip
  | keep
deriving DecidableEq

/-- What stands after the indicator. -/
structure Header where
  chomping : Chomping := .clip
  /-- By how many columns the lines are indented, where that is written. -/
  indentation : Option Nat := none

/-- The chomping that a character asks for. -/
def chomping? : Char → Option Chomping
  | '+' => some .keep
  | '-' => some .strip
  | _ => none

/-- The digit after the indicator, which is not zero. -/
def indentation? (c : Char) : Option Nat :=
  if c.isDigit && c != '0' then some (c.toNat - '0'.toNat) else none

/-- The header at a cursor, and the cursor after it. Its two parts stand in any order. -/
def header? (cursor : Cursor) : Option (Header × Cursor) :=
  match cursor.rest with
  | [] => some ({}, cursor)
  | c :: rest =>
    match chomping? c with
    | some chomping =>
      match rest.head?.filter Char.isDigit with
      | some d => (indentation? d).map fun n => (⟨chomping, some n⟩, cursor.skip 2)
      | none => some (⟨chomping, none⟩, cursor.skip 1)
    | none =>
      if c.isDigit then
        (indentation? c).map fun n =>
          match rest.head?.bind chomping? with
          | some chomping => (⟨chomping, some n⟩, cursor.skip 2)
          | none => (⟨.clip, some n⟩, cursor.skip 1)
      else some ({}, cursor)

/-! ### Lines -/

/-- Whether lines are folded, what becomes of the last breaks, and the column of the text. -/
structure Shape where
  folded : Bool
  chomping : Chomping
  column : Nat

/-- The lines read so far; characters are held in reverse. -/
structure Lines where
  seen : List Char := []
  /-- The break after the last line with text. -/
  lineBreak : List Char := []
  /-- The breaks of the empty lines after it. -/
  emptyLines : List Char := []
  /-- The last line with text began with blank space. -/
  spaced : Bool := false

/-- What stands between the last line with text and the next one. -/
def Lines.between (l : Lines) (folded : Bool) (spaced : Bool) : List Char :=
  if folded && l.lineBreak == ['\n'] && !l.spaced && !spaced then
    if l.emptyLines.isEmpty then [' '] else l.emptyLines
  else l.emptyLines ++ l.lineBreak

/-- The text of the lines once no more line follows. -/
def Lines.text (l : Lines) : Chomping → String
  | .strip => String.ofList l.seen.reverse
  | .clip => String.ofList (l.lineBreak ++ l.seen).reverse
  | .keep => String.ofList (l.emptyLines ++ l.lineBreak ++ l.seen).reverse

/-- Read on: within a line, or in the blank space before one. A tab in place of indentation is
refused. -/
def readFrom (shape : Shape) (lines : Lines) (inLine : Bool) (p : Position) :
    List Char → Option (String × Cursor)
  | [] => some (lines.text shape.chomping, ⟨p, []⟩)
  | c :: rest =>
    let next := p.after c
    if inLine then
      if isBreak c then readFrom shape { lines with lineBreak := [c] } false next rest
      else readFrom shape { lines with seen := c :: lines.seen } true next rest
    else if c = ' ' ∧ p.column < shape.column then readFrom shape lines false next rest
    else if c = '\t' ∧ p.column < shape.column then none
    else if isBreak c then
      readFrom shape { lines with emptyLines := c :: lines.emptyLines } false next rest
    else if p.column = shape.column then
      let seen := c :: lines.between shape.folded (isSpace c) ++ lines.seen
      readFrom shape { seen, spaced := isSpace c } true next rest
    else some (lines.text shape.chomping, ⟨p, c :: rest⟩)

/-- The empty lines at the start of a block and the column of its text: the widest column met
before the first line with text, beyond the margin. -/
def leading (margin : Nat) (widest : Nat) (emptyLines : List Char) (p : Position) :
    List Char → Option (List Char × Nat × Cursor)
  | [] => some (emptyLines, max (max widest p.column) (max margin 1), ⟨p, []⟩)
  | c :: rest =>
    if c = ' ' then leading margin widest emptyLines (p.after c) rest
    else
      let widest := max widest p.column
      if c = '\t' then none
      else if isBreak c then leading margin widest (c :: emptyLines) (p.after c) rest
      else some (emptyLines, max widest (max margin 1), ⟨p, c :: rest⟩)

/-- The text of the block after the indicator, and the place after it. The margin is the first
column beyond the collection around the block. -/
def read? (folded : Bool) (margin : Nat) (cursor : Cursor) : Option (String × Cursor) := do
  let (header, cursor) ← header? cursor
  let cursor ← cursor.endOfLine?
  match header.indentation with
  | some n =>
    readFrom ⟨folded, header.chomping, margin - 1 + n⟩ {} false cursor.position cursor.rest
  | none =>
    let (emptyLines, column, cursor) ← leading margin 0 [] cursor.position cursor.rest
    readFrom ⟨folded, header.chomping, column⟩ { emptyLines } false cursor.position cursor.rest

end BlockScalar

end OpenApiDoc.Yaml
