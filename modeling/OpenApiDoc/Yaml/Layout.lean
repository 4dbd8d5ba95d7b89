import OpenApiDoc.Yaml.Token

/-!
# The layout of YAML text

A text is read one token at a time. What a token means depends on its column and on what is still
open: collections of lines are told by their columns, and a node on a line becomes a key only
when the colon after it is met. Then the token for the key is put in where the node began.
-/

namespace OpenApiDoc.Yaml

/-- A node that may turn out to be a key: where it began, whether its place on the line demands a
key, and how many tokens came before it. -/
structure KeyCandidate where
  position : Position
  demanded : Bool
  before : Nat

/-- Whether a key can no longer end at this place: a key stands on one line and
takes at most 1024 octets. -/
def KeyCandidate.isStale (k : KeyCandidate) (p : Position) : Bool :=
  k.position.line < p.line || k.position.index + 1024 < p.index

/-- A text that has been read up to a place. -/
structure Layout where
  cursor : Cursor
  /-- The columns of the open collections of lines, innermost first. -/
  columns : List Nat := []
  /-- The candidate for a key within the innermost brackets. -/
  candidate : Option KeyCandidate := none
  /-- The candidates outside of them, one for each open bracket. -/
  outer : List (Option KeyCandidate) := []
  /-- Whether a key may begin here. -/
  keyAllowed : Bool := true
  /-- The tokens read, in reverse, and their number. -/
  tokens : List Token := []
  count : Nat := 0

namespace Layout

/-- Whether the place is within brackets. -/
def inFlow (s : Layout) : Bool := !s.outer.isEmpty

/-- The first column beyond the innermost collection of lines. -/
def margin (s : Layout) : Nat := s.columns.head?.elim 0 (· + 1)

/-- The column of the place. -/
def column (s : Layout) : Nat := s.cursor.position.column

/-- Add a token. -/
def emit (t : Token) (s : Layout) : Layout :=
  { s with tokens := t :: s.tokens, count := s.count + 1 }

/-- Put a token in with `before` tokens before it. -/
def emitAt (t : Token) (before : Nat) (s : Layout) : Layout :=
  { s with tokens := s.tokens.insertIdx (s.count - before) t, count := s.count + 1 }

/-- Move on by some characters. -/
def advance (n : Nat) (s : Layout) : Layout := { s with cursor := s.cursor.skip n }

/-- Allow or forbid a key at the next place. -/
def allowKey (allowed : Bool) (s : Layout) : Layout := { s with keyAllowed := allowed }

/-! ### Collections of lines -/

/-- Open a collection of lines at a column, if it lies beyond the innermost one. -/
def openColumn (t : Token) (column before : Nat) (s : Layout) : Layout :=
  if s.inFlow || column < s.margin then s
  else { s.emitAt t before with columns := column :: s.columns }

/-- Close the collections of lines that a predicate on their columns selects. -/
def closeColumns (closes : Nat → Bool) (s : Layout) : Layout :=
  if s.inFlow then s
  else
    let closed := s.columns.takeWhile closes
    { closed.foldl (fun s _ => s.emit .blockEnd) s with columns := s.columns.drop closed.length }

/-- Close the collections of lines beyond a column. -/
def closeBeyond (column : Nat) (s : Layout) : Layout := s.closeColumns fun c => column < c

/-- Close all collections of lines. -/
def closeAll (s : Layout) : Layout := s.closeColumns fun _ => true

/-! ### Keys -/

/-- The candidate unless it is stale; a stale one must not be demanded. -/
def freshen (p : Position) : Option KeyCandidate → Option (Option KeyCandidate)
  | none => some none
  | some k => if !k.isStale p then some (some k) else if k.demanded then none else some none

/-- Drop the stale candidates. -/
def dropStale (s : Layout) : Option Layout := do
  let candidate ← freshen s.cursor.position s.candidate
  let outer ← s.outer.mapM (freshen s.cursor.position)
  return { s with candidate, outer }

/-- Give the innermost candidate up; it must not be demanded. -/
def dropCandidate (s : Layout) : Option Layout :=
  if s.candidate.any (·.demanded) then none else some { s with candidate := none }

/-- Note that a node begins here, where a key may begin. At the column of the innermost
collection of lines a key is demanded. -/
def noteCandidate (s : Layout) : Option Layout :=
  if s.keyAllowed then
    let demanded := !s.inFlow && s.columns.head? == some s.column
    s.dropCandidate.map fun s =>
      { s with candidate := some ⟨s.cursor.position, demanded, s.count⟩ }
  else some s

/-! ### Tokens -/

/-- A directive. -/
def directive (s : Layout) : Option Layout := do
  let s ← s.closeAll.dropCandidate
  let (t, cursor) ← Token.directive? s.cursor
  return ({ s with cursor }.allowKey false).emit t

/-- The start or the end of a document. -/
def documentMark (t : Token) (s : Layout) : Option Layout :=
  s.closeAll.dropCandidate.map fun s => ((s.allowKey false).advance 3).emit t

/-- An opening bracket. -/
def openFlow (t : Token) (s : Layout) : Option Layout :=
  s.noteCandidate.map fun s =>
    (({ s with candidate := none, outer := s.candidate :: s.outer }.allowKey
      true).advance 1).emit t

/-- A closing bracket. -/
def closeFlow (t : Token) (s : Layout) : Option Layout :=
  s.dropCandidate.map fun s =>
    let s :=
      match s.outer with
      | [] => s
      | candidate :: outer => { s with candidate, outer }
    ((s.allowKey false).advance 1).emit t

/-- A comma within brackets. -/
def flowEntry (s : Layout) : Option Layout :=
  s.dropCandidate.map fun s => ((s.allowKey true).advance 1).emit .flowEntry

/-- The dash of an item. -/
def blockEntry (s : Layout) : Option Layout :=
  if !s.inFlow && !s.keyAllowed then none
  else
    (s.openColumn .blockSequenceStart s.column s.count).dropCandidate.map fun s =>
      ((s.allowKey true).advance 1).emit .blockEntry

/-- The question mark of a key. -/
def keyIndicator (s : Layout) : Option Layout :=
  if !s.inFlow && !s.keyAllowed then none
  else
    (s.openColumn .blockMappingStart s.column s.count).dropCandidate.map fun s =>
      ((s.allowKey (!s.inFlow)).advance 1).emit .key

/-- The colon of a value: it makes a key of the candidate, or it follows a key with a question
mark. -/
def valueIndicator (s : Layout) : Option Layout :=
  match s.candidate with
  | some k =>
    let s := (s.emitAt .key k.before).openColumn .blockMappingStart k.position.column k.before
    some ((({ s with candidate := none }.allowKey false).advance 1).emit .value)
  | none =>
    if !s.inFlow && !s.keyAllowed then none
    else
      let s := s.openColumn .blockMappingStart s.column s.count
      some (((s.allowKey (!s.inFlow)).advance 1).emit .value)

/-- A token that may begin a key. -/
def nodePart (read : Layout → Option (Token × Cursor)) (s : Layout) : Option Layout := do
  let s ← s.noteCandidate
  let (t, cursor) ← read s
  return ({ s with cursor }.allowKey false).emit t

/-- An anchor or an alias. -/
def nameOf (token : String → Token) (s : Layout) : Option (Token × Cursor) :=
  (Token.name? (s.cursor.skip 1)).map fun (name, after) => (token name, after)

/-- A scalar between quotation marks. -/
def quotedOf (double : Bool) (s : Layout) : Option (Token × Cursor) :=
  (QuotedScalar.read? double (s.cursor.skip 1)).map fun (text, after) =>
    (.scalar .quoted text, after)

/-- A scalar without quotation marks. -/
def plainScalar (s : Layout) : Option Layout := do
  let s ← s.noteCandidate
  let scalar ← PlainScalar.read? ⟨s.inFlow, s.margin⟩ s.cursor
  let s := { s with cursor := scalar.after }.allowKey scalar.crossesLine
  return s.emit (.scalar .plain scalar.text)

/-- A scalar written as a block of lines. -/
def blockScalar (folded : Bool) (s : Layout) : Option Layout := do
  let s ← s.dropCandidate
  let (text, cursor) ← BlockScalar.read? folded s.margin (s.cursor.skip 1)
  let style := if folded then Style.folded else .literal
  return ({ s with cursor }.allowKey true).emit (.scalar style text)

/-- Whether a plain scalar may begin with this character. -/
def startsPlain (inFlow : Bool) (c : Char) (rest : List Char) : Bool :=
  if c = '-' then !(rest.head?.any isSpace)
  else if c = '?' ∨ c = ':' then !inFlow && !atGap rest
  else !isGap c && !(",[]\x7b\x7d#&*!|>'\"%@\x60".toList.contains c)

/-- The token that begins with the next character. -/
def token (s : Layout) (c : Char) (rest : List Char) : Option Layout :=
  if s.column = 0 ∧ c = '%' then s.directive
  else if s.cursor.atTriple '-' then s.documentMark .documentStart
  else if s.cursor.atTriple '.' then s.documentMark .documentEnd
  else if c = '[' then s.openFlow .flowSequenceStart
  else if c = '\x7b' then s.openFlow .flowMappingStart
  else if c = ']' then s.closeFlow .flowSequenceEnd
  else if c = '\x7d' then s.closeFlow .flowMappingEnd
  else if c = ',' then s.flowEntry
  else if c = '-' ∧ atGap rest then s.blockEntry
  else if c = '?' ∧ (s.inFlow || atGap rest) then s.keyIndicator
  else if c = ':' ∧ (s.inFlow || atGap rest) then s.valueIndicator
  else if c = '*' then s.nodePart (nameOf .alias)
  else if c = '&' then s.nodePart (nameOf .anchor)
  else if c = '!' then s.nodePart fun s => Token.tag? s.inFlow s.cursor
  else if c = '|' ∧ !s.inFlow then s.blockScalar false
  else if c = '>' ∧ !s.inFlow then s.blockScalar true
  else if c = '\'' then s.nodePart (quotedOf false)
  else if c = '"' then s.nodePart (quotedOf true)
  else if startsPlain s.inFlow c rest then s.plainScalar
  else none

/-! ### Between tokens -/

/-- Skip blank space, comments and ends of lines. Outside of brackets a key may begin on each new
line; where one may begin, a tab is no blank space. A byte order mark is skipped at the start of
a line and takes a column like any other character. -/
def skipFrom (inFlow allowed inComment : Bool) (p : Position) : List Char → Cursor × Bool
  | [] => (⟨p, []⟩, allowed)
  | c :: rest =>
    if isBreak c then skipFrom inFlow (allowed || !inFlow) false (p.after c) rest
    else if inComment || c == '#' then skipFrom inFlow allowed true (p.after c) rest
    else if c == ' ' || (c == '\t' && (inFlow || !allowed))
        || (c == byteOrderMark && p.column == 0) then
      skipFrom inFlow allowed false (p.after c) rest
    else (⟨p, c :: rest⟩, allowed)

/-- Skip what stands before the next token. -/
def toNextToken (s : Layout) : Layout :=
  let (cursor, keyAllowed) :=
    skipFrom s.inFlow s.keyAllowed false s.cursor.position s.cursor.rest
  { s with cursor, keyAllowed }

/-- Read on to the end of the text. A token takes at least one character, so that the number of
characters bounds the number of steps. -/
def run : Nat → Layout → Option (List Token)
  | 0, _ => none
  | steps + 1, s => do
    let s ← s.toNextToken.dropStale
    match s.cursor.rest with
    | [] => s.closeAll.dropCandidate.map fun s => s.tokens.reverse
    | c :: rest => run steps (← (s.closeBeyond s.column).token c rest)

end Layout

/-- The tokens of a text. -/
def Token.ofText? (text : String) : Option (List Token) :=
  (characters? text).bind fun chars =>
    Layout.run (chars.length + 1) { cursor := Cursor.start chars }

end OpenApiDoc.Yaml
