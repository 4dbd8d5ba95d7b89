import OpenApiDoc.Yaml.Cursor
import OpenApiDoc.Yaml.Gap

/-!
# Scalars without quotation marks

A plain scalar ends before a comment, before a colon that stands at the end of a word, before a
line that goes back to the margin, and, within brackets, before a bracket or a comma.
-/

namespace OpenApiDoc.Yaml

/-- A plain scalar, the place after it, and whether the lines after it have been
passed as well. -/
structure PlainScalar where
  text : String
  after : Cursor
  crossesLine : Bool

namespace PlainScalar

/-- Where a plain scalar stands: within brackets or not, and the first column that is not yet the
margin. -/
structure Place where
  inFlow : Bool
  margin : Nat

/-- Whether the scalar ends before this text because of its next character. -/
def endsBefore (place : Place) (c : Char) (rest : List Char) : Bool :=
  (c == ':' && atGap rest) || (place.inFlow && [',', '[', ']', '\x7b', '\x7d'].contains c)

/-- Whether a word begins here that does not belong to the scalar. -/
def stopsAt (place : Place) (cursor : Cursor) : Bool :=
  (!place.inFlow && cursor.position.column < place.margin)
    || cursor.atDocumentMark || cursor.rest.head? == some '#'

/-- Read on after `seen`, which is held in reverse, and a gap. -/
def readFrom (place : Place) (seen : List Char) (gap : Gap) (p : Position) :
    List Char → Option PlainScalar
  | [] => some ⟨String.ofList seen.reverse, ⟨p, []⟩, gap.isMultiline⟩
  | c :: rest =>
    let done : PlainScalar := ⟨String.ofList seen.reverse, ⟨p, c :: rest⟩, gap.isMultiline⟩
    if isGap c then
      if c = '\t' ∧ gap.isMultiline ∧ p.column < place.margin then none
      else readFrom place seen (gap.add c) (p.after c) rest
    else if !gap.isEmpty && stopsAt place ⟨p, c :: rest⟩ then some done
    else if place.inFlow && c == ':'
        && startsWithAny [',', '?', '[', ']', '\x7b', '\x7d'] rest then none
    else if endsBefore place c rest then some done
    else readFrom place (c :: gap.text.reverse ++ seen) {} (p.after c) rest

/-- The plain scalar at a cursor. -/
def read? (place : Place) (cursor : Cursor) : Option PlainScalar :=
  readFrom place [] {} cursor.position cursor.rest

end PlainScalar

end OpenApiDoc.Yaml
