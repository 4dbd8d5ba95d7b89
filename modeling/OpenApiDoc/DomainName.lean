import OpenApiDoc.DomainName.Direction
import OpenApiDoc.DomainName.Joining
import OpenApiDoc.DomainName.Mapping
import OpenApiDoc.DomainName.Punycode
import OpenApiDoc.Text.Segments
import OpenApiDoc.Unicode.Composition

/-!
# Domain names

A domain name is a list of labels. Two names are the same if their labels are the same once
capital letters and look-alikes are mapped, marks are composed and labels that are written
in Punycode are decoded. `DomainName.ofText?` gives the labels in that form. Labels in
Punycode begin with `xn--`.

The hyphens of a name are not checked, nor is its length: only a label beyond ASCII has a bound.
-/

namespace OpenApiDoc

/-- A domain name as its labels. -/
abbrev DomainName := List (List Char)

namespace DomainName

/-- Whether a text holds characters of ASCII only. -/
def isAscii (text : List Char) : Bool := text.all fun c => c.toNat < 0x80

/-- Whether a label beyond ASCII is one that a name can hold. -/
def isLabel (label : List Char) : Bool :=
  !label.head?.any Unicode.isMark && isJoined label

/-- Whether mapping and composing leave a label as it is. -/
def isMapped (label : List Char) : Bool :=
  label.all (fun c => mapped? c == some [c]) && Unicode.compose label == label

/-- The label that a mapped label stands for, if it can. A label in Punycode has to stand for one
that goes beyond ASCII and is mapped already. At most 1000 characters are written in Punycode,
and at most 2000 are read. -/
def labelOf? (label : List Char) : Option (List Char) :=
  if label.take 4 = ['x', 'n', '-', '-'] then
    if isAscii label && label.length ≤ 2000 then
      (Punycode.decode? (label.drop 4)).filter fun decoded =>
        !isAscii decoded && isMapped decoded && isLabel decoded
    else none
  else if isAscii label || (label.length ≤ 1000 && isLabel label) then some label
  else none

/-- The domain name that a text stands for. If one of its characters is written from right to
left, all its labels have to keep to one direction. -/
def ofText? (text : List Char) : Option DomainName := do
  let mapped := Unicode.compose (← mapText? text)
  if mapped.any isForbidden then none
  let labels ← (Text.segments (· == '.') mapped).mapM labelOf?
  if labels.any (fun label => label.any turnsLine) && !labels.all isOrdered then none
  return labels

end DomainName

end OpenApiDoc
