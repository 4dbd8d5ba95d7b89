import OpenApiDoc.Text.Utf8

/-!
# Tags

A tag names the type of a node. It is a sequence of octets, since its escapes may spell octets
that are no text, and it ends before the first octet that is zero.
-/

namespace OpenApiDoc.Yaml

/-- A tag, as octets. -/
structure Tag where
  octets : List Nat
deriving DecidableEq

namespace Tag

/-- The tag that octets spell. -/
def ofOctets (octets : List Nat) : Tag := ⟨octets.takeWhile (· != 0)⟩

/-- The tag that a text spells. -/
def ofText (text : String) : Tag := ofOctets (Text.Utf8.encode text.toList)

/-- The tag of a type of the core schema. -/
def core (type : String) : Tag := ofText ("tag:yaml.org,2002:" ++ type)

/-- Whether nothing is spelled. -/
def isEmpty (t : Tag) : Bool := t.octets.isEmpty

/-- A beginning and what follows it. -/
def append (start suffix : Tag) : Tag := ⟨start.octets ++ suffix.octets⟩

/-- Whether the tag begins with an exclamation mark. -/
def isMarked (t : Tag) : Bool := t.octets.head? == some 0x21

/-- The name of a type of the application itself: the text after the exclamation mark, or the
mark where nothing follows it. -/
def localName? (t : Tag) : Option String :=
  if t.isMarked then
    (Text.Utf8.decode? (if t.octets.length = 1 then t.octets else t.octets.drop 1)).map
      String.ofList
  else none

/-- Whether the tag names a type of the application itself. -/
def isLocal (t : Tag) : Bool := t.localName?.isSome

end Tag

end OpenApiDoc.Yaml
