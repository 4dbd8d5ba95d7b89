import OpenApiDoc.Yaml.BlockScalar
import OpenApiDoc.Yaml.PlainScalar
import OpenApiDoc.Yaml.QuotedScalar
import OpenApiDoc.Yaml.Tag

/-!
# Tokens of YAML text

Besides what is written, there are tokens for what the layout tells: where a collection of lines
begins and ends, and that a node on a line turns out to be a key.
-/

namespace OpenApiDoc.Yaml

/-- How a scalar is written. -/
inductive Style where
  | plain
  | quoted
  | literal
  | folded
deriving DecidableEq

/-- A token of YAML text. -/
inductive Token where
  | versionDirective (major minor : Nat)
  | tagDirective (handle : String) (start : Tag)
  | documentStart
  | documentEnd
  | blockSequenceStart
  | blockMappingStart
  | blockEnd
  | flowSequenceStart
  | flowSequenceEnd
  | flowMappingStart
  | flowMappingEnd
  | blockEntry
  | flowEntry
  | key
  | value
  | alias (name : String)
  | anchor (name : String)
  /-- A tag: its handle, and what stands after the handle. An empty handle goes
  with a whole tag. -/
  | tag (handle : String) (suffix : Tag)
  | scalar (style : Style) (text : String)
deriving DecidableEq

namespace Token

/-! ### Names -/

/-- Whether a name of a node may end before this text. -/
def endsName : List Char → Bool
  | [] => true
  | c :: _ => isGap c || ['?', ':', ',', ']', '\x7d', '%', '@', '\x60'].contains c

/-- The name after the indicator of an anchor or an alias. -/
def name? (cursor : Cursor) : Option (String × Cursor) :=
  let (name, after) := cursor.span isNameChar
  if name.isEmpty || !endsName after.rest then none else some (String.ofList name, after)

/-! ### Tags -/

/-- Whether a character may stand in a tag; between angle brackets more of them may. -/
def isTagChar (bracketed : Bool) (c : Char) : Bool :=
  isNameChar c || ";/?:@&=+$.%!~*'()".toList.contains c
    || (bracketed && [',', '[', ']'].contains c)

/-- How many octets follow the first octet of a character. -/
def octetsAfter? (octet : Nat) : Option Nat :=
  if octet < 0x80 then some 0
  else if octet < 0xC0 then none
  else if octet < 0xE0 then some 1
  else if octet < 0xF0 then some 2
  else if octet < 0xF8 then some 3
  else none

/-- The octets that the characters of a tag stand for; escaped octets come in
whole characters. -/
def tagOctets? (due : Nat) : List Char → Option (List Nat)
  | [] => if due = 0 then some [] else none
  | '%' :: high :: low :: rest => do
    let octet := 16 * (← hexValue? high) + (← hexValue? low)
    let due ←
      if due = 0 then octetsAfter? octet
      else if 0x80 ≤ octet ∧ octet < 0xC0 then some (due - 1)
      else none
    return octet :: (← tagOctets? due rest)
  | c :: rest =>
    if due = 0 ∧ c ≠ '%' then (tagOctets? 0 rest).map fun octets => c.toNat :: octets else none

/-- The octets of the part of a tag at a cursor, and the cursor after it. -/
def tagPart? (bracketed : Bool) (cursor : Cursor) : Option (List Nat × Cursor) :=
  let (part, after) := cursor.span (isTagChar bracketed)
  (tagOctets? 0 part).map fun octets => (octets, after)

/-- A part of a tag that is not empty. -/
def someTagPart? (bracketed : Bool) (cursor : Cursor) : Option (Tag × Cursor) :=
  ((tagPart? bracketed cursor).filter fun (octets, _) => !octets.isEmpty).map
    fun (octets, after) => (.ofOctets octets, after)

/-- The handle at a cursor: names between exclamation marks, of which the second one may be
missing. -/
def handle? (cursor : Cursor) : Option (List Char × Cursor) := do
  let cursor ← cursor.expect? '!'
  let (name, after) := cursor.span isNameChar
  match after.expect? '!' with
  | some closed => return ('!' :: name ++ ['!'], closed)
  | none => return ('!' :: name, after)

/-- Whether a handle has both of its exclamation marks. -/
def isClosedHandle (handle : List Char) : Bool :=
  1 < handle.length && handle.getLast? == some '!'

/-- The tag at a cursor, up to its end. -/
def openTag? (cursor : Cursor) : Option (Token × Cursor) :=
  match cursor.rest with
  | '!' :: '<' :: _ => do
    let (whole, after) ← someTagPart? true (cursor.skip 2)
    let after ← after.expect? '>'
    return (.tag "" whole, after)
  | _ => do
    let (handle, after) ← handle? cursor
    if isClosedHandle handle then
      let (suffix, after) ← someTagPart? false after
      return (.tag (String.ofList handle) suffix, after)
    else
      let (more, after) ← tagPart? false after
      let suffix := Tag.ofOctets (Text.Utf8.encode (handle.drop 1) ++ more)
      return (if suffix.isEmpty then .tag "" (.ofText "!") else .tag "!" suffix, after)

/-- The tag at a cursor. A gap follows it; within brackets a comma may follow. -/
def tag? (inFlow : Bool) (cursor : Cursor) : Option (Token × Cursor) :=
  (openTag? cursor).filter fun (_, after) =>
    atGap after.rest || (inFlow && startsWithAny [','] after.rest)

/-! ### Directives -/

/-- The part of a version number at a cursor, of at most nine digits. -/
def versionPart? (cursor : Cursor) : Option (Nat × Cursor) :=
  let (digits, after) := cursor.span Char.isDigit
  if digits.isEmpty || 9 < digits.length then none
  else some (digits.foldl (fun n c => 10 * n + (c.toNat - '0'.toNat)) 0, after)

/-- The directive at a cursor, up to the end of its line. -/
def directive? (cursor : Cursor) : Option (Token × Cursor) := do
  let (name, after) := (cursor.skip 1).span isNameChar
  let cursor := after.skipWhile isSpace
  if !atGap after.rest then none
  else
    match String.ofList name with
    | "YAML" =>
      let (major, after) ← versionPart? cursor
      let after ← after.expect? '.'
      let (minor, after) ← versionPart? after
      let after ← after.endOfLine?
      return (.versionDirective major minor, after)
    | "TAG" =>
      let (handle, after) ← handle? cursor
      if !isClosedHandle handle && handle.length != 1 then none
      else if !startsWithAny [' ', '\t'] after.rest then none
      else
        let (start, after) ← someTagPart? true (after.skipWhile isSpace)
        if !atGap after.rest then none
        else
          let after ← after.endOfLine?
          return (.tagDirective (String.ofList handle) start, after)
    | _ => none

end Token

end OpenApiDoc.Yaml
