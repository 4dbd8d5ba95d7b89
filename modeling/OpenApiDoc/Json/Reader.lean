import OpenApiDoc.Json.Token

/-!
# Reading JSON text

The tokens are put together by a machine with a stack of open containers: one step per token.
A key that an object repeats keeps its first place and takes the last value.
-/

namespace OpenApiDoc.Json

/-- A container that is still open. -/
inductive OpenContainer where
  /-- The items so far, in reverse. -/
  | array (items : List Json)
  | object (entries : List (String × Json))
  /-- An object with the key whose value comes next. -/
  | member (entries : List (String × Json)) (key : String)

/-- What may come next. -/
inductive Expect where
  /-- A value. -/
  | value
  /-- A value, or the end of the array just opened. -/
  | valueOrClose
  /-- The key of a member. -/
  | key
  /-- The key of a member, or the end of the object just opened. -/
  | keyOrClose
  /-- The colon after a key. -/
  | colon
  /-- A comma or the end of the container; at the outside, the end of the text. -/
  | separator
deriving DecidableEq

/-- The open containers, innermost first, and the value once it is complete. -/
structure Builder where
  stack : List OpenContainer
  expect : Expect
  result : Option Json

namespace Builder

/-- Before the first token. -/
def initial : Builder := ⟨[], .value, none⟩

/-- Put a complete value into the innermost container. -/
def put (b : Builder) (value : Json) : Option Builder :=
  match b.stack with
  | [] => some ⟨[], .separator, some value⟩
  | .array items :: rest => some ⟨.array (value :: items) :: rest, .separator, none⟩
  | .member entries key :: rest =>
    some ⟨.object (Entries.insert key value entries) :: rest, .separator, none⟩
  | .object _ :: _ => none

/-- Take one token. -/
def step (b : Builder) (token : Token) : Option Builder :=
  match b.expect, token, b.stack with
  | .value, .scalar value, _ => b.put value
  | .valueOrClose, .scalar value, _ => b.put value
  | .value, .openArr, stack => some ⟨.array [] :: stack, .valueOrClose, none⟩
  | .valueOrClose, .openArr, stack => some ⟨.array [] :: stack, .valueOrClose, none⟩
  | .value, .openObj, stack => some ⟨.object [] :: stack, .keyOrClose, none⟩
  | .valueOrClose, .openObj, stack => some ⟨.object [] :: stack, .keyOrClose, none⟩
  | .valueOrClose, .closeArr, .array _ :: rest => put ⟨rest, .value, none⟩ (.arr [])
  | .key, .scalar (.str key), .object entries :: rest =>
    some ⟨.member entries key :: rest, .colon, none⟩
  | .keyOrClose, .scalar (.str key), .object entries :: rest =>
    some ⟨.member entries key :: rest, .colon, none⟩
  | .keyOrClose, .closeObj, .object _ :: rest => put ⟨rest, .value, none⟩ (.obj [])
  | .colon, .colon, stack => some ⟨stack, .value, none⟩
  | .separator, .comma, .array items :: rest => some ⟨.array items :: rest, .value, none⟩
  | .separator, .comma, .object entries :: rest => some ⟨.object entries :: rest, .key, none⟩
  | .separator, .closeArr, .array items :: rest => put ⟨rest, .value, none⟩ (.arr items.reverse)
  | .separator, .closeObj, .object entries :: rest => put ⟨rest, .value, none⟩ (.obj entries)
  | _, _, _ => none

end Builder

/-- The value that a list of tokens spells. -/
def ofTokens? (tokens : List Token) : Option Json :=
  (tokens.foldlM Builder.step Builder.initial).bind Builder.result

/-- The value that a JSON text spells. -/
def ofText? (text : String) : Option Json :=
  (Token.scan text.toList).bind ofTokens?

end OpenApiDoc.Json
