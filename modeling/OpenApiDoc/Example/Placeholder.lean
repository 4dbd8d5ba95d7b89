import OpenApiDoc.Decimal.Reading
import OpenApiDoc.Json
import OpenApiDoc.Notice
import OpenApiDoc.Text.Blank

/-!
# Placeholders

The values that stand in examples for primitive schemas, and the reading of an example that is
written as text.
-/

namespace OpenApiDoc.Example

/-- The text that stands for a schema without structure. -/
def untypedText : String := "untyped"

/-- The text that stands for a string of a format. -/
def stringText : Option String → String
  | some "byte" => "Ynl0ZQ=="
  | some "date" => "1970-01-01"
  | some "date-time" => "1970-01-01T00:00:00Z"
  | some "email" => "email@example.com"
  | some "password" => "secret"
  | some "uuid" => "f81d4fae-7dec-11d0-a765-00a0c91e6bf6"
  | _ => "string"

/-- The value that stands for a declared kind; a kind without a meaning stands for itself. -/
def primitive (kind format : Option String) : Json :=
  match kind with
  | none => .str untypedText
  | some "untyped" => .str untypedText
  | some "string" => .str (stringText format)
  | some "integer" => .num (.integer ⟨0, by decide, by decide⟩)
  | some "number" => .num (.float (.zero false))
  | some "boolean" => .bool true
  | some "object" => .obj []
  | some other => .str other

/-- A text as a value of a declared kind: absent where the kind has no reading of its own, and
`none` within where the text does not spell a value of the kind. -/
def reading (text : List Char) : String → Option (Option Json)
  | "integer" =>
    some ((Decimal.readInt64 text).bind Integer.ofInt? |>.map fun n => .num (.integer n))
  | "number" =>
    some ((Decimal.readFloat text).map fun spelled =>
      match spelled with
      | .finite x => .num (.float x)
      | .infinite _ => .null
      | .notANumber => .null)
  | "boolean" =>
    some (if text = "true".toList then some (.bool true)
      else if text = "false".toList then some (.bool false)
      else none)
  | _ => none

/-- The value that the text of an example spells under a declared kind. White space around it
counts for nothing; a text that spells no such value is kept as a string. -/
def convert (text : String) (kind : Option String) : Noted Json :=
  match kind with
  | none => pure (.str text)
  | some kind =>
    match reading (Text.trim text.toList) kind with
    | none => pure (.str text)
    | some (some value) => pure value
    | some none => do
      Noted.say (.exampleKept text kind)
      pure (.str text)

end OpenApiDoc.Example
