import OpenApiDoc.Decoding
import OpenApiDoc.Schema

/-!
# Decoding schemas

A Schema Object is read as the list of its keywords, in order, and the schema is put together
from them. A keyword whose value is null counts as absent.
-/

namespace OpenApiDoc

/-- A keyword of a schema with its value. -/
inductive Keyword where
  | reference (value : Option String)
  | type (value : Option TypeDecl)
  | format (value : Option String)
  | title (value : Option String)
  | description (value : Option String)
  | properties (value : Option (List (String × Schema)))
  | additional (value : Option (AdditionalProperties Schema))
  | items (value : Option Schema)
  | enum (value : Option (List Json))
  | allOf (value : Option (List Schema))
  | discriminator (value : Option Discriminator)
  | required (value : List String)
  | default (value : Option Json)
  | authored (value : Option Json)
  | minimum (value : Option Binary64)
  | maximum (value : Option Binary64)
  | exclusiveMinimum (value : Option ExclusiveBound)
  | exclusiveMaximum (value : Option ExclusiveBound)
  | minLength (value : Option Nat)
  | maxLength (value : Option Nat)
  | minItems (value : Option Nat)
  | maxItems (value : Option Nat)
  | pattern (value : Option String)
  | readOnly (value : Option Bool)
  | extra (name : String) (value : Json)

namespace Keyword

/-- The schema with a keyword added. -/
def addTo (s : Schema) : Keyword → Schema
  | .reference value => { s with reference := value }
  | .type value => { s with type := value }
  | .format value => { s with format := value }
  | .title value => { s with title := value }
  | .description value => { s with description := value }
  | .properties value => { s with properties := value }
  | .additional value => { s with additional := value }
  | .items value => { s with items := value }
  | .enum value => { s with enum := value }
  | .allOf value => { s with allOf := value }
  | .discriminator value => { s with discriminator := value }
  | .required value => { s with required := value }
  | .default value => { s with default := value }
  | .authored value => { s with authored := value }
  | .minimum value => { s with minimum := value }
  | .maximum value => { s with maximum := value }
  | .exclusiveMinimum value => { s with exclusiveMinimum := value }
  | .exclusiveMaximum value => { s with exclusiveMaximum := value }
  | .minLength value => { s with minLength := value }
  | .maxLength value => { s with maxLength := value }
  | .minItems value => { s with minItems := value }
  | .maxItems value => { s with maxItems := value }
  | .pattern value => { s with pattern := value }
  | .readOnly value => { s with readOnly := value }
  | .extra name value => { s with extra := Entries.insert name value s.extra }

end Keyword

namespace Schema

open Decoder

/-- The schema of a list of keywords. -/
def ofKeywords (keywords : List Keyword) : Schema := keywords.foldl Keyword.addTo {}

/-! ### Keywords without schemas -/

/-- Null, or a value of which only some forms are known. -/
def formOf {α : Type} (keyword : String) (read : Json → Option α) : Decoder (Option α)
  | .null => .ok none
  | value =>
    match read value with
    | some form => .ok (some form)
    | none => .error (.noForm keyword)

/-- All the strings of a list of values. -/
def strings? (items : List Json) : Option (List String) := items.mapM Json.str?

/-- The forms of `type`. -/
def typeForm? : Json → Option TypeDecl
  | .str name => some (.single name)
  | .arr items => (strings? items).map .several
  | _ => none

/-- The forms of an exclusive bound. -/
def boundForm? : Json → Option ExclusiveBound
  | .bool exclusive => some (.flag exclusive)
  | .num (.integer n) => some (.value n.toBinary64)
  | .num (.float x) => some (.value x)
  | _ => none

/-- The references of a discriminator mapping. -/
def mapping? : Option Json → Option (List (String × String))
  | none => some []
  | some (.obj members) =>
    members.mapM fun member => member.2.str?.map fun target => (member.1, target)
  | some _ => none

/-- The forms of `discriminator`. -/
def discriminatorForm? : Json → Option Discriminator
  | .str property => some (.name property)
  | .obj members =>
    match (Entries.get? "propertyName" members).bind Json.str?,
        mapping? (Entries.get? "mapping" members) with
    | some property, some mapping => some (.mapped property mapping)
    | _, _ => none
  | _ => none

/-- The forms of `required`: a list of names, or a stray flag that names nothing. -/
def requiredForm? : Json → Option (List String)
  | .arr items => strings? items
  | .bool _ => some []
  | _ => none

/-- A keyword that holds no schema. -/
def plainKeyword (name : String) (value : Json) : Decoded Keyword :=
  match name with
  | "$ref" => (optional string value).map .reference
  | "type" => (formOf "SchemaTypeDecl" typeForm? value).map .type
  | "format" => (optional string value).map .format
  | "title" => (optional string value).map .title
  | "description" => (optional string value).map .description
  | "enum" => (optional (list any) value).map .enum
  | "discriminator" => (formOf "Discriminator" discriminatorForm? value).map .discriminator
  | "required" =>
    (formOf "RequiredDecl" requiredForm? value).map fun names => .required (names.getD [])
  | "default" => (optional any value).map .default
  | "example" => (optional any value).map .authored
  | "minimum" => (optional float value).map .minimum
  | "maximum" => (optional float value).map .maximum
  | "exclusiveMinimum" => (formOf "ExclusiveBound" boundForm? value).map .exclusiveMinimum
  | "exclusiveMaximum" => (formOf "ExclusiveBound" boundForm? value).map .exclusiveMaximum
  | "minLength" => (optional natural value).map .minLength
  | "maxLength" => (optional natural value).map .maxLength
  | "minItems" => (optional natural value).map .minItems
  | "maxItems" => (optional natural value).map .maxItems
  | "pattern" => (optional string value).map .pattern
  | "readOnly" => (optional boolean value).map .readOnly
  | name => .ok (.extra name value)

/-! ### Keywords with schemas -/

/-- A keyword that holds schemas. -/
inductive Nesting where
  | properties
  | additional
  | items
  | allOf

/-- The keywords that hold schemas. -/
def nesting? : String → Option Nesting
  | "properties" => some .properties
  | "additionalProperties" => some .additional
  | "items" => some .items
  | "allOf" => some .allOf
  | _ => none

/-- Where a schema was expected. -/
def refuseSchema {α : Type} (value : Json) : Decoded α := refuse value (.record "SchemaNode")

/-- A keyword that holds schemas, with a value that is neither an object nor a list. -/
def nestingOfScalar (nesting : Nesting) (value : Json) : Decoded Keyword :=
  match nesting, value with
  | .properties, .null => .ok (.properties none)
  | .properties, value => refuse value .map
  | .additional, .null => .ok (.additional none)
  | .additional, .bool allowed => .ok (.additional (some (.flag allowed)))
  | .additional, _ => .error (.noForm "AdditionalProperties")
  | .items, .null => .ok (.items none)
  | .items, value => refuseSchema value
  | .allOf, .null => .ok (.allOf none)
  | .allOf, value => refuse value .sequence

mutual

/-- One keyword. -/
def keyword (name : String) (value : Json) : Decoded Keyword :=
  match nesting? name with
  | none => plainKeyword name value
  | some nesting =>
    match value with
    | .obj members =>
      match nesting with
      | .properties => (named members).map fun schemas => .properties (some schemas)
      | .additional =>
        match keywords members with
        | .ok inner => .ok (.additional (some (.schema (ofKeywords inner))))
        | .error _ => .error (.noForm "AdditionalProperties")
      | .items => (keywords members).map fun inner => .items (some (ofKeywords inner))
      | .allOf => refuse (.obj members) .sequence
    | .arr items =>
      match nesting with
      | .properties => refuse (.arr items) .map
      | .additional => .error (.noForm "AdditionalProperties")
      | .items => refuseSchema (.arr items)
      | .allOf => (branches items).map fun schemas => .allOf (some schemas)
    | value => nestingOfScalar nesting value

/-- The keywords of a Schema Object, in order. -/
def keywords : List (String × Json) → Decoded (List Keyword)
  | [] => .ok []
  | (name, value) :: rest =>
    (keyword name value).bind fun first =>
      (keywords rest).map fun more => first :: more

/-- The schemas of a map of names. -/
def named : List (String × Json) → Decoded (List (String × Schema))
  | [] => .ok []
  | (name, value) :: rest =>
    (decode value).bind fun first =>
      (named rest).map fun more => (name, first) :: more

/-- The schemas of a list. -/
def branches : List Json → Decoded (List Schema)
  | [] => .ok []
  | value :: rest =>
    (decode value).bind fun first =>
      (branches rest).map fun more => first :: more

/-- A schema. -/
def decode : Json → Decoded Schema
  | .obj members => (keywords members).map ofKeywords
  | value => refuseSchema value

end

end Schema

end OpenApiDoc
