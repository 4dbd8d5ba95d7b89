import OpenApiDoc.Definitions
import OpenApiDoc.Kind

/-!
# Models

A model says what a schema is, in one of eight ways. The first rule that fits decides:

1. `allOf` makes a composition,
2. a reference makes a reference,
3. the kind `array` makes an array,
4. a schema of values without properties makes a map,
5. `enum` makes an enumeration,
6. properties, even none of them, make an object,
7. a declared kind makes a primitive, and anything else is untyped.

References are not followed.
-/

namespace OpenApiDoc

/-- What every model says about its schema. -/
structure Annotations where
  title : Option String := none
  description : Option String := none
  authored : Option Json := none
  default : Option Json := none
  required : List String := []
  discriminator : Option String := none

/-- A classified schema. -/
inductive Model where
  | primitive (about : Annotations) (kind : Kind) (format : Option String)
  /-- An array; the model of the items is absent when the schema declares none. -/
  | array (about : Annotations) (items : Option Model)
  | composed (about : Annotations) (branches : List Model)
  /-- A reference with the name of the definition that it stands for. -/
  | reference (about : Annotations) (name : String) (reference : String)
  | enum (about : Annotations) (kind : Kind) (values : List Json)
  | map (about : Annotations) (value : Model)
  | object (about : Annotations) (properties : List (String × Schema))
  | untyped (about : Annotations)

/-- What a schema says about itself. -/
def SchemaFacts.annotations (s : SchemaFacts) : Annotations where
  title := s.title
  description := s.description
  authored := s.authored
  default := s.default
  required := s.required
  discriminator := s.discriminatorName

namespace Model

/-- What the schema says about itself. -/
def about : Model → Annotations
  | .primitive about _ _ => about
  | .array about _ => about
  | .composed about _ => about
  | .reference about _ _ => about
  | .enum about _ _ => about
  | .map about _ => about
  | .object about _ => about
  | .untyped about => about

/-- The title for display. -/
def title (m : Model) : Option String := m.about.title

/-- The model of a schema without composition, reference, items and schema of values. -/
def ofLeaf (facts : SchemaFacts) (properties : Option (List (String × Schema))) : Model :=
  match facts.enum, properties, facts.kind with
  | some values, _, kind =>
    .enum facts.annotations ((kind.map Kind.ofTypeName).getD .string) values
  | none, some properties, _ => .object facts.annotations properties
  | none, none, some kind => .primitive facts.annotations (.ofTypeName kind) facts.format
  | none, none, none => .untyped facts.annotations

end Model

mutual

/-- What a schema is. -/
def Schema.model (d : Definitions) : Schema → Model
  | ⟨facts, properties, additional, items, allOf⟩ =>
    match allOf with
    | some branches => .composed facts.annotations (Schema.models d branches)
    | none =>
      match facts.reference with
      | some reference =>
        .reference facts.annotations (d.referenceName reference) reference
      | none =>
        if facts.isArray then
          match items with
          | some item => .array facts.annotations (some (item.model d))
          | none => .array facts.annotations none
        else
          match properties, additional with
          | none, some (.schema value) => .map facts.annotations (value.model d)
          | _, _ => .ofLeaf facts properties

/-- What the schemas of a list are. -/
def Schema.models (d : Definitions) : List Schema → List Model
  | [] => []
  | schema :: rest => schema.model d :: Schema.models d rest

end

end OpenApiDoc
