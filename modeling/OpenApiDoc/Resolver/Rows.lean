import OpenApiDoc.Config
import OpenApiDoc.Example.Generator
import OpenApiDoc.Resolver.Hoisting

/-!
# Property rows

The rows of the table that documents an object: one for each property, with its type, its
constraints and its example. Inline objects are hoisted out of the types of the properties.
-/

namespace OpenApiDoc

open Example (Draft Generator)

/-- A property of an object with its schema and whether the object requires it. -/
structure PropertyRequirement where
  name : String
  schema : Schema
  required : Bool

/-- The properties of an object with a list of required names. A required property loses the list
of its own schema, so that it is not marked twice. -/
def ObjectType.distribute (o : ObjectType) (required : List String) :
    List PropertyRequirement :=
  o.properties.map fun (name, schema) =>
    if required.contains name then ⟨name, { schema with required := [] }, true⟩
    else ⟨name, schema, false⟩

/-- A row of the table of an object. -/
structure PropertyRow where
  name : String
  type : ResolvedType
  required : Bool
  readOnly : Bool
  description : Option String
  default : Option Json
  /-- The authored example, or a generated one. -/
  sample : Option Json
  minLength : Option Nat
  maxLength : Option Nat
  pattern : Option String
  minimum : Option Binary64
  exclusiveMinimum : Bool
  maximum : Option Binary64
  exclusiveMaximum : Bool

namespace Resolver

/-- The type of a schema, with inline objects taken out where the configuration wants it. -/
def hoistedType (r : Resolver) (config : Config) (display unique : String) (s : Schema) :
    Noted (Hoisted ResolvedType) := do
  let type ← r.resolveSchema s
  if config.hoistsInline then type.hoist display unique else pure { value := type }

/-- The description of a schema, else that of the definition it references. -/
def description (r : Resolver) (s : Schema) : Option String :=
  match s.description with
  | some text => some text
  | none => (s.reference.bind r.definitions.lookup?).bind fun target => target.description

/-- The row of a property. The schema in the row may have lost its required list; the example is
made from the schema as the object holds it. -/
def row (r : Resolver) (g : Generator) (config : Config) (parent : String)
    (property : PropertyRequirement) (source : Schema) : Draft (Hoisted PropertyRow) := do
  let hoisted ← Draft.ofNoted
    (r.hoistedType config property.name (parent ++ " " ++ property.name) property.schema)
  let sample ← g.schemaExample source
  let s := property.schema
  pure
    { value :=
        { name := property.name
          type := hoisted.value
          required := property.required
          readOnly := s.readOnly.getD false
          description := r.description s
          default := s.default
          sample
          minLength := s.minLength
          maxLength := s.maxLength
          pattern := s.pattern
          minimum := s.lowerBound
          exclusiveMinimum := s.isExclusiveMinimum
          maximum := s.upperBound
          exclusiveMaximum := s.isExclusiveMaximum }
      inline := hoisted.inline }

/-- The rows of an object. Inline objects are named after the parent and the property. -/
def propertyRows (r : Resolver) (g : Generator) (config : Config) (parent : String)
    (o : ObjectType) (required : List String) : Draft (Hoisted (List PropertyRow)) := do
  let rows ← (o.distribute required).mapM fun property =>
    r.row g config parent property
      ((Entries.get? property.name o.properties).getD property.schema)
  pure { value := rows.map Hoisted.value, inline := rows.flatMap Hoisted.inline }

/-- The rows of a definition, if there is one and it is an object. -/
def definitionRows (r : Resolver) (g : Generator) (config : Config) (name : String) :
    Draft (Option (Hoisted (List PropertyRow))) :=
  match r.definitions.get? name with
  | none => pure none
  | some s => do
    let type ← Draft.ofNoted (r.resolveReference name)
    match type.object? with
    | none => pure none
    | some o =>
      some <$> r.propertyRows g config name o (r.definitions.requiredProperties s)

end Resolver

end OpenApiDoc
