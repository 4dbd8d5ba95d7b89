import OpenApiDoc.Config
import OpenApiDoc.Definitions.Required
import OpenApiDoc.Example.Placeholder
import OpenApiDoc.Example.Visits
import OpenApiDoc.Link
import OpenApiDoc.Resolver

/-!
# Generated examples

An example of a schema is the authored one if there is one. Otherwise it is generated by
structure: a primitive by its placeholder, an array with one item, a map with one key, an object
property by property. A reference gives the example of its definition; on each way through the
schemas a definition is entered up to a limit, and then the text `...` stands for it.

Entering definitions is bounded, but the properties of a composition are reached without entering
anything, so a composition that holds itself in a property has no example. Generation therefore
has a *depth*, and stops without a result at depth zero. The depth given in `Generator.depth`
suffices wherever generation comes to an end.
-/

namespace OpenApiDoc.Example

/-- The switches of the generator. -/
structure Options where
  /-- Generate examples where none is authored. -/
  generates : Bool := false
  /-- Put optional properties into objects. -/
  showsOptionalProperties : Bool := true
  /-- Put optional query parameters into request paths. -/
  showsOptionalQuery : Bool := false
  limit : Limit := .standard
deriving DecidableEq

/-- The switches of a configuration. -/
def Options.ofConfig (c : Config) : Options where
  generates := c.generatesExamples
  showsOptionalProperties := c.showsOptionalProperties
  showsOptionalQuery := c.showsOptionalQuery

/-- What stands for a definition that has been entered as often as allowed. -/
def sentinel : Json := .str "..."

/-- An object with one key, for a map. -/
def mapWith (value : Json) : Json := .obj [("string", value)]

/-- A result with its notices, or none when the depth did not suffice. -/
abbrev Draft (α : Type) := OptionT Noted α

namespace Draft

/-- Make a notice. -/
def say (notice : Notice) : Draft Unit := OptionT.lift (Noted.say notice)

/-- A result that needs no depth. -/
def ofNoted {α : Type} (x : Noted α) : Draft α := OptionT.lift x

end Draft

/-- What is needed to make examples. -/
structure Generator where
  definitions : Definitions
  options : Options

namespace Generator

/-- A way to make the example of a schema that is reached after some visits. -/
abbrev Recur := Visits → Schema → Draft Json

/-- The resolver of compositions. -/
def resolver (g : Generator) : Resolver := ⟨g.definitions, .sameDocument⟩

/-- Whether a property takes part in an object example. -/
def shows (g : Generator) (required : List String) (name : String) : Bool :=
  g.options.showsOptionalProperties || required.contains name

/-- The example of an object: its properties in order. -/
def objectExample (g : Generator) (recur : Recur) (visits : Visits) (required : List String)
    (properties : List (String × Schema)) : Draft Json := do
  let entries ← (properties.filter fun p => g.shows required p.1).mapM fun p => do
    let value ← recur visits p.2
    pure (p.1, value)
  pure (.obj entries)

/-- The example of a composition: that of its merged object. -/
def composedExample (g : Generator) (recur : Recur) (visits : Visits) (s : Schema) :
    Draft Json := do
  let merged ← Draft.ofNoted (g.resolver.resolveSchema s)
  let properties := (merged.object?.map ObjectType.properties).getD []
  g.objectExample recur visits (g.definitions.requiredProperties s) properties

/-- The example of a definition that a reference reaches. -/
def referenceExample (g : Generator) (recur : Recur) (visits : Visits) (name : String) :
    Draft Json :=
  match g.definitions.get? name with
  | none => do
    Draft.say (.danglingExample name)
    pure (.str name)
  | some target =>
    match target.authored with
    | some value => pure value
    | none =>
      match visits.enter name g.options.limit with
      | some inner => recur inner target
      | none => do
        Draft.say (.exampleBounded name)
        pure sentinel

/-- The example of a schema that holds no example, composition, reference, items or values. -/
def leafExample (g : Generator) (recur : Recur) (visits : Visits) (s : Schema) : Draft Json :=
  match s.enum, s.properties with
  | some (first :: _), _ => pure first
  | _, some properties => g.objectExample recur visits s.required properties
  | _, none =>
    match s.default with
    | some value => pure value
    | none => pure (primitive s.kind s.format)

/-- The example of a schema, given a way to make those of the schemas in it. -/
def step (g : Generator) (recur : Recur) (visits : Visits) (s : Schema) : Draft Json :=
  match s.authored with
  | some value => pure value
  | none =>
    if s.allOf.isSome then g.composedExample recur visits s
    else
      match s.reference with
      | some reference =>
        g.referenceExample recur visits (g.definitions.referenceName reference)
      | none =>
        if s.isArray then
          match s.items with
          | some items => do
            let item ← recur visits items
            pure (.arr [item])
          | none => pure (.arr [.obj []])
        else if s.properties.isNone then
          match s.valueSchema with
          | some value => do
            let value ← recur visits value
            pure (mapWith value)
          | none => g.leafExample recur visits s
        else g.leafExample recur visits s

/-- The example of a schema, up to a depth. -/
def exampleWithin (g : Generator) : Nat → Recur
  | 0 => fun _ _ => failure
  | depth + 1 => g.step (g.exampleWithin depth)

/-- The example of a type, given a way to make those of schemas. -/
def typeExampleIn (g : Generator) (recur : Recur) (visits : Visits) : ResolvedType → Draft Json
  | .basic _ .untyped _ => pure (.str untypedText)
  | .basic _ .string format => pure (.str (stringText format))
  | .basic _ kind format => pure (primitive (some kind.text) format)
  | .enum _ _ [] => pure .null
  | .enum _ kind (first :: _) => Draft.ofNoted (convert first (some kind.text))
  | .array _ element _ => do
    let item ← g.typeExampleIn recur visits element
    pure (.arr [item])
  | .map _ value => do
    let value ← g.typeExampleIn recur visits value
    pure (mapWith value)
  | .object shape =>
    let definition := shape.names.identity.bind g.definitions.get?
    let required := (definition.map g.definitions.requiredProperties).getD []
    g.objectExample recur visits required shape.properties
  | .link names _ target =>
    match names.unique with
    | some name =>
      if g.definitions.contains name then g.referenceExample recur visits name
      else g.typeExampleIn recur visits target
    | none => g.typeExampleIn recur visits target

/-! ### The depth -/

/-- A depth that suffices for every example that comes to an end, of something made of so
many schemas: between two entries of definitions no schema repeats, and each definition is
entered up to the limit. -/
def depth (g : Generator) (schemas : Nat) : Nat :=
  (g.options.limit.val * g.definitions.size + 1)
    * (Schema.countEntries g.definitions.entries + schemas + 1)

/-- The number of schemas in a type. -/
def schemasIn : ResolvedType → Nat
  | .array _ element _ => schemasIn element
  | .map _ value => schemasIn value
  | .object shape => Schema.countEntries shape.properties
  | .link _ _ target => schemasIn target
  | .basic _ _ _ => 0
  | .enum _ _ _ => 0

/-! ### Examples of schemas, definitions and types -/

/-- The authored example of a schema, or of the definition that it references. -/
def authoredExample (g : Generator) (s : Schema) : Option Json :=
  match s.authored with
  | some value => some value
  | none => (s.reference.bind g.definitions.lookup?).bind fun target => target.authored

/-- The example of a schema, generated whatever the switches say. -/
def generate (g : Generator) (s : Schema) : Draft Json :=
  g.exampleWithin (g.depth s.count) {} s

/-- The authored example of a schema, else a generated one if examples are generated. -/
def schemaExample (g : Generator) (s : Schema) : Draft (Option Json) :=
  match g.authoredExample s with
  | some value => pure (some value)
  | none => if g.options.generates then some <$> g.generate s else pure none

/-- The example of a definition: the authored one, else a generated one if examples are
generated. -/
def definitionExample (g : Generator) (name : String) : Draft (Option Json) :=
  match g.definitions.get? name with
  | none => pure none
  | some target =>
    match target.authored with
    | some value => pure (some value)
    | none =>
      if g.options.generates then
        some <$> g.referenceExample (g.exampleWithin (g.depth 0)) {} name
      else pure none

/-- The example of a type. -/
def typeExample (g : Generator) (t : ResolvedType) : Draft Json :=
  g.typeExampleIn (g.exampleWithin (g.depth (schemasIn t))) {} t

end Generator

end OpenApiDoc.Example
