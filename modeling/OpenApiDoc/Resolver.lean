import OpenApiDoc.Json.Writer
import OpenApiDoc.Model
import OpenApiDoc.Notice
import OpenApiDoc.ResolvedType

/-!
# Resolving schemas

A resolver turns models into resolved types. A reference is expanded into a link around the type
of its definition, under the name of the definition. The *chain* holds the definitions that are
being expanded; a reference to one of them, and a reference without a definition, becomes a link
around an empty object of its name. Each expansion lengthens the chain by a definition that is
not on it yet, so resolving ends on cyclic definitions too.

The branches of a composition are merged into one object.
-/

namespace OpenApiDoc

/-- The document that holds a definition; none for the current document. -/
abbrev LinkTargets := String → Option String

/-! ### Composition -/

namespace ObjectType

/-- The discriminator of the last object that has one. -/
def lastDiscriminator (objects : List ObjectType) : Option String :=
  objects.foldl (fun last o => o.discriminator <|> last) none

/-- The properties of objects merged: a name keeps the place of its first object and takes the
schema of its last one. -/
def mergeProperties (objects : List ObjectType) : List (String × Schema) :=
  objects.foldl (fun merged o => Entries.insertAll merged o.properties) []

/-- The objects among types. -/
def among (types : List ResolvedType) : List ObjectType :=
  types.filterMap fun t =>
    match t with
    | .object shape => some shape
    | _ => none

/-- The name of the last type that has one, else the title. -/
def lastName (title : Option String) (types : List ResolvedType) : Option String :=
  types.foldl (fun last t => t.name <|> last) title

/-- The object that branches make, of a schema with these annotations. A branch that is no object
has a say in the name only. -/
def compose (about : Annotations) (branches : List ResolvedType) : ObjectType :=
  let objects := among branches
  let names : TypeNames := { display := lastName about.title branches }
  match lastDiscriminator objects with
  | some discriminator =>
    { names, properties := mergeProperties objects, nature := .inheritance,
      discriminator := some discriminator }
  | none =>
    { names, properties := mergeProperties objects,
      nature := if 2 ≤ objects.length then .composition else .plain,
      discriminator := about.discriminator }

end ObjectType

/-! ### Resolution -/

/-- The text of an enumerated value: a string as it is, anything else as JSON. -/
def Json.enumLabel : Json → String
  | .str s => s
  | value => value.text

/-- What is needed to resolve a schema. -/
structure Resolver where
  definitions : Definitions
  links : LinkTargets

namespace Resolver

/-- A link to an empty object that stands for a definition. -/
def stub (r : Resolver) (name : String) : ResolvedType :=
  .linkTo (r.links name) (.object (.named name))

/-- A link to the type of a definition, under the name of the definition. -/
def linkTo (r : Resolver) (name : String) (inner : ResolvedType) : ResolvedType :=
  .linkTo (r.links name) (inner.withNames (.both name))

mutual

/-- Resolve a model while the definitions of the chain are being expanded. -/
def resolveIn (r : Resolver) (chain : List String) : Model → Noted ResolvedType
  | .primitive about kind format => pure (.basic { display := about.title } kind format)
  | .untyped about => pure (.basic { display := about.title } .untyped none)
  | .enum about kind values =>
    pure (.enum { display := about.title } kind (values.map Json.enumLabel))
  | .array about none => pure (.array { display := about.title } (.object {}) none)
  | .array about (some items) => do
    let element ← r.resolveIn chain items
    pure (.array { display := about.title } element none)
  | .map about value => do
    let value ← r.resolveIn chain value
    pure (.map { display := about.title } value)
  | .object about properties =>
    pure (.object
      { names := { display := about.title }, properties, discriminator := about.discriminator })
  | .composed about branches => do
    let types ← r.resolveBranches chain branches
    pure (.object (.compose about types))
  | .reference _ name _ => r.expand chain name
termination_by model => (r.definitions.unvisited chain, sizeOf model)

/-- Resolve the branches of a composition and take the types behind any links. -/
def resolveBranches (r : Resolver) (chain : List String) :
    List Model → Noted (List ResolvedType)
  | [] => pure []
  | branch :: rest => do
    let resolved ← r.resolveIn chain branch
    unless resolved.unwrap.isObject do Noted.say .branchSkipped
    let types ← r.resolveBranches chain rest
    pure (resolved.unwrap :: types)
termination_by branches => (r.definitions.unvisited chain, sizeOf branches)

/-- Expand a reference to a definition. -/
def expand (r : Resolver) (chain : List String) (name : String) : Noted ResolvedType :=
  match _ : r.definitions.get? name with
  | none => do
    Noted.say (.danglingDefinition name)
    pure (r.stub name)
  | some schema =>
    if _ : name ∈ chain then do
      Noted.say (.definitionReentered name)
      pure (r.stub name)
    else do
      let inner ← r.resolveIn (name :: chain) (schema.model r.definitions)
      pure (r.linkTo name inner)
termination_by (r.definitions.unvisited chain, 0)
decreasing_by exact Prod.Lex.left _ _ (Definitions.unvisited_cons_lt ‹_› ‹_›)

end

/-- Resolve a model. -/
def resolve (r : Resolver) (model : Model) : Noted ResolvedType := r.resolveIn [] model

/-- Resolve a schema. -/
def resolveSchema (r : Resolver) (schema : Schema) : Noted ResolvedType :=
  r.resolve (schema.model r.definitions)

/-- Resolve a reference to the definition of this name. -/
def resolveReference (r : Resolver) (name : String) : Noted ResolvedType := r.expand [] name

end Resolver

end OpenApiDoc
