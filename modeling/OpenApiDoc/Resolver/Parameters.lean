import OpenApiDoc.Config
import OpenApiDoc.Operation
import OpenApiDoc.Resolver
import OpenApiDoc.Resolver.Hoisting

/-!
# Types of parameters, responses and definitions

Each type comes with the inline objects that were taken out of it, if the configuration wants
that.
-/

namespace OpenApiDoc

/-- How a parameter writes an array: by its `collectionFormat`, else by its style, which depends
on the location unless written. -/
def Parameter.collection (p : Parameter) : Option CollectionFormat :=
  match p.collectionFormat.bind CollectionFormat.ofWord with
  | some format => some format
  | none =>
    let usual :=
      match p.location with
      | .query => "form"
      | .cookie => "form"
      | _ => "simple"
    CollectionFormat.ofStyle (p.style.getD usual) p.explode

namespace Resolver

/-- The type of a schema as that of a parameter: an enumeration is named after the parameter, an
array is written as the parameter says. -/
def asParameter (p : Parameter) : ResolvedType → ResolvedType
  | .enum names kind values => .enum { names with display := some p.name } kind values
  | .array names element _ => .array names element p.collection
  | t => t

/-- The type of a parameter before hoisting. -/
def bareParameterType (r : Resolver) (p : Parameter) : Noted ResolvedType :=
  match p.reference with
  | some reference => pure (r.stub (r.definitions.referenceName reference))
  | none =>
    match p.schema with
    | none =>
      let kind : Kind := if p.isBody then .string else .untyped
      pure (.basic { display := some p.name } kind none)
    | some s =>
      if p.isBody then r.resolveSchema s else asParameter p <$> r.resolveSchema s

/-- The type of a parameter of an operation. With flat bodies an object stays where it is. -/
def parameterType (r : Resolver) (config : Config) (o : Operation) (p : Parameter) :
    Noted (Hoisted ResolvedType) := do
  let type ← r.bareParameterType p
  if !config.hoistsInline || (config.flatBody && type.isObject) then pure { value := type }
  else type.hoist p.name (o.id ++ " " ++ p.name)

/-- The type of a response of an operation, from its first media type. -/
def responseType (r : Resolver) (config : Config) (o : Operation) (code : String) :
    Noted (Option (Hoisted ResolvedType)) :=
  match (Entries.get? code o.responses).bind fun response => firstMedia response.content with
  | none => pure none
  | some media =>
    match media.schema with
    | none => pure none
    | some s => do
      let type ← r.resolveSchema s
      if config.hoistsInline then
        let name := "Response " ++ code
        some <$> type.hoist name (o.id ++ " " ++ name)
      else pure (some { value := type })

/-- The type of a definition, behind any links. An object stays where it is. -/
def definitionType (r : Resolver) (config : Config) (name : String) :
    Noted (Hoisted ResolvedType) := do
  let type ← r.resolveReference name
  let type := type.unwrap
  if type.isObject || !config.hoistsInline then pure { value := type }
  else type.hoist name (name ++ " inline")

end Resolver

end OpenApiDoc
