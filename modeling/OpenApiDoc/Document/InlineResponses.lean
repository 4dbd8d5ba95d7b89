import OpenApiDoc.Json

/-!
# Responses with inline schemas

A response may carry its schema, and examples by media type, itself. They are moved under the key
`content`: one media type for each example, each with the schema, or the type `*/*` for a schema
without examples.
-/

namespace OpenApiDoc.Document

/-- A media type with a schema, if there is one, and an example. -/
def mediaWith (schema : Option Json) (sample : Json) : Json :=
  match schema with
  | some s => .obj [("schema", s), ("example", sample)]
  | none => .obj [("example", sample)]

/-- The content of a response with this schema and these examples. -/
def contentOf (schema samples : Option Json) : List (String × Json) :=
  match (samples.bind Json.entries?).getD [], schema with
  | [], some s => [("*/*", .obj [("schema", s)])]
  | [], none => []
  | byType, _ => Entries.mapValues (mediaWith schema) byType

/-- The members of a response with schema and examples moved under `content`. -/
def liftContent (members : List (String × Json)) : List (String × Json) :=
  if Entries.has "content" members || Entries.has "$ref" members then members
  else
    let schema := Entries.get? "schema" members
    let samples := Entries.get? "examples" members
    if schema.isNone && samples.isNone then members
    else
      Entries.insert "content" (.obj (contentOf schema samples))
        (Entries.eraseSwap "examples" (Entries.eraseSwap "schema" members))

/-- A response with its content moved. -/
def liftResponse : Json → Json := .mapEntries liftContent

/-- A document with the content of the responses in its paths and in its own section moved. -/
def withLiftedResponses (document : Json) : Json :=
  (document.modify "responses" (.mapValues liftResponse)).modify "paths"
    (.mapValues (.mapValues (.modify "responses" (.mapValues liftResponse))))

end OpenApiDoc.Document
