import OpenApiDoc.Document
import OpenApiDoc.Proofs.Json.Path

/-!
# Places of a document

What the value at a path of a document is read as, follows from the path alone. `Leads` says
which steps go from a value of one kind to a value of another; the paths from the document to a
schema are the places where schemas are read.

Media types, responses and operations may be written as the list of their fields, so some steps
go to an item of a list. Parameters and responses may be written the older way, with their
schemas among their own members; lifting moves those, but it does not come to every part.
-/

namespace OpenApiDoc.Document

open Json (Step Path)

/-- What a value in a document is read as. -/
inductive Place where
  | document
  | components
  /-- A map of names to schemas: a section of definitions, or the properties of a schema. -/
  | schemas
  /-- A schema. Where it may be a flag, a Boolean is no schema. -/
  | schema (orFlag : Bool)
  | branches
  | parameters
  /-- The parameters of a path. -/
  | sharedParameters
  /-- The parameters of an operation; `lifted` tells whether lifting comes to them. -/
  | ownParameters (lifted : Bool)
  | parameter (lifted : Bool)
  /-- A parameter as the schema that its inline keywords make. -/
  | inlineSchema
  | requestBodies
  | requestBody
  /-- A section of responses. -/
  | responses (lifted : Bool)
  /-- The responses of an operation. -/
  | codes (lifted : Bool)
  | response (lifted : Bool)
  | content
  | media
  /-- A response as the content that its schema and its examples make. -/
  | ownContent
  /-- A response as one of the media types that its schema and its examples make. -/
  | ownMedia (mime : String)
  | paths
  | pathItem
  | operation
deriving DecidableEq

/-- A step goes from a value that is read one way to a value that is read another way. -/
inductive Leads : Place → Step → Place → Prop
  | components : Leads .document (.key "components") .components
  | definitions : Leads .document (.key "definitions") .schemas
  | parameters : Leads .document (.key "parameters") .parameters
  | responses : Leads .document (.key "responses") (.responses true)
  | paths : Leads .document (.key "paths") .paths
  | newSchemas : Leads .components (.key "schemas") .schemas
  | newParameters : Leads .components (.key "parameters") .parameters
  | newRequestBodies : Leads .components (.key "requestBodies") .requestBodies
  | newResponses : Leads .components (.key "responses") (.responses false)
  | schema (name : String) : Leads .schemas (.key name) (.schema false)
  | properties (orFlag : Bool) : Leads (.schema orFlag) (.key "properties") .schemas
  | items (orFlag : Bool) : Leads (.schema orFlag) (.key "items") (.schema false)
  | allOf (orFlag : Bool) : Leads (.schema orFlag) (.key "allOf") .branches
  | additional (orFlag : Bool) :
      Leads (.schema orFlag) (.key "additionalProperties") (.schema true)
  | branch (i : Nat) : Leads .branches (.index i) (.schema false)
  | parameter (name : String) : Leads .parameters (.key name) (.parameter true)
  | sharedParameter (i : Nat) : Leads .sharedParameters (.index i) (.parameter true)
  | ownParameter (lifted : Bool) (i : Nat) :
      Leads (.ownParameters lifted) (.index i) (.parameter lifted)
  | parameterSchema (lifted : Bool) : Leads (.parameter lifted) (.key "schema") (.schema false)
  | inlineItems : Leads .inlineSchema (.key "items") (.schema false)
  | requestBody (name : String) : Leads .requestBodies (.key name) .requestBody
  | requestContent : Leads .requestBody (.key "content") .content
  | response (lifted : Bool) (name : String) :
      Leads (.responses lifted) (.key name) (.response lifted)
  | code (lifted : Bool) (code : String) (named : isExtensionKey code = false) :
      Leads (.codes lifted) (.key code) (.response lifted)
  | responseContent (lifted : Bool) : Leads (.response lifted) (.key "content") .content
  | listedContent (lifted : Bool) : Leads (.response lifted) (.index 2) .content
  | media (mime : String) : Leads .content (.key mime) .media
  | mediaSchema : Leads .media (.key "schema") (.schema false)
  | listedSchema : Leads .media (.index 0) (.schema false)
  | path (path : String) (named : isExtensionKey path = false) :
      Leads .paths (.key path) .pathItem
  | shared : Leads .pathItem (.key "parameters") .sharedParameters
  | operation (method : String) (known : method ∈ Method.all.map Method.key) :
      Leads .pathItem (.key method) .operation
  | ownParameters : Leads .operation (.key "parameters") (.ownParameters true)
  | operationBody : Leads .operation (.key "requestBody") .requestBody
  | codes : Leads .operation (.key "responses") (.codes true)
  | listedParameters : Leads .operation (.index 4) (.ownParameters false)
  | listedBody : Leads .operation (.index 5) .requestBody
  | listedCodes : Leads .operation (.index 6) (.codes false)

/-- A path goes from a value that is read one way to a value that is read another way. -/
inductive Route (a : Place) : Path → Place → Prop
  | nil : Route a [] a
  | concat {path : Path} {s : Step} {b c : Place} (route : Route a path b)
      (leads : Leads b s c) : Route a (path ++ [s]) c

/-- What stands at a path of a document is read as this. -/
abbrev Reads (path : Path) (a : Place) : Prop := Route .document path a

lemma Route.append {a b c : Place} {path path' : Path} (route : Route a path b)
    (route' : Route b path' c) : Route a (path ++ path') c := by
  induction route' with
  | nil => rwa [List.append_nil]
  | concat _ leads ih =>
    rw [← List.append_assoc]
    exact ih.concat leads

lemma Route.single {a b : Place} {s : Step} (leads : Leads a s b) : Route a [s] b :=
  Route.concat .nil leads

/-- From a schema that may be a flag, paths go where they go from any other schema. -/
lemma Route.of_flag {orFlag : Bool} {path : Path} {b : Place}
    (route : Route (.schema orFlag) path b) (orFlag' : Bool) :
    (path = [] ∧ b = .schema orFlag) ∨ Route (.schema orFlag') path b := by
  induction route with
  | nil => exact .inl ⟨rfl, rfl⟩
  | @concat path s b c _ leads ih =>
    rcases ih with ⟨rfl, rfl⟩ | route
    · refine .inr (.single (?_ : Leads (.schema orFlag') s c))
      cases leads with
      | properties => exact .properties orFlag'
      | items => exact .items orFlag'
      | allOf => exact .allOf orFlag'
      | additional => exact .additional orFlag'
    · exact .inr (route.concat leads)

/-- What holds of a value and is kept by every step holds wherever a path leads to. -/
lemma Route.holds {motive : Place → Json → Prop} {a b : Place} {path : Path} {v x : Json}
    (route : Route a path b) (start : motive a v)
    (step : ∀ {a b s v x}, Leads a s b → motive a v → v.child? s = some x → motive b x)
    (hx : v.follow? path = some x) : motive b x := by
  induction route generalizing x with
  | nil =>
    cases hx
    exact start
  | concat _ leads ih =>
    obtain ⟨w, hw, hchild⟩ := Json.follow?_concat_eq_some.1 hx
    exact step leads (ih hw) hchild

end OpenApiDoc.Document
