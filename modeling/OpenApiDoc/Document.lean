import OpenApiDoc.Definitions
import OpenApiDoc.Document.BooleanSchemas
import OpenApiDoc.Document.ConstSchemas
import OpenApiDoc.Document.InlineParameters
import OpenApiDoc.Document.InlineResponses
import OpenApiDoc.Notice
import OpenApiDoc.Operation.Decoding
import OpenApiDoc.Yaml.Value

/-!
# Documents

A document is read into its definitions and its operations. Four passes bring the dialects of
the format to one shape first. Then the parts are decoded in the order definitions, reusable
parts, paths; the first part that cannot be decoded fails the document, and nothing else does.

Parameters, request bodies and responses of an operation may reference reusable parts. A
reference that finds nothing stays as it is, with a notice.
-/

namespace OpenApiDoc

/-- Why a document cannot be read. -/
inductive LoadFault where
  /-- The text is no readable document. -/
  | unreadable
  /-- The document is no object. -/
  | rootNotObject
  /-- A part cannot be decoded. -/
  | undecodable (location : String) (fault : DecodeFault)

namespace LoadFault

/-- The wording. -/
def message : LoadFault → String
  | .unreadable => "General Error: Failed to parse OpenAPI YAML"
  | .rootNotObject => "General Error: OpenAPI document root must be an object"
  | .undecodable location fault =>
    "Conversion Error at '" ++ location ++ "': " ++ fault.message

end LoadFault

/-- The parts that operations may reference. -/
structure Reusables where
  parameters : List (String × Parameter) := []
  requestBodies : List (String × RequestBody) := []
  responses : List (String × Response) := []

/-- What is documented: the definitions and the operations of a document. -/
structure Document where
  definitions : Definitions := {}
  operations : List Operation := []

namespace Document

/-- A document in the shape that is decoded. -/
def unified (document : Json) : Json :=
  withLiftedResponses (withLiftedParameters (withoutConst (withoutBooleanSchemas document)))

/-! ### Decoding the parts -/

/-- Decode a part at a location. -/
def part {α : Type} (decode : Decoder α) (location : String) (value : Json) :
    Except LoadFault α :=
  match decode value with
  | .ok decoded => .ok decoded
  | .error fault => .error (.undecodable location fault)

/-- Decode the entries of a section in order. -/
def sectionEntries {α : Type} (decode : Decoder α) (location : String) :
    List (String × Json) → Except LoadFault (List (String × α))
  | [] => .ok []
  | (name, value) :: rest => do
    let decoded ← part decode (location ++ "." ++ name) value
    let more ← sectionEntries decode location rest
    pure ((name, decoded) :: more)

/-- Decode the section at a path of keys; a section that is missing or no object is empty. -/
def decodeSection {α : Type} (decode : Decoder α) (document : Json) (path : List String) :
    Except LoadFault (List (String × α)) :=
  sectionEntries decode (".".intercalate path)
    (((document.at? path).bind Json.entries?).getD [])

/-- Decode several sections into one, in which a later name replaces an earlier one. -/
def decodeSections {α : Type} (decode : Decoder α) (document : Json)
    (paths : List (List String)) : Except LoadFault (List (String × α)) := do
  let parts ← paths.mapM (decodeSection decode document)
  pure (Entries.ofList parts.flatten)

/-- The `$self` address of a document. -/
def selfAddress (document : Json) : Option String := (document.get? "$self").bind Json.str?

/-- Decode the definitions. -/
def decodeDefinitions (document : Json) : Except LoadFault Definitions := do
  let entries ←
    decodeSections Schema.decode document [["components", "schemas"], ["definitions"]]
  pure { Definitions.ofList entries with self := selfAddress document }

/-- Decode the reusable parts. -/
def decodeReusables (document : Json) : Except LoadFault Reusables := do
  let parameters ←
    decodeSections Parameter.decode document [["components", "parameters"], ["parameters"]]
  let requestBodies ←
    decodeSections RequestBody.decode document [["components", "requestBodies"]]
  let responses ←
    decodeSections Response.decode document [["components", "responses"], ["responses"]]
  pure { parameters, requestBodies, responses }

/-- An operation as decoded, with the parameters that its path shares among its operations. -/
structure RawOperation where
  shared : List Parameter
  operation : Operation

/-- Decode the operations of a path item by the methods that it has. -/
def decodeMethods (path : String) (item : Json) (shared : List Parameter) :
    List Method → Except LoadFault (List RawOperation)
  | [] => .ok []
  | method :: methods =>
    match item.get? method.key with
    | none => decodeMethods path item shared methods
    | some value => do
      let body ← part OperationBody.decode ("paths." ++ path ++ "." ++ method.key) value
      let more ← decodeMethods path item shared methods
      pure (⟨shared, { body with method, path }⟩ :: more)

/-- Decode the operations of a path item. -/
def decodePathItem (path : String) (item : Json) : Except LoadFault (List RawOperation) := do
  let shared ←
    match item.get? "parameters" with
    | none => pure []
    | some value =>
      part (Decoder.list Parameter.decode) ("paths." ++ path ++ ".parameters") value
  decodeMethods path item shared Method.all

/-- Decode the operations of all paths; vendor extensions and items that are no object are passed
over. -/
def decodePaths : List (String × Json) → Except LoadFault (List RawOperation)
  | [] => .ok []
  | (path, item) :: rest =>
    if isExtensionKey path || item.entries?.isNone then decodePaths rest
    else do
      let operations ← decodePathItem path item
      let more ← decodePaths rest
      pure (operations ++ more)

/-! ### Following references -/

/-- A parameter, or the reusable one that it references. -/
def followParameter (reusables : Reusables) (self : Option String) (p : Parameter) :
    Noted Parameter :=
  match p.reference with
  | none => pure p
  | some reference =>
    match (Reference.componentName? self "parameters" reference).bind
        fun name => Entries.get? name reusables.parameters with
    | some found => pure found
    | none => do
      Noted.say (.danglingParameter reference)
      pure p

/-- A request body, or the reusable one that it references. -/
def followRequestBody (reusables : Reusables) (self : Option String) (b : RequestBody) :
    Noted RequestBody :=
  match b.reference with
  | none => pure b
  | some reference =>
    match (Reference.componentName? self "requestBodies" reference).bind
        fun name => Entries.get? name reusables.requestBodies with
    | some found => pure found
    | none => do
      Noted.say (.danglingRequestBody reference)
      pure b

/-- A response, or the reusable one that it references. -/
def followResponse (reusables : Reusables) (self : Option String) (code : String)
    (r : Response) : Noted Response :=
  match r.reference with
  | none => pure r
  | some reference =>
    match (Reference.componentName? self "responses" reference).bind
        fun name => Entries.get? name reusables.responses with
    | some found => pure found
    | none => do
      Noted.say (.danglingResponse reference code)
      pure r

/-- The parameters of a path that an operation does not override by one of the same name and
location. -/
def notOverridden (shared own : List Parameter) : List Parameter :=
  shared.filter fun s => !own.any fun o => o.name == s.name && decide (o.location = s.location)

/-- The parameter that a request body makes: none for a body without content. -/
def bodyParameters (reusables : Reusables) (self : Option String) :
    Option RequestBody → Noted (List Parameter)
  | none => pure []
  | some body => do
    let body ← followRequestBody reusables self body
    if body.content.isEmpty then do
      Noted.say .emptyRequestBody
      pure []
    else pure [body.parameter]

/-- An operation with its references followed, the parameters of its path added before its own
and its body behind them. -/
def prepare (reusables : Reusables) (self : Option String) (raw : RawOperation) :
    Noted Operation := do
  let own ← raw.operation.parameters.mapM (followParameter reusables self)
  let shared ← raw.shared.mapM (followParameter reusables self)
  let body ← bodyParameters reusables self raw.operation.requestBody
  let responses ← raw.operation.responses.mapM fun entry => do
    let response ← followResponse reusables self entry.1 entry.2
    pure (entry.1, response)
  pure { raw.operation with
    parameters := notOverridden shared own ++ own ++ body
    responses }

/-! ### Loading -/

/-- Read a document in the unified shape. -/
def ofUnified (document : Json) : Except LoadFault (Noted Document) := do
  let definitions ← decodeDefinitions document
  let reusables ← decodeReusables document
  let raw ← decodePaths (((document.get? "paths").bind Json.entries?).getD [])
  pure do
    let operations ← raw.mapM (prepare reusables definitions.self)
    Noted.say (.loaded definitions.size operations.length)
    pure { definitions, operations }

/-- Read a document. -/
def load (document : Json) : Except LoadFault (Noted Document) :=
  match document with
  | .obj _ => ofUnified (unified document)
  | _ => .error .rootNotObject

/-- Read the document that a text holds in YAML. -/
def loadText (text : String) : Except LoadFault (Noted Document) :=
  match Yaml.jsonOfText? text with
  | some document => load document
  | none => .error .unreadable

/-- The first operation with this identity. -/
def operation? (d : Document) (id : String) : Option Operation :=
  d.operations.find? fun o => o.id == id

end Document

end OpenApiDoc
