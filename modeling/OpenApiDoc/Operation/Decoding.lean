import OpenApiDoc.Operation

/-!
# Decoding operations

Parameters and request bodies keep unknown keywords and are written as objects. Media types,
responses and operations may also be written as the list of their fields.
-/

namespace OpenApiDoc

open Decoder

/-- A field that a list must reach. -/
def neededField {α β : Type} (name : String) (decode : Decoder β) (set : β → α → α) :
    RecordField α :=
  { name, hasDefault := false, assign := fun value r => (decode value).map fun v => set v r }

/-- A field that a list may leave out. -/
def defaultField {α β : Type} (name : String) (decode : Decoder β) (set : β → α → α) :
    RecordField α :=
  { name, hasDefault := true, assign := fun value r => (decode value).map fun v => set v r }

namespace Location

/-- A location. -/
def decode : Decoder Location := word fun name => .ok (ofWord name)

end Location

namespace Parameter

/-- The fields. -/
def fields : List (RecordField Parameter) :=
  [ neededField "$ref" (optional string) fun v p => { p with reference := v },
    defaultField "name" string fun v p => { p with name := v },
    neededField "in" (optional Location.decode) fun v p => { p with written := v },
    neededField "description" (optional string) fun v p => { p with description := v },
    defaultField "required" boolean fun v p => { p with required := v },
    neededField "schema" (optional Schema.decode) fun v p => { p with schema := v },
    neededField "style" (optional string) fun v p => { p with style := v },
    neededField "explode" (optional boolean) fun v p => { p with explode := v },
    neededField "collectionFormat" (optional string) fun v p => { p with collectionFormat := v },
    neededField "example" (optional any) fun v p => { p with authored := v },
    neededField "examples" (optional any) fun v p => { p with namedExamples := v } ]

/-- A parameter. -/
def decode : Decoder Parameter :=
  openRecord "ParameterNode" fields
    (fun key value p => { p with extra := Entries.insert key value p.extra }) {}

end Parameter

namespace MediaType

/-- The fields. -/
def fields : List (RecordField MediaType) :=
  [ neededField "schema" (optional Schema.decode) fun v m => { m with schema := v },
    neededField "example" (optional any) fun v m => { m with unnamedExample := v },
    neededField "examples" (optional (entries any)) fun v m => { m with namedExamples := v } ]

/-- A media type. -/
def decode : Decoder MediaType := record "MediaTypeNode" fields {}

end MediaType

namespace RequestBody

/-- The fields. -/
def fields : List (RecordField RequestBody) :=
  [ neededField "$ref" (optional string) fun v b => { b with reference := v },
    neededField "description" (optional string) fun v b => { b with description := v },
    defaultField "content" (entries MediaType.decode) fun v b => { b with content := v },
    defaultField "required" boolean fun v b => { b with required := v } ]

/-- A request body. -/
def decode : Decoder RequestBody :=
  openRecord "RequestBodyNode" fields
    (fun key value b => { b with extra := Entries.insert key value b.extra }) {}

end RequestBody

namespace Response

/-- The fields. -/
def fields : List (RecordField Response) :=
  [ neededField "$ref" (optional string) fun v r => { r with reference := v },
    defaultField "description" string fun v r => { r with description := v },
    defaultField "content" (entries MediaType.decode) fun v r => { r with content := v } ]

/-- A response. -/
def decode : Decoder Response := record "ResponseNode" fields {}

/-- The responses of an operation by their codes; vendor extensions among them are
passed over. -/
def decodeAll : List (String × Json) → Decoded (List (String × Response))
  | [] => .ok []
  | (code, value) :: rest =>
    if isExtensionKey code then decodeAll rest
    else
      match decode value with
      | .error fault => .error (.response code fault)
      | .ok response => (decodeAll rest).map fun more => (code, response) :: more

end Response

namespace OperationBody

/-- The responses, null for none. -/
def decodeResponses : Decoder (List (String × Response)) := fun value =>
  (optional (entries any) value).bind fun members => Response.decodeAll (members.getD [])

/-- The fields in the order of their declaration. -/
def fields : List (RecordField OperationBody) :=
  [ neededField "operationId" (optional string) fun v o => { o with operationId := v },
    neededField "summary" (optional string) fun v o => { o with summary := v },
    neededField "description" (optional string) fun v o => { o with description := v },
    defaultField "tags" (list string) fun v o => { o with tags := v },
    defaultField "parameters" (list Parameter.decode) fun v o => { o with parameters := v },
    neededField "requestBody" (optional RequestBody.decode) fun v o =>
      { o with requestBody := v },
    defaultField "responses" decodeResponses fun v o => { o with responses := v },
    defaultField "deprecated" boolean fun v o => { o with deprecated := v } ]

/-- An operation without its method and path. -/
def decode : Decoder OperationBody := record "OperationNode" fields {}

end OperationBody

end OpenApiDoc
