import OpenApiDoc.Schema.Decoding

/-!
# Operations

An operation is bound to a method and a path template. Its parameters include the request body,
which takes part as a parameter named `Body`.
-/

namespace OpenApiDoc

/-- The methods of operations. -/
inductive Method where
  | get
  | put
  | post
  | delete
  | options
  | head
  | patch
  | trace
deriving DecidableEq

namespace Method

/-- All methods, in the order in which the operations of a path are listed. -/
def all : List Method := [.get, .put, .post, .delete, .options, .head, .patch, .trace]

/-- The key of the method in a path item. -/
def key : Method → String
  | .get => "get"
  | .put => "put"
  | .post => "post"
  | .delete => "delete"
  | .options => "options"
  | .head => "head"
  | .patch => "patch"
  | .trace => "trace"

/-- The method in capitals. -/
def text : Method → String
  | .get => "GET"
  | .put => "PUT"
  | .post => "POST"
  | .delete => "DELETE"
  | .options => "OPTIONS"
  | .head => "HEAD"
  | .patch => "PATCH"
  | .trace => "TRACE"

end Method

/-- Where a parameter goes. -/
inductive Location where
  | query
  | header
  | path
  | cookie
  | body
  | formData
  | other
deriving DecidableEq

namespace Location

/-- The location as a document writes it. -/
def text : Location → String
  | .query => "query"
  | .header => "header"
  | .path => "path"
  | .cookie => "cookie"
  | .body => "body"
  | .formData => "formData"
  | .other => "other"

/-- The location that a word names; a word without a meaning names another location. -/
def ofWord : String → Location
  | "query" => .query
  | "header" => .header
  | "path" => .path
  | "cookie" => .cookie
  | "body" => .body
  | "formData" => .formData
  | _ => .other

end Location

/-- A parameter. -/
structure Parameter where
  reference : Option String := none
  name : String := ""
  /-- The location, if one is written. -/
  written : Option Location := none
  description : Option String := none
  required : Bool := false
  schema : Option Schema := none
  style : Option String := none
  explode : Option Bool := none
  collectionFormat : Option String := none
  /-- The authored example. -/
  authored : Option Json := none
  /-- The authored examples with names. -/
  namedExamples : Option Json := none
  /-- The keywords that have no field of their own. -/
  extra : List (String × Json) := []
deriving Inhabited

namespace Parameter

/-- The location, the query unless written. -/
def location (p : Parameter) : Location := p.written.getD .query

/-- Whether the parameter is the body of the request. -/
def isBody (p : Parameter) : Bool := p.location = .body

/-- The value of a vendor extension. -/
def extension (p : Parameter) (key : String) : Option Json :=
  if isExtensionKey key then Entries.get? key p.extra else none

end Parameter

/-- What a body holds under one media type. -/
structure MediaType where
  schema : Option Schema := none
  unnamedExample : Option Json := none
  namedExamples : Option (List (String × Json)) := none
deriving Inhabited

/-- The value of an Example Object: its member `value`, or all of it. -/
def Json.exampleValue (value : Json) : Json := (value.get? "value").getD value

namespace MediaType

/-- The authored example: the value of the first one with a name, else the one without. -/
def authored (m : MediaType) : Option Json :=
  match m.namedExamples with
  | some ((_, first) :: _) => some first.exampleValue
  | _ => m.unnamedExample

end MediaType

/-- The first media type of a content map. -/
def firstMedia (content : List (String × MediaType)) : Option MediaType :=
  content.head?.map Prod.snd

/-- A request body. -/
structure RequestBody where
  reference : Option String := none
  description : Option String := none
  content : List (String × MediaType) := []
  required : Bool := false
  extra : List (String × Json) := []
deriving Inhabited

namespace RequestBody

/-- The body as a parameter of its operation, of its first media type. -/
def parameter (b : RequestBody) : Parameter :=
  let media := firstMedia b.content
  { reference := b.reference
    name := "Body"
    written := some .body
    description := b.description
    required := b.required
    schema := media.bind MediaType.schema
    authored := media.bind MediaType.authored
    extra := b.extra }

end RequestBody

/-- A response. -/
structure Response where
  reference : Option String := none
  description : String := ""
  content : List (String × MediaType) := []
deriving Inhabited

/-- An operation without its method and path. -/
structure OperationBody where
  operationId : Option String := none
  summary : Option String := none
  description : Option String := none
  tags : List String := []
  parameters : List Parameter := []
  requestBody : Option RequestBody := none
  responses : List (String × Response) := []
  deprecated : Bool := false
deriving Inhabited

/-- An operation. -/
structure Operation extends OperationBody where
  method : Method
  path : String

namespace Operation

/-- The identity of the operation: its declared id, else path and method. -/
def id (o : Operation) : String := o.operationId.getD (o.path ++ " " ++ o.method.key)

/-- The title for display: the summary, else the identity. -/
def title (o : Operation) : String := o.summary.getD o.id

end Operation

end OpenApiDoc
