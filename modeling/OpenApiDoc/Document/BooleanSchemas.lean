import OpenApiDoc.Json

/-!
# Boolean schemas

A schema may be written as a Boolean. `true` admits everything and becomes an empty
schema, `false` becomes an object that admits no properties. Schemas stand among the
definitions and under every key `schema` outside of them, and within a schema among its
properties, as its items, as its branches and as the schema of its additional properties;
there a Boolean is a flag and stays.
-/

namespace OpenApiDoc.Document

/-- The schema that a Boolean stands for. -/
def ofBoolean : Bool → Json
  | true => .obj []
  | false => .obj [("type", .str "object"), ("additionalProperties", .bool false)]

mutual

/-- A schema without Boolean schemas in it. -/
def plainSchema : Json → Json
  | .bool flag => ofBoolean flag
  | .obj members => .obj (plainMembers members)
  | value => value

/-- The keywords of a schema without Boolean schemas in them. -/
def plainMembers : List (String × Json) → List (String × Json)
  | [] => []
  | (key, value) :: rest => (key, plainKeyword key value) :: plainMembers rest

/-- The value of a keyword without Boolean schemas in it. -/
def plainKeyword (key : String) (value : Json) : Json :=
  if key = "properties" then
    match value with
    | .obj members => .obj (plainValues members)
    | value => value
  else if key = "allOf" then
    match value with
    | .arr items => .arr (plainItems items)
    | value => value
  else if key = "items" then plainValue false value
  else if key = "additionalProperties" then plainValue true value
  else value

/-- A schema as the value of a keyword; a Boolean may be a flag there. -/
def plainValue (flagged : Bool) : Json → Json
  | .bool flag => if flagged then .bool flag else ofBoolean flag
  | .obj members => .obj (plainMembers members)
  | value => value

/-- The schemas of a map. -/
def plainValues : List (String × Json) → List (String × Json)
  | [] => []
  | (key, value) :: rest => (key, plainSchema value) :: plainValues rest

/-- The schemas of a list. -/
def plainItems : List Json → List Json
  | [] => []
  | value :: rest => plainSchema value :: plainItems rest

end

mutual

/-- A part of a document with every schema under a key `schema` made plain. -/
def plainParts : Json → Json
  | .obj members => .obj (plainPartMembers members)
  | .arr items => .arr (plainPartItems items)
  | value => value

/-- The members of a part of a document. -/
def plainPartMembers : List (String × Json) → List (String × Json)
  | [] => []
  | (key, value) :: rest =>
    (key, if key = "schema" then plainSchema value else plainParts value)
      :: plainPartMembers rest

/-- The items of a part of a document. -/
def plainPartItems : List Json → List Json
  | [] => []
  | value :: rest => plainParts value :: plainPartItems rest

end

/-- A document without Boolean schemas. -/
def withoutBooleanSchemas (document : Json) : Json :=
  plainParts
    ((document.modify "components" (.modify "schemas" (.mapValues plainSchema))).modify
      "definitions" (.mapValues plainSchema))

end OpenApiDoc.Document
