/-!
# Kinds

The kind of a primitive value is the type name that a schema declares. Names without a meaning of
their own are kept as they are, and a schema that says nothing about its structure is untyped.
-/

namespace OpenApiDoc

/-- The kind of a primitive value. -/
inductive Kind where
  | string
  | integer
  | number
  | boolean
  /-- An object declared without properties. -/
  | object
  /-- An uploaded file. -/
  | file
  | null
  /-- No structural information at all. -/
  | untyped
  | other (name : String)
deriving DecidableEq

namespace Kind

/-- The kind of a declared type name. -/
def ofTypeName : String → Kind
  | "string" => .string
  | "integer" => .integer
  | "number" => .number
  | "boolean" => .boolean
  | "object" => .object
  | "file" => .file
  | "null" => .null
  | name => .other name

/-- The kind as a document writes it. -/
def text : Kind → String
  | .string => "string"
  | .integer => "integer"
  | .number => "number"
  | .boolean => "boolean"
  | .object => "object"
  | .file => "file"
  | .null => "null"
  | .untyped => "untyped"
  | .other name => name

end Kind

end OpenApiDoc
