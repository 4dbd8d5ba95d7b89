import OpenApiDoc.Json

/-!
# Constant schemas

The keyword `const` becomes an `enum` of one value, and the schema takes the type of that value,
unless it has an `enum` or a type of its own. What stands under `example`, `examples`, `default`
and `enum` is data and stays as it is, and so does the constant itself.
-/

namespace OpenApiDoc.Document

/-- The name of the type of a value. -/
def typeNameOf : Json → Option String
  | .str _ => some "string"
  | .bool _ => some "boolean"
  | .num (.integer _) => some "integer"
  | .num (.float _) => some "number"
  | .arr _ => some "array"
  | .obj _ => some "object"
  | .null => none

/-- Whether data stands under a key. -/
def holdsData (key : String) : Bool :=
  key == "example" || key == "examples" || key == "default" || key == "enum" || key == "const"

/-- The members of an object with `const` replaced. -/
def constToEnum (members : List (String × Json)) : List (String × Json) :=
  match Entries.get? "const" members with
  | none => members
  | some value =>
    let members := Entries.eraseSwap "const" members
    let members :=
      match typeNameOf value with
      | some name =>
        if Entries.has "type" members then members else Entries.insert "type" (.str name) members
      | none => members
    if Entries.has "enum" members then members else Entries.insert "enum" (.arr [value]) members

mutual

/-- A value with `const` replaced in every object outside of data. -/
def withoutConst : Json → Json
  | .obj members => .obj (constToEnum (withoutConstMembers members))
  | .arr items => .arr (withoutConstItems items)
  | value => value

/-- The members of an object with `const` replaced within them. -/
def withoutConstMembers : List (String × Json) → List (String × Json)
  | [] => []
  | (key, value) :: rest =>
    (key, if holdsData key then value else withoutConst value) :: withoutConstMembers rest

/-- The items of an array with `const` replaced within them. -/
def withoutConstItems : List Json → List Json
  | [] => []
  | value :: rest => withoutConst value :: withoutConstItems rest

end

end OpenApiDoc.Document
