import OpenApiDoc.Kind
import OpenApiDoc.Schema

/-!
# Resolved types

A resolved type is the shape of a schema as documentation shows it. Every type has a display name
and a unique name, both optional; where the unique name is absent the display name identifies the
type. A link stands for another type, which may be documented in another document.
-/

namespace OpenApiDoc

/-- The names of a type. -/
structure TypeNames where
  display : Option String := none
  unique : Option String := none
deriving DecidableEq

namespace TypeNames

/-- What identifies the type: the unique name, else the display name. -/
def identity (n : TypeNames) : Option String := n.unique <|> n.display

/-- One name for both purposes. -/
def both (name : String) : TypeNames := ⟨some name, some name⟩

end TypeNames

/-- How an array is written as a parameter. -/
inductive CollectionFormat where
  | csv
  | space
  | tsv
  | pipe
  /-- A pair of key and value for each item. -/
  | multi
deriving DecidableEq

namespace CollectionFormat

/-- The format of a style with its explode flag, which is on for `form` unless written. -/
def ofStyle (style : String) (explode : Option Bool) : Option CollectionFormat :=
  match style with
  | "form" => some (if explode.getD true then .multi else .csv)
  | "simple" => some .csv
  | "pipeDelimited" => some .pipe
  | "spaceDelimited" => some .space
  | _ => none

/-- The format of a `collectionFormat` word. -/
def ofWord : String → Option CollectionFormat
  | "csv" => some .csv
  | "ssv" => some .space
  | "tsv" => some .tsv
  | "pipes" => some .pipe
  | "multi" => some .multi
  | _ => none

/-- The label for display. -/
def text : CollectionFormat → String
  | .csv => "csv"
  | .space => "space"
  | .tsv => "tsv"
  | .pipe => "pipe"
  | .multi => "multi"

end CollectionFormat

/-- How an object came about: plainly, from several branches, or from a branch that declares a
discriminator. -/
inductive Nature where
  | plain
  | composition
  | inheritance
deriving DecidableEq

/-- An object with named properties. -/
structure ObjectType where
  names : TypeNames := {}
  properties : List (String × Schema) := []
  nature : Nature := .plain
  discriminator : Option String := none

namespace ObjectType

/-- A named object without properties. -/
def named (name : String) : ObjectType := { names := .both name }

end ObjectType

/-- A type as documentation shows it. -/
inductive ResolvedType where
  | basic (names : TypeNames) (kind : Kind) (format : Option String)
  | array (names : TypeNames) (element : ResolvedType) (collection : Option CollectionFormat)
  | map (names : TypeNames) (value : ResolvedType)
  /-- An enumeration with the texts of its values and the kind they are declared with. -/
  | enum (names : TypeNames) (kind : Kind) (values : List String)
  | object (shape : ObjectType)
  /-- A link to another type; the document that holds it is absent for the current one. -/
  | link (names : TypeNames) (document : Option String) (target : ResolvedType)

namespace ResolvedType

/-- The names. -/
def names : ResolvedType → TypeNames
  | .basic names _ _ => names
  | .array names _ _ => names
  | .map names _ => names
  | .enum names _ _ => names
  | .object shape => shape.names
  | .link names _ _ => names

/-- The type under other names. -/
def withNames (names : TypeNames) : ResolvedType → ResolvedType
  | .basic _ kind format => .basic names kind format
  | .array _ element collection => .array names element collection
  | .map _ value => .map names value
  | .enum _ kind values => .enum names kind values
  | .object shape => .object { shape with names }
  | .link _ document target => .link names document target

@[simp] theorem names_withNames (names : TypeNames) (t : ResolvedType) :
    (t.withNames names).names = names := by
  cases t <;> rfl

/-- The display name. -/
def name (t : ResolvedType) : Option String := t.names.display

/-- What identifies the type. -/
def identity (t : ResolvedType) : Option String := t.names.identity

/-- The type under another display name. -/
def withName (t : ResolvedType) (name : Option String) : ResolvedType :=
  t.withNames { t.names with display := name }

/-- The type under another unique name. -/
def withUniqueName (t : ResolvedType) (unique : Option String) : ResolvedType :=
  t.withNames { t.names with unique }

/-- A link to a type under the type's own name and identity. -/
def linkTo (document : Option String) (target : ResolvedType) : ResolvedType :=
  .link ⟨target.name, target.identity⟩ document target

/-- The type behind any links. -/
def unwrap : ResolvedType → ResolvedType
  | .link _ _ target => target.unwrap
  | t => t

/-- The object behind any links. -/
def object? (t : ResolvedType) : Option ObjectType :=
  match t.unwrap with
  | .object shape => some shape
  | _ => none

/-- Whether the type is an object itself, not by a link. -/
def isObject : ResolvedType → Bool
  | .object _ => true
  | _ => false

/-- The label of a type in a table. -/
def label : ResolvedType → String
  | .basic _ kind none => kind.text
  | .basic _ kind (some format) => kind.text ++ " (" ++ format ++ ")"
  | .array _ element none => "< " ++ element.label ++ " > array"
  | .array _ element (some collection) =>
    "< " ++ element.label ++ " > array (" ++ collection.text ++ ")"
  | .map _ value => "< string, " ++ value.label ++ " > map"
  | .enum _ _ values => "enum (" ++ ", ".intercalate values ++ ")"
  | .object _ => "object"
  | .link ⟨some name, _⟩ _ _ => name
  | .link ⟨none, _⟩ _ target => target.label

end ResolvedType

end OpenApiDoc
