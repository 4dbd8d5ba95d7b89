import OpenApiDoc.Json

/-!
# Schemas

A schema is a bag of keywords. Nothing here decides what the schema *is*; that is the matter of
`OpenApiDoc.Model`. The keywords that hold further schemas are fields of `Schema`, the others
form its `SchemaFacts`.
-/

namespace OpenApiDoc

/-- The `type` keyword: one name or several. -/
inductive TypeDecl where
  | single (name : String)
  | several (names : List String)
deriving DecidableEq

/-- The `additionalProperties` keyword: a flag or a schema of the values. -/
inductive AdditionalProperties (α : Type) where
  | flag (allowed : Bool)
  | schema (value : α)

/-- The exclusive bound of one side: a flag on the inclusive bound, or the bound itself. -/
inductive ExclusiveBound where
  | flag (exclusive : Bool)
  | value (bound : Binary64)
deriving DecidableEq

/-- The `discriminator` keyword: the name of the property, or an object with that name and a
reference for each of its values. -/
inductive Discriminator where
  | name (property : String)
  | mapped (property : String) (mapping : List (String × String))
deriving DecidableEq

namespace Discriminator

/-- The property that discriminates. -/
def property : Discriminator → String
  | .name property => property
  | .mapped property _ => property

end Discriminator

/-- The keywords that hold no further schema. -/
structure SchemaFacts where
  reference : Option String := none
  type : Option TypeDecl := none
  format : Option String := none
  title : Option String := none
  description : Option String := none
  enum : Option (List Json) := none
  discriminator : Option Discriminator := none
  required : List String := []
  default : Option Json := none
  /-- The authored example. -/
  authored : Option Json := none
  minimum : Option Binary64 := none
  maximum : Option Binary64 := none
  exclusiveMinimum : Option ExclusiveBound := none
  exclusiveMaximum : Option ExclusiveBound := none
  minLength : Option Nat := none
  maxLength : Option Nat := none
  minItems : Option Nat := none
  maxItems : Option Nat := none
  pattern : Option String := none
  readOnly : Option Bool := none
  /-- The keywords that have no field of their own, vendor extensions among them. -/
  extra : List (String × Json) := []
deriving Inhabited

namespace SchemaFacts

/-- The declared kind; the name `null` in a list of names is passed over. -/
def kind (s : SchemaFacts) : Option String :=
  match s.type with
  | none => none
  | some (.single name) => some name
  | some (.several names) => names.find? (· ≠ "null")

/-- Whether the kind is `array`. -/
def isArray (s : SchemaFacts) : Bool := s.kind == some "array"

/-- The property that discriminates, if one is declared. -/
def discriminatorName (s : SchemaFacts) : Option String :=
  s.discriminator.map Discriminator.property

/-- Whether a property is listed as required. -/
def requires (s : SchemaFacts) (property : String) : Bool := s.required.contains property

/-- The value of a vendor extension. -/
def extension (s : SchemaFacts) (key : String) : Option Json :=
  if isExtensionKey key then Entries.get? key s.extra else none

/-- Whether an exclusive bound excludes. -/
def excludes : Option ExclusiveBound → Bool
  | some (.flag exclusive) => exclusive
  | some (.value _) => true
  | none => false

/-- Whether the lower bound is excluded. -/
def isExclusiveMinimum (s : SchemaFacts) : Bool := excludes s.exclusiveMinimum

/-- Whether the upper bound is excluded. -/
def isExclusiveMaximum (s : SchemaFacts) : Bool := excludes s.exclusiveMaximum

/-- The bound in force: an exclusive bound with a value goes before the inclusive one. -/
def boundInForce (inclusive : Option Binary64) : Option ExclusiveBound → Option Binary64
  | some (.value bound) => some bound
  | _ => inclusive

/-- The lower bound in force. -/
def lowerBound (s : SchemaFacts) : Option Binary64 := boundInForce s.minimum s.exclusiveMinimum

/-- The upper bound in force. -/
def upperBound (s : SchemaFacts) : Option Binary64 := boundInForce s.maximum s.exclusiveMaximum

end SchemaFacts

/-- A schema. -/
structure Schema extends SchemaFacts where
  properties : Option (List (String × Schema)) := none
  additional : Option (AdditionalProperties Schema) := none
  items : Option Schema := none
  allOf : Option (List Schema) := none
deriving Inhabited

namespace Schema

/-- The schema of the values, if `additionalProperties` is one. -/
def valueSchema (s : Schema) : Option Schema :=
  match s.additional with
  | some (.schema value) => some value
  | _ => none

/-- Whether the schema describes a map: it has a schema of values and no properties. -/
def isMap (s : Schema) : Bool := s.properties.isNone && s.valueSchema.isSome

/-! ### Size -/

mutual

/-- The number of schemas in a schema, itself included. -/
def count : Schema → Nat
  | ⟨_, properties, additional, items, allOf⟩ =>
    1
      + (match properties with
        | none => 0
        | some entries => countEntries entries)
      + (match additional with
        | some (.schema value) => value.count
        | _ => 0)
      + (match items with
        | none => 0
        | some item => item.count)
      + (match allOf with
        | none => 0
        | some branches => countList branches)

/-- The number of schemas in the values of entries. -/
def countEntries : List (String × Schema) → Nat
  | [] => 0
  | (_, schema) :: rest => schema.count + countEntries rest

/-- The number of schemas in a list. -/
def countList : List Schema → Nat
  | [] => 0
  | schema :: rest => schema.count + countList rest

end

theorem count_pos (s : Schema) : 0 < s.count := by
  cases s
  unfold count
  omega

theorem countList_append (xs ys : List Schema) :
    countList (xs ++ ys) = countList xs + countList ys := by
  induction xs with
  | nil => simp [countList]
  | cons x xs ih =>
    simp only [List.cons_append, countList, ih]
    omega

/-- The branches of a composition; none for a schema that composes nothing. -/
def branchList (s : Schema) : List Schema := s.allOf.getD []

theorem countList_branchList_lt (s : Schema) : countList s.branchList < s.count := by
  obtain ⟨facts, properties, additional, items, allOf⟩ := s
  cases allOf with
  | none => exact count_pos _
  | some branches =>
    simp only [branchList, Option.getD_some]
    unfold count
    dsimp only
    omega

end Schema

end OpenApiDoc
