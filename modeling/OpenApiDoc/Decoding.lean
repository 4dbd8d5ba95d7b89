import OpenApiDoc.Json.Writer
import OpenApiDoc.Text.Quoted

/-!
# Decoding

A decoder reads a JSON value as a value of some type, or says what is wrong with it. Decoders of
records read the members in the order in which they stand, so that of several faults the first
one in the document is reported.
-/

namespace OpenApiDoc

universe u

/-- What stands where something else was expected. -/
inductive Found where
  | null
  | bool (b : Bool)
  | integer (n : Integer)
  | float (x : Binary64)
  | string (s : String)
  | sequence
  | map

/-- What was expected. -/
inductive Expected where
  | string
  | boolean
  | float
  | natural
  | sequence
  | map
  | unit
  /-- A word of a fixed list, which may also be the only key of a map. -/
  | word
  | singleKeyMap
  | record (name : String)

/-- What is wrong with a value. -/
inductive DecodeFault where
  | wrongType (found : Found) (expected : Expected)
  | wrongValue (found : Found) (expected : Expected)
  /-- None of the forms that a keyword may take fits. -/
  | noForm (keyword : String)
  | unknownWord (word : String) (known : List String)
  /-- A record written as a list ends before a field that has no default. -/
  | tooFew (length : Nat) (record : String) (fields : Nat)
  /-- A record written as a list has more items than fields. -/
  | tooMany (length : Nat)
  | response (code : String) (fault : DecodeFault)

namespace Found

/-- What a JSON value is found to be. -/
def ofJson : Json → Found
  | .null => .null
  | .bool b => .bool b
  | .num (.integer n) => .integer n
  | .num (.float x) => .float x
  | .str s => .string s
  | .arr _ => .sequence
  | .obj _ => .map

/-- The wording. -/
def text : Found → String
  | .null => "null"
  | .bool b => "boolean `" ++ (if b then "true" else "false") ++ "`"
  | .integer n => "integer `" ++ n.text ++ "`"
  | .float x => "floating point `" ++ x.text ++ "`"
  | .string s => "string " ++ Text.quoted s
  | .sequence => "sequence"
  | .map => "map"

end Found

namespace Expected

/-- The wording. -/
def text : Expected → String
  | .string => "a string"
  | .boolean => "a boolean"
  | .float => "f64"
  | .natural => "u64"
  | .sequence => "a sequence"
  | .map => "a map"
  | .unit => "unit"
  | .word => "string or map"
  | .singleKeyMap => "map with a single key"
  | .record name => "struct " ++ name

end Expected

namespace DecodeFault

/-- Words in quotation marks with commas between them. -/
def listWords (words : List String) : String :=
  ", ".intercalate (words.map fun word => "`" ++ word ++ "`")

/-- The wording. -/
def message : DecodeFault → String
  | .wrongType found expected => "invalid type: " ++ found.text ++ ", expected " ++ expected.text
  | .wrongValue found expected =>
    "invalid value: " ++ found.text ++ ", expected " ++ expected.text
  | .noForm keyword => "data did not match any variant of untagged enum " ++ keyword
  | .unknownWord word known =>
    "unknown variant `" ++ word ++ "`, expected one of " ++ listWords known
  | .tooFew length record fields =>
    "invalid length " ++ toString length ++ ", expected struct " ++ record ++ " with "
      ++ toString fields ++ " elements"
  | .tooMany length =>
    "invalid length " ++ toString length ++ ", expected fewer elements in array"
  | .response code fault => "Failed to parse response '" ++ code ++ "': " ++ fault.message

end DecodeFault

/-- A result of decoding. -/
abbrev Decoded (α : Type u) := Except DecodeFault α

/-- A decoder of values of a type. -/
abbrev Decoder (α : Type u) := Json → Decoded α

namespace Decoder

variable {α : Type u}

/-- The fault that a value is not of the expected type. -/
def refuse (value : Json) (expected : Expected) : Decoded α :=
  .error (.wrongType (Found.ofJson value) expected)

/-- Any value. -/
def any : Decoder Json := .ok

/-- A string. -/
def string : Decoder String
  | .str s => .ok s
  | value => refuse value .string

/-- A Boolean. -/
def boolean : Decoder Bool
  | .bool b => .ok b
  | value => refuse value .boolean

/-- A double; whole numbers are rounded. -/
def float : Decoder Binary64
  | .num (.integer n) => .ok n.toBinary64
  | .num (.float x) => .ok x
  | value => refuse value .float

/-- A whole number that is not negative. -/
def natural : Decoder Nat
  | .num (.integer n) =>
    if n.val < 0 then .error (.wrongValue (.integer n) .natural) else .ok n.val.toNat
  | value => refuse value .natural

/-- Null, or a value of the type. -/
def optional (decode : Decoder α) : Decoder (Option α)
  | .null => .ok none
  | value => (decode value).map some

/-- A list. -/
def list (decode : Decoder α) : Decoder (List α)
  | .arr items => items.mapM decode
  | value => refuse value .sequence

/-- Decode the values of entries in order. -/
def entriesOf (decode : Decoder α) : List (String × Json) → Decoded (List (String × α))
  | [] => .ok []
  | (key, value) :: rest =>
    (decode value).bind fun decoded =>
      (entriesOf decode rest).map fun more => (key, decoded) :: more

/-- A map. -/
def entries (decode : Decoder α) : Decoder (List (String × α))
  | .obj members => entriesOf decode members
  | value => refuse value .map

/-- A word, written as a string or as the only key of a map whose value is null. -/
def word (read : String → Decoded α) : Decoder α
  | .str s => read s
  | .obj [(key, value)] =>
    (read key).bind fun decoded =>
      match value with
      | .null => .ok decoded
      | value => refuse value .unit
  | .obj _ => .error (.wrongValue .map .singleKeyMap)
  | value => refuse value .word

/-! ### Records -/

/-- A field of a record: its name, whether a list may end before it, and how a value of
it changes the record. -/
structure RecordField (α : Type u) where
  name : String
  hasDefault : Bool
  assign : Json → α → Decoded α

/-- The members of an object assigned to their fields in order; other members are passed over. -/
def assignMembers (fields : List (RecordField α)) (record : α) (members : List (String × Json)) :
    Decoded α :=
  members.foldlM (fun record member =>
    match fields.find? (·.name = member.1) with
    | some field => field.assign member.2 record
    | none => .ok record) record

/-- A record that keeps the members without a field of their own; it is written as an object. -/
def openRecord (name : String) (fields : List (RecordField α))
    (keep : String → Json → α → α) (initial : α) : Decoder α
  | .obj members =>
    members.foldlM (fun record member =>
      match fields.find? (·.name = member.1) with
      | some field => field.assign member.2 record
      | none => .ok (keep member.1 member.2 record)) initial
  | value => refuse value (.record name)

/-- The items of a list assigned to the fields in the order of their declaration; `index` is the
number of fields before. The result comes with the number of items left over. -/
def assignItems (name : String) (arity : Nat) (index : Nat) (record : α) :
    List (RecordField α) → List Json → Decoded (α × Nat)
  | [], items => .ok (record, items.length)
  | field :: fields, item :: items =>
    (field.assign item record).bind fun record =>
      assignItems name arity (index + 1) record fields items
  | field :: fields, [] =>
    if field.hasDefault then assignItems name arity (index + 1) record fields []
    else .error (.tooFew index name arity)

/-- A record, written as an object or as a list of its fields. -/
def record (name : String) (fields : List (RecordField α)) (initial : α) : Decoder α
  | .obj members => assignMembers fields initial members
  | .arr items =>
    (assignItems name fields.length 0 initial fields items).bind fun (record, left) =>
      if left = 0 then .ok record else .error (.tooMany items.length)
  | value => refuse value (.record name)

end Decoder

end OpenApiDoc
