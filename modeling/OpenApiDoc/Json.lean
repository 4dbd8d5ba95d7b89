import OpenApiDoc.Entries
import OpenApiDoc.Decimal.Binary64

/-!
# JSON values

A number is kept as it was written: a whole number of 64 bits, signed or unsigned, stays exact,
and every other number is a double. Members of an object keep their order; a reader of JSON text
makes their keys distinct (`Json.WellKeyed`).
-/

namespace OpenApiDoc

/-- A whole number that 64 bits hold, signed or unsigned: it is at least the negative of 2 to the
power of 63 and below 2 to the power of 64. -/
structure Integer where
  val : Int
  lower : -9223372036854775808 ≤ val := by decide
  upper : val < 18446744073709551616 := by decide
deriving DecidableEq

namespace Integer

/-- The integer of this value, where 64 bits hold it. -/
def ofInt? (n : Int) : Option Integer :=
  if h : -9223372036854775808 ≤ n ∧ n < 18446744073709551616 then some ⟨n, h.1, h.2⟩ else none

/-- The decimal text. -/
def text (n : Integer) : String := toString n.val

/-- The nearest double: every magnitude of 64 bits is within its range. -/
def toBinary64 (n : Integer) : Binary64 :=
  (Binary64.ofNat (decide (n.val < 0)) n.val.natAbs).getD (.zero false)

end Integer

/-- A JSON number. -/
inductive Number where
  | integer (n : Integer)
  | float (x : Binary64)
deriving DecidableEq

/-- A JSON value. -/
inductive Json where
  | null
  | bool (b : Bool)
  | num (n : Number)
  | str (s : String)
  | arr (items : List Json)
  | obj (entries : List (String × Json))
deriving Inhabited

namespace Json

/-- The members of an object. -/
def entries? : Json → Option (List (String × Json))
  | .obj entries => some entries
  | _ => none

/-- The items of an array. -/
def items? : Json → Option (List Json)
  | .arr items => some items
  | _ => none

/-- The text of a string value. -/
def str? : Json → Option String
  | .str s => some s
  | _ => none

/-- The member of an object with this key. -/
def get? (key : String) : Json → Option Json
  | .obj entries => Entries.get? key entries
  | _ => none

/-- The value at a path of keys. -/
def at? (value : Json) : List String → Option Json
  | [] => some value
  | key :: path => (value.get? key).bind fun member => member.at? path

/-- Change the members of an object; any other value stays as it is. -/
def mapEntries (f : List (String × Json) → List (String × Json)) : Json → Json
  | .obj entries => .obj (f entries)
  | value => value

/-- Change the values of the members of an object. -/
def mapValues (f : Json → Json) : Json → Json := mapEntries (Entries.mapValues f)

/-- Change the items of an array. -/
def mapItems (f : Json → Json) : Json → Json
  | .arr items => .arr (items.map f)
  | value => value

/-- Change the member of an object with this key, if there is one. -/
def modify (key : String) (f : Json → Json) : Json → Json := mapEntries (Entries.modify key f)

/-- Whether the value is a Boolean. -/
def isBool : Json → Bool
  | .bool _ => true
  | _ => false

mutual

/-- Every object in the value has distinct keys. -/
def WellKeyed : Json → Prop
  | .arr items => WellKeyedItems items
  | .obj entries => (Entries.keys entries).Nodup ∧ WellKeyedEntries entries
  | _ => True

/-- Every object in the items has distinct keys. -/
def WellKeyedItems : List Json → Prop
  | [] => True
  | item :: rest => item.WellKeyed ∧ WellKeyedItems rest

/-- Every object in the values of the entries has distinct keys. -/
def WellKeyedEntries : List (String × Json) → Prop
  | [] => True
  | (_, value) :: rest => value.WellKeyed ∧ WellKeyedEntries rest

end

end Json

end OpenApiDoc
