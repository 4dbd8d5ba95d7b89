import OpenApiDoc.Proofs.Json

/-!
# JSON values without an order of members

The members of an object are a map from keys to values, and their order means nothing.
`Json.unordered` takes a value for what it is then, at every depth; two values with the same
outcome differ in the order of members only, as long as keys are distinct.
-/

namespace OpenApiDoc.Json

/-- A JSON value whose objects are maps from keys to values. -/
inductive Unordered where
  | null
  | bool (b : Bool)
  | num (n : Number)
  | str (s : String)
  | arr (items : List Unordered)
  | obj (members : String → Option Unordered)

mutual

/-- The value without the order of members. -/
def unordered : Json → Unordered
  | .null => .null
  | .bool b => .bool b
  | .num n => .num n
  | .str s => .str s
  | .arr items => .arr (unorderedItems items)
  | .obj members => .obj (unorderedMembers members)

/-- The items without the order of members. -/
def unorderedItems : List Json → List Unordered
  | [] => []
  | item :: rest => item.unordered :: unorderedItems rest

/-- The members as a map from keys to values. -/
def unorderedMembers : List (String × Json) → String → Option Unordered
  | [] => fun _ => none
  | (key, value) :: rest => fun k =>
    if key = k then some value.unordered else unorderedMembers rest k

end

variable {v w : Json} {items items' : List Json} {members members' : List (String × Json)}

lemma unordered_arr (items : List Json) :
    (arr items).unordered = .arr (items.map unordered) := by
  have hitems : ∀ items, unorderedItems items = items.map unordered := by
    intro items
    induction items with
    | nil => rfl
    | cons item rest ih => rw [unorderedItems, List.map_cons, ih]
  rw [unordered, hitems]

lemma unordered_obj (members : List (String × Json)) :
    (obj members).unordered = .obj fun key => (Entries.get? key members).map unordered := by
  have hmembers : ∀ members key,
      unorderedMembers members key = (Entries.get? key members).map unordered := by
    intro members key
    induction members with
    | nil => rfl
    | cons m rest ih =>
      obtain ⟨k, value⟩ := m
      simp only [unorderedMembers, Entries.get?_cons, ih]
      split <;> rfl
  rw [unordered, funext (hmembers members)]

lemma unordered_arr_eq :
    (arr items).unordered = (arr items').unordered ↔
      items.map unordered = items'.map unordered := by
  rw [unordered_arr, unordered_arr, Unordered.arr.injEq]

lemma unordered_obj_eq :
    (obj members).unordered = (obj members').unordered ↔
      ∀ key, (Entries.get? key members).map unordered =
        (Entries.get? key members').map unordered := by
  rw [unordered_obj, unordered_obj, Unordered.obj.injEq, funext_iff]

/-- Values that differ in the order of members only are one leaf, or both arrays,
or both objects. -/
inductive Likeness : Json → Json → Prop where
  | leaf (v : Json) : Likeness v v
  | arr {items items' : List Json} (h : items.map unordered = items'.map unordered) :
      Likeness (.arr items) (.arr items')
  | obj (members members' : List (String × Json)) : Likeness (.obj members) (.obj members')

lemma likeness (h : v.unordered = w.unordered) : Likeness v w := by
  cases v with
  | arr items =>
    cases w with
    | arr items' => exact .arr (unordered_arr_eq.1 h)
    | _ => cases h
  | obj members =>
    cases w with
    | obj members' => exact .obj members members'
    | _ => cases h
  | _ =>
    cases w <;> cases h
    exact .leaf _

end OpenApiDoc.Json
