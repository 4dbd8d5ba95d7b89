import Mathlib.Data.List.Basic
import OpenApiDoc.Proofs.Json

/-!
# Paths into JSON values

A path is followed from a value through the members of objects, by their keys, and through the
items of arrays, by their places. What a change of a document does is said by what stands at a
path before and after.
-/

namespace OpenApiDoc.Json

/-- Induction over a value, its members and its items. -/
theorem induction_on {motive : Json → Prop} (value : Json)
    (obj : ∀ members : List (String × Json), (∀ m ∈ members, motive m.2) → motive (.obj members))
    (arr : ∀ items : List Json, (∀ item ∈ items, motive item) → motive (.arr items))
    (leaf : ∀ value : Json, value.entries? = none → value.items? = none → motive value) :
    motive value := by
  match value with
  | .obj members => exact obj members fun m _ => induction_on m.2 obj arr leaf
  | .arr items => exact arr items fun item _ => induction_on item obj arr leaf
  | .null | .bool _ | .num _ | .str _ => exact leaf _ rfl rfl
termination_by sizeOf value
decreasing_by
  · have hm : m ∈ members := by assumption
    have hsize := List.sizeOf_lt_of_mem hm
    obtain ⟨key, value⟩ := m
    simp only [Json.obj.sizeOf_spec, Prod.mk.sizeOf_spec] at hsize ⊢
    omega
  · have hitem : item ∈ items := by assumption
    have hsize := List.sizeOf_lt_of_mem hitem
    simp only [Json.arr.sizeOf_spec]
    omega

/-- A step into a value: to the member of an object with a key, or to an item of an array. -/
inductive Step where
  | key (name : String)
  | index (i : Nat)
deriving DecidableEq

/-- Steps, the outermost first. -/
abbrev Path := List Step

/-- The value that a step leads to. -/
def child? (s : Step) (value : Json) : Option Json :=
  match s, value with
  | .key name, value => value.get? name
  | .index i, .arr items => items[i]?
  | .index _, _ => none

/-- The value that a path leads to. -/
def follow? : Path → Json → Option Json
  | [], value => some value
  | s :: path, value => (value.child? s).bind (follow? path)

/-- The value with what stands at a path changed, if the path leads anywhere. -/
def modifyAt (f : Json → Json) : Path → Json → Json
  | [], value => f value
  | .key name :: path, value => value.modify name (modifyAt f path)
  | .index i :: path, .arr items => .arr (items.modify i (modifyAt f path))
  | .index _ :: _, value => value

variable {value member : Json} {s : Step} {path : Path}

@[simp] lemma child?_key (name : String) (value : Json) :
    value.child? (.key name) = value.get? name := by
  rw [child?]

@[simp] lemma child?_index_arr (i : Nat) (items : List Json) :
    (arr items).child? (.index i) = items[i]? := rfl

@[simp] lemma child?_index_mapEntries (i : Nat) (f : List (String × Json) → List (String × Json))
    (value : Json) : (value.mapEntries f).child? (.index i) = value.child? (.index i) := by
  cases value <;> rfl

@[simp] lemma child?_index_modify (i : Nat) (key : String) (f : Json → Json) (value : Json) :
    (value.modify key f).child? (.index i) = value.child? (.index i) :=
  child?_index_mapEntries i _ value

@[simp] lemma child?_index_mapItems (i : Nat) (f : Json → Json) (value : Json) :
    (value.mapItems f).child? (.index i) = (value.child? (.index i)).map f := by
  cases value with
  | arr items => exact List.getElem?_map
  | _ => rfl

@[simp] lemma follow?_nil (value : Json) : value.follow? [] = some value := rfl

@[simp] lemma follow?_cons (s : Step) (path : Path) (value : Json) :
    value.follow? (s :: path) = (value.child? s).bind (follow? path) := rfl

lemma follow?_append (path path' : Path) (value : Json) :
    value.follow? (path ++ path') = (value.follow? path).bind (follow? path') := by
  induction path generalizing value with
  | nil => rfl
  | cons s path ih =>
    rw [List.cons_append, follow?_cons, follow?_cons, Option.bind_assoc]
    exact congrArg _ (funext ih)

lemma follow?_concat (path : Path) (s : Step) (value : Json) :
    value.follow? (path ++ [s]) = (value.follow? path).bind (child? s) := by
  rw [follow?_append]
  congr 1
  funext member
  rw [follow?_cons]
  cases member.child? s <;> rfl

lemma follow?_single (s : Step) (value : Json) : value.follow? [s] = value.child? s :=
  follow?_concat [] s value

lemma follow?_concat_eq_some : value.follow? (path ++ [s]) = some member ↔
    ∃ last, value.follow? path = some last ∧ last.child? s = some member := by
  rw [follow?_concat, Option.bind_eq_some_iff]

lemma follow?_concat_of_eq (h : value.follow? path = some member) (s : Step) :
    value.follow? (path ++ [s]) = member.child? s := by
  rw [follow?_concat, h, Option.bind_some]

lemma follow?_concat_key (h : value.follow? path = some member) (key : String) :
    value.follow? (path ++ [.key key]) = member.get? key := by
  rw [follow?_concat_of_eq h, child?_key]

lemma modifyAt_id (path : Path) (value : Json) : value.modifyAt id path = value := by
  induction path generalizing value with
  | nil => rfl
  | cons s path ih =>
    have hid : modifyAt id path = id := funext ih
    cases s with
    | key name =>
      rw [modifyAt, hid]
      cases value with
      | obj members => simp [modify_obj]
      | _ => rfl
    | index i =>
      cases value with
      | arr items => rw [modifyAt, hid, List.modify_id]
      | _ => rfl

lemma WellKeyed.child? (h : value.WellKeyed) (hchild : value.child? s = some member) :
    member.WellKeyed := by
  cases s with
  | key name => exact h.get? (by simpa using hchild)
  | index i =>
    cases value with
    | arr items => exact wellKeyed_arr.1 h member (List.mem_of_getElem? hchild)
    | _ => cases hchild

lemma WellKeyed.follow? (h : value.WellKeyed) (hfollow : value.follow? path = some member) :
    member.WellKeyed := by
  induction path generalizing value with
  | nil =>
    cases hfollow
    exact h
  | cons s path ih =>
    obtain ⟨next, hnext, hrest⟩ := Option.bind_eq_some_iff.1 hfollow
    exact ih (h.child? hnext) hrest

end OpenApiDoc.Json
