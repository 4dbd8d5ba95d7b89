import OpenApiDoc.Json
import OpenApiDoc.Proofs.Entries

/-!
# Members of JSON values

What the operations on the members of an object do to lookups, and that everything in a value
whose objects have distinct keys is such a value itself.
-/

namespace OpenApiDoc.Json

variable {value : Json} {key : String}

@[simp] lemma get?_obj (key : String) (members : List (String × Json)) :
    (obj members).get? key = Entries.get? key members := rfl

lemma modify_obj (key : String) (f : Json → Json) (members : List (String × Json)) :
    (obj members).modify key f =
      obj (members.map fun m => (m.1, if m.1 = key then f m.2 else m.2)) :=
  congrArg obj (Entries.modify_eq_map key f members)

lemma get?_modify (key : String) (f : Json → Json) (value : Json) (k : String) :
    (value.modify key f).get? k = if k = key then (value.get? k).map f else value.get? k := by
  cases value with
  | obj members => exact Entries.get?_modify key f k members
  | _ => simp [modify, mapEntries, get?]

lemma get?_mapEntries_map {f : String → Json → Json} (key : String) (value : Json) :
    (value.mapEntries (List.map fun m => (m.1, f m.1 m.2))).get? key =
      (value.get? key).map (f key) := by
  cases value with
  | obj members => exact Entries.get?_map key members
  | _ => rfl

lemma get?_mapValues (f : Json → Json) (key : String) (value : Json) :
    (value.mapValues f).get? key = (value.get? key).map f :=
  get?_mapEntries_map (f := fun _ => f) key value

lemma entries?_mapEntries (f : List (String × Json) → List (String × Json)) (value : Json) :
    (value.mapEntries f).entries? = value.entries?.map f := by
  cases value <;> rfl

lemma entries?_mapValues (f : Json → Json) (value : Json) :
    (value.mapValues f).entries? = value.entries?.map (Entries.mapValues f) :=
  entries?_mapEntries _ value

lemma mapValues_mapValues (f g : Json → Json) (value : Json) :
    (value.mapValues f).mapValues g = value.mapValues (g ∘ f) := by
  cases value <;> simp [mapValues, mapEntries, Entries.mapValues]

/-! ### Distinct keys -/

lemma wellKeyedEntries_iff {members : List (String × Json)} :
    WellKeyedEntries members ↔ ∀ m ∈ members, m.2.WellKeyed := by
  induction members with
  | nil => simp [WellKeyedEntries]
  | cons m rest ih =>
    obtain ⟨key, value⟩ := m
    rw [WellKeyedEntries, ih, List.forall_mem_cons]

lemma wellKeyedItems_iff {items : List Json} :
    WellKeyedItems items ↔ ∀ item ∈ items, item.WellKeyed := by
  induction items with
  | nil => simp [WellKeyedItems]
  | cons item rest ih => rw [WellKeyedItems, ih, List.forall_mem_cons]

lemma wellKeyed_obj {members : List (String × Json)} :
    (obj members).WellKeyed ↔
      (Entries.keys members).Nodup ∧ ∀ m ∈ members, m.2.WellKeyed := by
  rw [WellKeyed, wellKeyedEntries_iff]

lemma wellKeyed_arr {items : List Json} :
    (arr items).WellKeyed ↔ ∀ item ∈ items, item.WellKeyed := by
  rw [WellKeyed, wellKeyedItems_iff]

lemma WellKeyed.get? {member : Json} (h : value.WellKeyed)
    (hget : value.get? key = some member) : member.WellKeyed := by
  cases value with
  | obj members => exact (wellKeyed_obj.1 h).2 _ (Entries.mem_of_get? hget)
  | _ => cases hget

lemma WellKeyed.of_mem_entries? {m : String × Json} (h : value.WellKeyed)
    (hentries : m ∈ value.entries?.getD []) : m.2.WellKeyed := by
  cases value with
  | obj members => exact (wellKeyed_obj.1 h).2 m hentries
  | _ => cases hentries

end OpenApiDoc.Json
