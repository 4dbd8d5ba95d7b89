import OpenApiDoc.Model
import OpenApiDoc.Proofs.Schema.Nesting

/-!
# Shapes of schemas

Classification and example generation ask the same questions about a schema in the same order:
does it compose, does it refer, is it an array, is it a map? `Schema.Shape` is the case
distinction that they share, and the lemmas `model_of_*` say what the model of each shape is.
-/

namespace OpenApiDoc

namespace Schema

/-- The first rule that fits a schema. -/
inductive Shape (s : Schema) : Prop where
  | composed (branches : List Schema) (allOf : s.allOf = some branches)
  | reference (reference : String) (allOf : s.allOf = none)
      (refers : s.reference = some reference)
  | array (allOf : s.allOf = none) (refers : s.reference = none) (isArray : s.isArray = true)
  | map (value : Schema) (allOf : s.allOf = none) (refers : s.reference = none)
      (isArray : s.isArray = false) (properties : s.properties = none)
      (values : s.valueSchema = some value)
  | leaf (allOf : s.allOf = none) (refers : s.reference = none) (isArray : s.isArray = false)
      (noMap : s.properties = none → s.valueSchema = none)

theorem shape (s : Schema) : s.Shape := by
  rcases hallOf : s.allOf with _ | branches
  · rcases hrefers : s.reference with _ | reference
    · rcases harray : s.isArray with _ | _
      · by_cases hmap : s.properties = none → s.valueSchema = none
        · exact .leaf hallOf hrefers harray hmap
        · obtain ⟨hproperties, hvalues⟩ := Classical.not_imp.1 hmap
          obtain ⟨value, hvalue⟩ := Option.ne_none_iff_exists'.1 hvalues
          exact .map value hallOf hrefers harray hproperties hvalue
      · exact .array hallOf hrefers harray
    · exact .reference reference hallOf hrefers
  · exact .composed branches hallOf

/-! ### Models by shape -/

variable {d : Definitions} {s : Schema}

lemma models_eq_map (d : Definitions) (branches : List Schema) :
    models d branches = branches.map (Schema.model d) := by
  induction branches with
  | nil => rfl
  | cons branch rest ih => rw [models, ih, List.map_cons]

lemma model_of_composed {branches : List Schema} (allOf : s.allOf = some branches) :
    s.model d = .composed s.annotations (branches.map (Schema.model d)) := by
  obtain ⟨facts, properties, additional, items, _⟩ := s
  subst allOf
  rw [model, models_eq_map]

lemma model_of_reference {reference : String} (allOf : s.allOf = none)
    (refers : s.reference = some reference) :
    s.model d = .reference s.annotations (d.referenceName reference) reference := by
  obtain ⟨facts, properties, additional, items, _⟩ := s
  subst allOf
  dsimp only at refers
  unfold model
  simp only [refers]

lemma model_of_array (allOf : s.allOf = none) (refers : s.reference = none)
    (isArray : s.isArray = true) :
    s.model d = .array s.annotations (s.items.map (Schema.model d)) := by
  obtain ⟨facts, properties, additional, items, _⟩ := s
  subst allOf
  dsimp only at refers isArray
  unfold model
  cases items <;> simp [refers, isArray]

lemma model_of_map {value : Schema} (allOf : s.allOf = none) (refers : s.reference = none)
    (isArray : s.isArray = false) (properties : s.properties = none)
    (values : s.valueSchema = some value) :
    s.model d = .map s.annotations (value.model d) := by
  obtain ⟨facts, _, additional, items, _⟩ := s
  subst allOf properties
  dsimp only at refers isArray
  rcases additional with _ | (allowed | value')
  · cases values
  · cases values
  · cases values
    rw [model.eq_def]
    simp [refers, isArray]

lemma model_of_leaf (allOf : s.allOf = none) (refers : s.reference = none)
    (isArray : s.isArray = false) (noMap : s.properties = none → s.valueSchema = none) :
    s.model d = .ofLeaf s.toSchemaFacts s.properties := by
  obtain ⟨facts, properties, additional, items, _⟩ := s
  subst allOf
  dsimp only at refers isArray noMap
  unfold model
  rcases properties with _ | properties <;> rcases additional with _ | (allowed | value) <;>
    simp_all [valueSchema]

end Schema

end OpenApiDoc
