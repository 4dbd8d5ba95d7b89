import Mathlib.Tactic.Common
import OpenApiDoc.Schema

/-!
# Nesting of schemas

The *parts* of a schema are the schemas of its properties, of the values of a map and of the
items of an array. Together with the branches of a composition they are its *children*.
`Schema.subschemas` lists a schema with everything nested in it; there are `Schema.count` of
them, and nesting is transitive.

A schema that *composes at the top* holds compositions only as itself or as branches of
compositions, never inside a part.
-/

namespace OpenApiDoc.Schema

/-! ### Children -/

/-- The schemas of the properties. -/
def propertySchemas (s : Schema) : List Schema := Entries.values (s.properties.getD [])

/-- The schemas of the properties, of the values and of the items. -/
def parts (s : Schema) : List Schema :=
  s.propertySchemas ++ s.valueSchema.toList ++ s.items.toList

/-- The schemas that stand directly in a schema. -/
def children (s : Schema) : List Schema := s.parts ++ s.branchList

lemma mem_propertySchemas {s : Schema} {properties : List (String × Schema)}
    (h : s.properties = some properties) {p : String × Schema} (hp : p ∈ properties) :
    p.2 ∈ s.propertySchemas := by
  rw [propertySchemas, h]
  exact List.mem_map_of_mem hp

lemma parts_subset_children (s : Schema) : s.parts ⊆ s.children :=
  List.subset_append_left _ _

lemma propertySchemas_subset_parts (s : Schema) : s.propertySchemas ⊆ s.parts := by
  intro p hp
  exact List.mem_append_left _ (List.mem_append_left _ hp)

lemma mem_parts_of_valueSchema {s value : Schema} (h : s.valueSchema = some value) :
    value ∈ s.parts := by
  simp [parts, h]

lemma mem_parts_of_items {s item : Schema} (h : s.items = some item) : item ∈ s.parts := by
  simp [parts, h]

lemma mem_children_of_branch {s b : Schema} {branches : List Schema}
    (h : s.allOf = some branches) (hb : b ∈ branches) : b ∈ s.children := by
  simp [children, branchList, h, hb]

/-! ### Counting -/

lemma countEntries_eq_countList (entries : List (String × Schema)) :
    countEntries entries = countList (Entries.values entries) := by
  induction entries with
  | nil => simp [countEntries, countList, Entries.values]
  | cons entry rest ih =>
    obtain ⟨key, s⟩ := entry
    simp only [Entries.values] at ih
    simp [countEntries, countList, Entries.values, ih]

lemma count_le_countList {s : Schema} {list : List Schema} (h : s ∈ list) :
    s.count ≤ countList list := by
  induction list with
  | nil => cases h
  | cons t rest ih =>
    rw [countList]
    rcases List.mem_cons.1 h with rfl | hs
    · omega
    · have := ih hs
      omega

/-- A schema counts itself and what its children count. -/
theorem count_eq (s : Schema) : s.count = 1 + countList s.children := by
  obtain ⟨facts, properties, additional, items, allOf⟩ := s
  unfold count
  simp only [children, parts, propertySchemas, countList_append, ← countEntries_eq_countList,
    branchList, valueSchema]
  rcases properties with _ | properties <;> rcases items with _ | item <;>
    rcases allOf with _ | branches <;> rcases additional with _ | (allowed | value) <;>
    simp only [Option.getD_none, Option.getD_some, Option.toList_none, Option.toList_some,
      countEntries, countList] <;>
    omega

lemma count_lt_of_mem_children {s child : Schema} (h : child ∈ s.children) :
    child.count < s.count := by
  have := count_le_countList h
  rw [count_eq s]
  omega

/-- Induction along nesting. -/
theorem induction_on_children {P : Schema → Prop}
    (step : ∀ s : Schema, (∀ child ∈ s.children, P child) → P s) (s : Schema) : P s :=
  step s fun child _ => induction_on_children step child
termination_by s.count
decreasing_by exact count_lt_of_mem_children ‹_›

/-! ### Everything in a schema -/

mutual

/-- The schema and everything nested in it. -/
def subschemas : Schema → List Schema
  | ⟨facts, properties, additional, items, allOf⟩ =>
    ⟨facts, properties, additional, items, allOf⟩ ::
      ((match properties with
        | none => []
        | some entries => subschemasInEntries entries)
      ++ (match additional with
        | some (.schema value) => value.subschemas
        | _ => [])
      ++ (match items with
        | none => []
        | some item => item.subschemas)
      ++ (match allOf with
        | none => []
        | some branches => subschemasInList branches))

/-- Everything nested in the values of entries. -/
def subschemasInEntries : List (String × Schema) → List Schema
  | [] => []
  | (_, s) :: rest => s.subschemas ++ subschemasInEntries rest

/-- Everything nested in the schemas of a list. -/
def subschemasInList : List Schema → List Schema
  | [] => []
  | s :: rest => s.subschemas ++ subschemasInList rest

end

lemma subschemasInEntries_eq (entries : List (String × Schema)) :
    subschemasInEntries entries = (Entries.values entries).flatMap subschemas := by
  induction entries with
  | nil => rfl
  | cons entry rest ih =>
    rw [subschemasInEntries, ih]
    rfl

lemma subschemasInList_eq (list : List Schema) :
    subschemasInList list = list.flatMap subschemas := by
  induction list with
  | nil => rfl
  | cons s rest ih => rw [subschemasInList, ih, List.flatMap_cons]

theorem subschemas_eq (s : Schema) : s.subschemas = s :: s.children.flatMap subschemas := by
  obtain ⟨facts, properties, additional, items, allOf⟩ := s
  unfold subschemas
  rcases properties with _ | properties <;> rcases items with _ | item <;>
    rcases allOf with _ | branches <;> rcases additional with _ | (allowed | value) <;>
    simp [children, parts, propertySchemas, valueSchema, branchList, Entries.values,
      subschemasInEntries_eq, subschemasInList_eq]

lemma mem_subschemas {s t : Schema} :
    t ∈ s.subschemas ↔ t = s ∨ ∃ child ∈ s.children, t ∈ child.subschemas := by
  rw [subschemas_eq]
  simp

@[simp] lemma self_mem_subschemas (s : Schema) : s ∈ s.subschemas :=
  mem_subschemas.2 (Or.inl rfl)

lemma mem_subschemas_of_child {s child t : Schema} (hc : child ∈ s.children)
    (ht : t ∈ child.subschemas) : t ∈ s.subschemas :=
  mem_subschemas.2 (Or.inr ⟨child, hc, ht⟩)

lemma child_mem_subschemas {s child : Schema} (h : child ∈ s.children) :
    child ∈ s.subschemas :=
  mem_subschemas_of_child h (self_mem_subschemas child)

theorem mem_subschemas_trans {s t u : Schema} (hu : u ∈ t.subschemas) (ht : t ∈ s.subschemas) :
    u ∈ s.subschemas := by
  induction s using induction_on_children with
  | step s ih =>
    rcases mem_subschemas.1 ht with rfl | ⟨child, hc, ht⟩
    · exact hu
    · exact mem_subschemas_of_child hc (ih child hc ht)

lemma count_le_of_mem_subschemas {s t : Schema} (ht : t ∈ s.subschemas) : t.count ≤ s.count := by
  induction s using induction_on_children with
  | step s ih =>
    rcases mem_subschemas.1 ht with rfl | ⟨child, hc, ht⟩
    · exact Nat.le_refl _
    · exact Nat.le_trans (ih child hc ht) (Nat.le_of_lt (count_lt_of_mem_children hc))

lemma length_flatMap_subschemas {list : List Schema}
    (h : ∀ s ∈ list, s.subschemas.length = s.count) :
    (list.flatMap subschemas).length = countList list := by
  induction list with
  | nil => rfl
  | cons s rest ih =>
    have hrest := ih fun t ht => h t (List.mem_cons_of_mem _ ht)
    rw [List.flatMap_cons, List.length_append, h s List.mem_cons_self, hrest, countList]

theorem length_subschemas (s : Schema) : s.subschemas.length = s.count := by
  induction s using induction_on_children with
  | step s ih =>
    rw [subschemas_eq, List.length_cons, length_flatMap_subschemas ih, count_eq s]
    omega

/-! ### Distinct names -/

/-- The properties of the schema have distinct names. -/
def DistinctNames (s : Schema) : Prop := (Entries.keys (s.properties.getD [])).Nodup

instance (s : Schema) : Decidable s.DistinctNames :=
  inferInstanceAs (Decidable (Entries.keys (s.properties.getD [])).Nodup)

/-! ### Compositions at the top -/

/-- Nothing in the schema is a composition. -/
def NeverComposes (s : Schema) : Prop := ∀ t ∈ s.subschemas, t.allOf = none

instance (s : Schema) : Decidable s.NeverComposes :=
  inferInstanceAs (Decidable (∀ t ∈ s.subschemas, t.allOf = none))

lemma NeverComposes.allOf_eq_none {s : Schema} (h : s.NeverComposes) : s.allOf = none :=
  h s (self_mem_subschemas s)

lemma NeverComposes.of_mem {s t : Schema} (h : s.NeverComposes) (ht : t ∈ s.subschemas) :
    t.NeverComposes :=
  fun u hu => h u (mem_subschemas_trans hu ht)

/-- Compositions stand at the top only: as the schema itself or as branches, at any depth, and
never inside a part. -/
inductive ComposesAtTop : Schema → Prop where
  | intro {s : Schema} (parts : ∀ p ∈ s.parts, p.NeverComposes)
      (branches : ∀ b ∈ s.branchList, b.ComposesAtTop) : s.ComposesAtTop

lemma NeverComposes.composesAtTop {s : Schema} (h : s.NeverComposes) : s.ComposesAtTop := by
  refine .intro (fun p hp => ?_) (fun b hb => ?_)
  · exact h.of_mem (child_mem_subschemas (parts_subset_children s hp))
  · simp [branchList, h.allOf_eq_none] at hb

/-- The parts of everything in a schema that composes at the top compose nothing. -/
theorem ComposesAtTop.neverComposes_part {s t p : Schema} (hs : s.ComposesAtTop)
    (ht : t ∈ s.subschemas) (hp : p ∈ t.parts) : p.NeverComposes := by
  induction hs with
  | @intro s parts branches ih =>
    rcases mem_subschemas.1 ht with rfl | ⟨child, hc, ht⟩
    · exact parts p hp
    · rcases List.mem_append.1 hc with hpart | hbranch
      · have hpt := child_mem_subschemas (parts_subset_children t hp)
        exact (parts child hpart).of_mem (mem_subschemas_trans hpt ht)
      · exact ih child hbranch ht

end OpenApiDoc.Schema
