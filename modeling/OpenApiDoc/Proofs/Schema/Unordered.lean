import OpenApiDoc.Proofs.Json.Unordered
import OpenApiDoc.Proofs.Schema.Keywords

/-!
# Schemas without an order of unknown keywords

The keywords of a schema that have no field of their own are kept as they are found. They are a
map from names to values, so two schemas are the same if they differ only in the order of such
keywords, or of the members of objects within their values. Properties, branches and the names of
a mapping keep their order.
-/

namespace OpenApiDoc

namespace Schema

/-- A schema whose unknown keywords are a map from names to values. -/
inductive Unordered where
  | mk (facts : SchemaFacts) (extra : String → Option Json.Unordered)
    (properties : Option (List (String × Unordered)))
    (additional : Option (AdditionalProperties Unordered)) (items : Option Unordered)
    (allOf : Option (List Unordered))

mutual

/-- The schema without the order of unknown keywords. -/
def unordered : Schema → Unordered
  | ⟨facts, properties, additional, items, allOf⟩ =>
    .mk { facts with extra := [] }
      (fun key => (Entries.get? key facts.extra).map Json.unordered)
      (match properties with
        | none => none
        | some entries => some (unorderedEntries entries))
      (match additional with
        | none => none
        | some (.flag allowed) => some (.flag allowed)
        | some (.schema value) => some (.schema value.unordered))
      (match items with
        | none => none
        | some item => some item.unordered)
      (match allOf with
        | none => none
        | some branches => some (unorderedList branches))

/-- The schemas of entries without the order of unknown keywords. -/
def unorderedEntries : List (String × Schema) → List (String × Unordered)
  | [] => []
  | (name, schema) :: rest => (name, schema.unordered) :: unorderedEntries rest

/-- The schemas of a list without the order of unknown keywords. -/
def unorderedList : List Schema → List Unordered
  | [] => []
  | schema :: rest => schema.unordered :: unorderedList rest

end

/-- Two schemas differ in the order of unknown keywords at most. -/
def Same (s t : Schema) : Prop := s.unordered = t.unordered

variable {s s' t : Schema}

lemma Same.refl (s : Schema) : s.Same s := rfl

lemma Same.trans (h : s.Same s') (h' : s'.Same t) : s.Same t := Eq.trans h h'

/-! ### Parts that are the same -/

/-- The additional properties without the order of unknown keywords. -/
def unorderedAdditional : AdditionalProperties Schema → AdditionalProperties Unordered
  | .flag allowed => .flag allowed
  | .schema value => .schema value.unordered

lemma unorderedEntries_eq (entries : List (String × Schema)) :
    unorderedEntries entries = Entries.mapValues unordered entries := by
  induction entries with
  | nil => rfl
  | cons entry rest ih =>
    rw [unorderedEntries, ih]
    rfl

lemma unorderedList_eq (list : List Schema) : unorderedList list = list.map unordered := by
  induction list with
  | nil => rfl
  | cons schema rest ih => rw [unorderedList, ih, List.map_cons]

/-- Schemas are the same just if they agree field by field. -/
lemma same_iff :
    s.Same t ↔
      { s.toSchemaFacts with extra := [] } = { t.toSchemaFacts with extra := [] } ∧
      (∀ key, (Entries.get? key s.extra).map Json.unordered =
        (Entries.get? key t.extra).map Json.unordered) ∧
      s.properties.map (Entries.mapValues unordered) =
        t.properties.map (Entries.mapValues unordered) ∧
      s.additional.map unorderedAdditional = t.additional.map unorderedAdditional ∧
      s.items.map unordered = t.items.map unordered ∧
      s.allOf.map (List.map unordered) = t.allOf.map (List.map unordered) := by
  have hunordered : ∀ s : Schema, s.unordered =
      .mk { s.toSchemaFacts with extra := [] }
        (fun key => (Entries.get? key s.extra).map Json.unordered)
        (s.properties.map (Entries.mapValues unordered)) (s.additional.map unorderedAdditional)
        (s.items.map unordered) (s.allOf.map (List.map unordered)) := by
    rintro ⟨facts, properties, additional, items, allOf⟩
    rw [unordered.eq_def]
    dsimp only
    congr 1
    · cases properties with
      | none => rfl
      | some entries => exact congrArg some (unorderedEntries_eq entries)
    · rcases additional with _ | (allowed | value) <;> rfl
    · cases items <;> rfl
    · cases allOf with
      | none => rfl
      | some branches => exact congrArg some (unorderedList_eq branches)
  rw [Same, hunordered s, hunordered t, Unordered.mk.injEq, funext_iff]

end Schema

/-! ### Keywords -/

namespace Keyword

/-- Two keywords make the same of schemas that are the same. -/
def Same (k k' : Keyword) : Prop := ∀ s t : Schema, s.Same t → (k.addTo s).Same (k'.addTo t)

variable {v w : Json}

lemma Same.extra (name : String) (h : v.unordered = w.unordered) :
    (Keyword.extra name v).Same (.extra name w) := by
  intro s t hst
  rw [Schema.same_iff] at hst ⊢
  obtain ⟨facts, extra, rest⟩ := hst
  refine ⟨facts, fun key => ?_, rest⟩
  simp only [addTo, Entries.get?_insert]
  split
  · rw [Option.map_some, Option.map_some, h]
  · exact extra key

lemma Same.properties {entries entries' : Option (List (String × Schema))}
    (h : entries.map (Entries.mapValues Schema.unordered) =
      entries'.map (Entries.mapValues Schema.unordered)) :
    (Keyword.properties entries).Same (.properties entries') := by
  intro s t hst
  rw [Schema.same_iff] at hst ⊢
  obtain ⟨facts, extra, -, rest⟩ := hst
  exact ⟨facts, extra, h, rest⟩

lemma Same.additional {value value' : Option (AdditionalProperties Schema)}
    (h : value.map Schema.unorderedAdditional = value'.map Schema.unorderedAdditional) :
    (Keyword.additional value).Same (.additional value') := by
  intro s t hst
  rw [Schema.same_iff] at hst ⊢
  obtain ⟨facts, extra, properties, -, rest⟩ := hst
  exact ⟨facts, extra, properties, h, rest⟩

lemma Same.items {item item' : Option Schema}
    (h : item.map Schema.unordered = item'.map Schema.unordered) :
    (Keyword.items item).Same (.items item') := by
  intro s t hst
  rw [Schema.same_iff] at hst ⊢
  obtain ⟨facts, extra, properties, additional, -, allOf⟩ := hst
  exact ⟨facts, extra, properties, additional, h, allOf⟩

lemma Same.allOf {branches branches' : Option (List Schema)}
    (h : branches.map (List.map Schema.unordered) = branches'.map (List.map Schema.unordered)) :
    (Keyword.allOf branches).Same (.allOf branches') := by
  intro s t hst
  rw [Schema.same_iff] at hst ⊢
  obtain ⟨facts, extra, properties, additional, items, -⟩ := hst
  exact ⟨facts, extra, properties, additional, items, h⟩

lemma Same.refl (k : Keyword) : k.Same k := by
  cases k with
  | extra name value => exact .extra name rfl
  | properties entries => exact .properties rfl
  | additional value => exact .additional rfl
  | items item => exact .items rfl
  | allOf branches => exact .allOf rfl
  | _ =>
    intro s t hst
    rw [Schema.same_iff] at hst ⊢
    obtain ⟨facts, rest⟩ := hst
    rw [SchemaFacts.mk.injEq] at facts
    refine ⟨?_, rest⟩
    simp [addTo, facts]

/-- Keywords of different names may be added in either order. -/
lemma addTo_exchange {x y : Keyword} (hne : x.name ≠ y.name) (s : Schema) :
    (y.addTo (x.addTo s)).Same (x.addTo (y.addTo s)) := by
  by_cases hx : x.IsKnown
  · rw [addTo_comm x y hne hx]
    exact .refl _
  by_cases hy : y.IsKnown
  · rw [addTo_comm y x hne.symm hy]
    exact .refl _
  simp only [IsKnown, not_forall, ne_eq, not_not] at hx hy
  obtain ⟨name, value, rfl⟩ := hx
  obtain ⟨name', value', rfl⟩ := hy
  rw [Schema.same_iff]
  refine ⟨rfl, fun key => ?_, rfl, rfl, rfl, rfl⟩
  simp only [addTo, Entries.get?_insert]
  split
  · next hkey => rw [if_neg (hkey ▸ hne)]
  · rfl

end Keyword

end OpenApiDoc
