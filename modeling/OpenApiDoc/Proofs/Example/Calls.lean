import OpenApiDoc.Proofs.Example.Form
import OpenApiDoc.Proofs.Resolver.Provenance

/-!
# What an example is made of

To make the example of a schema the generator asks for the examples of other schemas. It
*holds* some of them as items, values or properties; another one is that of a definition
that is entered. `Generator.Calls` says which schemas are asked for, and after which visits.
The example depends on the answers only (`step_congr`), and it is finished exactly if all
answers are (`isSome_step`).
-/

namespace OpenApiDoc.Example.Generator

variable {g : Generator} {recur recur' : Recur} {visits : Visits} {s : Schema}

/-- The example of a schema holds that of another one, with no definition entered
between them. -/
inductive Holds (g : Generator) (s : Schema) : Schema → Prop where
  | merged {branches : List Schema} {p : String × Schema} (generated : s.authored = none)
      (allOf : s.allOf = some branches)
      (hp : p ∈ g.shown (g.definitions.requiredProperties s) (g.mergedProperties s)) :
      g.Holds s p.2
  | item {item : Schema} (bare : Bare s) (isArray : s.isArray = true)
      (items : s.items = some item) : g.Holds s item
  | value {value : Schema} (bare : Bare s) (isArray : s.isArray = false)
      (properties : s.properties = none) (values : s.valueSchema = some value) : g.Holds s value
  | property {properties : List (String × Schema)} {p : String × Schema} (bare : Bare s)
      (isArray : s.isArray = false) (first : firstValue s = none)
      (hproperties : s.properties = some properties) (hp : p ∈ g.shown s.required properties) :
      g.Holds s p.2

/-- The example of a schema, reached after some visits, asks for that of another one. -/
inductive Calls (g : Generator) (visits : Visits) (s : Schema) : Visits → Schema → Prop where
  | holds {s' : Schema} (h : g.Holds s s') : g.Calls visits s visits s'
  | entered {reference : String} {target : Schema} {inner : Visits}
      (follows : Follows s reference)
      (get : g.definitions.get? (g.definitions.referenceName reference) = some target)
      (generated : target.authored = none)
      (enter : visits.enter (g.definitions.referenceName reference) g.options.limit =
        some inner) :
      g.Calls visits s inner target

/-! ### Where calls lead -/

/-- What holds of the properties in a composition and in all definitions that it reaches holds of
the properties of its merged object. -/
lemma forall_mergedProperties {P : Schema → Prop} (own : s.EveryProperty P)
    (reached : ∀ name t, g.definitions.Reaches s name → g.definitions.get? name = some t →
      t.EveryProperty P) : ∀ p ∈ g.mergedProperties s, P p.2 := by
  have htype : (g.resolver.resolveSchema s).value.EveryProperty P :=
    Resolver.everyProperty_resolveIn own reached []
  intro p hp
  rw [mergedProperties] at hp
  rcases hshape : (g.resolver.resolveSchema s).value.object? with _ | shape
  · simp [hshape] at hp
  · rw [hshape] at hp
    exact htype.of_object? hshape p hp

/-- A schema stands strictly inside another one, or in a definition that the other
one reaches. -/
def Leads (g : Generator) (s s' : Schema) : Prop :=
  (s' ∈ s.subschemas ∧ s'.count < s.count) ∨
    ∃ name t, g.definitions.Reaches s name ∧ g.definitions.get? name = some t ∧ s' ∈ t.subschemas

lemma Holds.mem_parts_or_merged {s' : Schema} (h : g.Holds s s') :
    s' ∈ s.parts ∨ s.allOf ≠ none ∧ ∃ p ∈ g.mergedProperties s, p.2 = s' := by
  cases h with
  | merged _ allOf hp =>
    exact Or.inr ⟨by simp [allOf], _, (mem_shown.1 hp).1, rfl⟩
  | item _ _ items => exact Or.inl (Schema.mem_parts_of_items items)
  | value _ _ _ values => exact Or.inl (Schema.mem_parts_of_valueSchema values)
  | property _ _ _ hproperties hp =>
    have hmem := Schema.mem_propertySchemas hproperties (mem_shown.1 hp).1
    exact Or.inl (Schema.propertySchemas_subset_parts s hmem)

lemma leads_part {p : Schema} (hp : p ∈ s.parts) : g.Leads s p :=
  have hchild := Schema.parts_subset_children s hp
  Or.inl ⟨Schema.child_mem_subschemas hchild, Schema.count_lt_of_mem_children hchild⟩

lemma leads_merged {p : String × Schema} (hp : p ∈ g.mergedProperties s) : g.Leads s p.2 := by
  refine forall_mergedProperties (fun t ht p hp => ?_)
    (fun name t hname get u hu p hp => ?_) p hp
  · have hchild := Schema.parts_subset_children t (Schema.propertySchemas_subset_parts t hp)
    exact Or.inl ⟨Schema.mem_subschemas_trans (Schema.child_mem_subschemas hchild) ht,
      Nat.lt_of_lt_of_le (Schema.count_lt_of_mem_children hchild)
        (Schema.count_le_of_mem_subschemas ht)⟩
  · have hchild := Schema.parts_subset_children u (Schema.propertySchemas_subset_parts u hp)
    exact Or.inr ⟨name, t, hname, get,
      Schema.mem_subschemas_trans (Schema.child_mem_subschemas hchild) hu⟩

lemma Holds.leads {s' : Schema} (h : g.Holds s s') : g.Leads s s' := by
  rcases h.mem_parts_or_merged with hpart | ⟨-, p, hp, rfl⟩
  · exact leads_part hpart
  · exact leads_merged hp

theorem Calls.leads {visits' : Visits} {s' : Schema} (call : g.Calls visits s visits' s') :
    g.Leads s s' := by
  cases call with
  | holds h => exact h.leads
  | entered follows get _ _ =>
    exact Or.inr ⟨_, _, Definitions.reaches_of_reference follows.refers, get,
      s'.self_mem_subschemas⟩

/-! ### Equal answers -/

/-- The example of a schema depends on what it asks for, on the type of a composition and on the
definition of a reference. -/
theorem step_congr {g₁ g₂ : Generator} {visits₁ visits₂ : Visits}
    (options : g₁.options = g₂.options)
    (resolved : g₁.resolver.resolveSchema s = g₂.resolver.resolveSchema s)
    (required : g₁.definitions.requiredProperties s = g₂.definitions.requiredProperties s)
    (named : g₁.definitions.referenceName = g₂.definitions.referenceName)
    (defined : ∀ reference, s.reference = some reference →
      g₁.definitions.get? (g₁.definitions.referenceName reference) =
        g₂.definitions.get? (g₁.definitions.referenceName reference))
    (holds : ∀ s', g₁.Holds s s' → recur visits₁ s' = recur' visits₂ s')
    (entered : ∀ reference target, Follows s reference →
      g₁.definitions.get? (g₁.definitions.referenceName reference) = some target →
      target.authored = none →
      (visits₁.enter (g₁.definitions.referenceName reference) g₁.options.limit).map
          (recur · target) =
        (visits₂.enter (g₁.definitions.referenceName reference) g₁.options.limit).map
          (recur' · target)) :
    g₁.step recur visits₁ s = g₂.step recur' visits₂ s := by
  cases g₁.form visits₁ s with
  | authored value authored => rw [step_of_authored authored, step_of_authored authored]
  | composed branches generated allOf =>
    rw [step_of_composed generated allOf, step_of_composed generated allOf, mergedProperties,
      mergedProperties, ← resolved, ← required]
    congr 1
    funext _
    exact objectExample_congr options fun p hp => holds p.2 (.merged generated allOf hp)
  | dangling reference follows get =>
    have hget := defined reference follows.refers
    rw [step_of_follows follows, step_of_follows follows, ← named,
      referenceExample_of_missing get, referenceExample_of_missing (hget ▸ get)]
  | exemplified reference target value follows get authored =>
    have hget := defined reference follows.refers
    rw [step_of_follows follows, step_of_follows follows, ← named,
      referenceExample_of_authored get authored,
      referenceExample_of_authored (hget ▸ get) authored]
  | refused reference target follows get generated enter =>
    have hget := defined reference follows.refers
    have hentered := entered reference target follows get generated
    rw [enter, Option.map_none, eq_comm, Option.map_eq_none_iff] at hentered
    rw [step_of_follows follows, step_of_follows follows, ← named,
      referenceExample_of_refused get generated enter,
      referenceExample_of_refused (hget ▸ get) generated (options ▸ hentered)]
  | entered reference target inner follows get generated enter =>
    have hget := defined reference follows.refers
    have hentered := entered reference target follows get generated
    rw [enter, Option.map_some, eq_comm, Option.map_eq_some_iff] at hentered
    obtain ⟨inner', enter', heq⟩ := hentered
    rw [step_of_follows follows, step_of_follows follows, ← named,
      referenceExample_of_entered get generated enter,
      referenceExample_of_entered (hget ▸ get) generated (options ▸ enter'), heq]
  | itemless bare isArray items =>
    rw [step_of_itemless bare isArray items, step_of_itemless bare isArray items]
  | array item bare isArray items =>
    rw [step_of_array bare isArray items, step_of_array bare isArray items,
      holds item (.item bare isArray items)]
  | map value bare isArray properties values =>
    rw [step_of_map bare isArray properties values, step_of_map bare isArray properties values,
      holds value (.value bare isArray properties values)]
  | enumerated value bare isArray noMap first =>
    rw [step_of_enumerated bare isArray noMap first, step_of_enumerated bare isArray noMap first]
  | object properties bare isArray first hproperties =>
    rw [step_of_object bare isArray first hproperties,
      step_of_object bare isArray first hproperties]
    exact objectExample_congr options fun p hp =>
      holds p.2 (.property bare isArray first hproperties hp)
  | plain bare isArray first properties values =>
    rw [step_of_plain bare isArray first properties values,
      step_of_plain bare isArray first properties values]

/-- The answers to all calls decide what a generator makes of a schema. -/
theorem step_congr_of_calls
    (h : ∀ visits' s', g.Calls visits s visits' s' → recur visits' s' = recur' visits' s') :
    g.step recur visits s = g.step recur' visits s := by
  refine step_congr rfl rfl rfl rfl (fun _ _ => rfl) (fun s' hs' => h visits s' (.holds hs')) ?_
  intro reference target follows get generated
  rcases enter : visits.enter (g.definitions.referenceName reference) g.options.limit
    with _ | inner
  · rfl
  · rw [Option.map_some, Option.map_some, h inner target (.entered follows get generated enter)]

/-! ### Finished answers -/

lemma isSome_of_calls (h : (g.step recur visits s).result.isSome) {visits' : Visits}
    {s' : Schema} (call : g.Calls visits s visits' s') : (recur visits' s').result.isSome := by
  cases call with
  | holds hs' =>
    cases hs' with
    | merged generated allOf hp =>
      rw [step_of_composed generated allOf, Draft.result_bind] at h
      exact isSome_objectExample.1 h _ hp
    | item bare isArray items =>
      rwa [step_of_array bare isArray items, Draft.result_map, Option.isSome_map] at h
    | value bare isArray properties values =>
      rwa [step_of_map bare isArray properties values, Draft.result_map, Option.isSome_map] at h
    | property bare isArray first hproperties hp =>
      rw [step_of_object bare isArray first hproperties] at h
      exact isSome_objectExample.1 h _ hp
  | entered follows get generated enter =>
    rwa [step_of_follows follows, referenceExample_of_entered get generated enter] at h

lemma isSome_step_of_calls
    (h : ∀ visits' s', g.Calls visits s visits' s' → (recur visits' s').result.isSome) :
    (g.step recur visits s).result.isSome := by
  cases g.form visits s with
  | authored value authored => simp [step_of_authored authored]
  | composed branches generated allOf =>
    rw [step_of_composed generated allOf, Draft.result_bind]
    exact isSome_objectExample.2 fun p hp =>
      h visits p.2 (.holds (.merged generated allOf hp))
  | dangling reference follows get =>
    simp [step_of_follows follows, referenceExample_of_missing get]
  | exemplified reference target value follows get authored =>
    simp [step_of_follows follows, referenceExample_of_authored get authored]
  | refused reference target follows get generated enter =>
    simp [step_of_follows follows, referenceExample_of_refused get generated enter]
  | entered reference target inner follows get generated enter =>
    rw [step_of_follows follows, referenceExample_of_entered get generated enter]
    exact h inner target (.entered follows get generated enter)
  | itemless bare isArray items => simp [step_of_itemless bare isArray items]
  | array item bare isArray items =>
    rw [step_of_array bare isArray items, Draft.result_map, Option.isSome_map]
    exact h visits item (.holds (.item bare isArray items))
  | map value bare isArray properties values =>
    rw [step_of_map bare isArray properties values, Draft.result_map, Option.isSome_map]
    exact h visits value (.holds (.value bare isArray properties values))
  | enumerated value bare isArray noMap first =>
    simp [step_of_enumerated bare isArray noMap first]
  | object properties bare isArray first hproperties =>
    rw [step_of_object bare isArray first hproperties]
    exact isSome_objectExample.2 fun p hp =>
      h visits p.2 (.holds (.property bare isArray first hproperties hp))
  | plain bare isArray first properties values =>
    simp [step_of_plain bare isArray first properties values]

/-- The example of a schema is finished exactly if everything that it asks for is. -/
theorem isSome_step :
    (g.step recur visits s).result.isSome ↔
      ∀ visits' s', g.Calls visits s visits' s' → (recur visits' s').result.isSome :=
  ⟨fun h _ _ call => isSome_of_calls h call, isSome_step_of_calls⟩

end OpenApiDoc.Example.Generator
