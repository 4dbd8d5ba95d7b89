import Mathlib
import OpenApiDoc.Proofs.Entries
import OpenApiDoc.Proofs.Example.Routes
import OpenApiDoc.Proofs.Resolver.PropertyNames
import OpenApiDoc.Resolver.Rows

/-!
# Rows and the example of a definition

Each row of a definition has an example that is made for it alone: from the schema of the
property, with nothing visited yet. The example of the definition is made in one go, and its
properties are reached after the visits on the way to them. Where references lead to definitions
and never in a circle the visits do not matter, so the example of the definition is put together
from those of its rows.

A property is looked up by its name, so the names in a schema have to be distinct. They are in
the definitions of every loaded document (`Document.every_distinctNames_of_load`).
-/

namespace OpenApiDoc

/-- The schema is no composition and reference at once. -/
def Schema.Apart (s : Schema) : Prop := s.allOf = none ∨ s.reference = none

instance (s : Schema) : Decidable s.Apart :=
  inferInstanceAs (Decidable (s.allOf = none ∨ s.reference = none))

/-! ### Rows -/

namespace Resolver

open Example

variable {r : Resolver} {g : Generator} {config : Config} {parent : String}

/-- A row has the name of its property and the example of the schema that it is made from. -/
lemma row_sample {property : PropertyRequirement} {source : Schema} {row : Hoisted PropertyRow}
    (h : (r.row g config parent property source).result = some row) :
    (row.value.name, some row.value.sample) =
      (property.name, (g.schemaExample source).result) := by
  simp only [Resolver.row, Draft.result_bind, Draft.result_pure, Option.bind_eq_some_iff] at h
  obtain ⟨_, _, sample, hsample, h⟩ := h
  cases h
  rw [hsample]

lemma isSome_row {property : PropertyRequirement} {source : Schema} :
    (r.row g config parent property source).result.isSome ↔
      (g.schemaExample source).result.isSome := by
  rcases h : (g.schemaExample source).result with _ | sample <;> simp [row, h]

/-- The schema of a property is looked up by the name in its row, and found where names are
distinct. -/
lemma distribute_sources {α : Type} {o : ObjectType} (required : List String)
    (distinct : (Entries.keys o.properties).Nodup) (f : String × Schema → α) :
    (o.distribute required).map (fun property =>
        f (property.name, (Entries.get? property.name o.properties).getD property.schema)) =
      o.properties.map f := by
  rw [ObjectType.distribute, List.map_map]
  refine List.map_congr_left fun p hp => ?_
  by_cases hrequired : p.1 ∈ required <;> simp [hrequired, Entries.get?_of_mem distinct hp]

/-- The rows of an object have the examples of its properties, in order. -/
lemma propertyRows_samples {o : ObjectType} {required : List String}
    {rows : Hoisted (List PropertyRow)} (distinct : (Entries.keys o.properties).Nodup)
    (h : (r.propertyRows g config parent o required).result = some rows) :
    rows.value.map (fun row => (row.name, some row.sample)) =
      o.properties.map fun p => (p.1, (g.schemaExample p.2).result) := by
  simp only [propertyRows, Draft.result_bind, Draft.result_pure, Option.bind_eq_some_iff] at h
  obtain ⟨results, hresults, h⟩ := h
  cases h
  have hsamples := Draft.map_of_mapM (fun _ _ => row_sample) hresults
  rw [List.map_map]
  exact hsamples.trans
    (distribute_sources required distinct fun p => (p.1, (g.schemaExample p.2).result))

/-- The rows of an object are finished just if the examples of its properties are. -/
lemma isSome_propertyRows_iff {o : ObjectType} {required : List String}
    (distinct : (Entries.keys o.properties).Nodup) :
    (r.propertyRows g config parent o required).result.isSome ↔
      ∀ p ∈ o.properties, (g.schemaExample p.2).result.isSome := by
  have hsources := distribute_sources required distinct fun p =>
    (g.schemaExample p.2).result.isSome
  have hrows : (r.propertyRows g config parent o required).result.isSome ↔
      ∀ property ∈ o.distribute required, (g.schemaExample
        ((Entries.get? property.name o.properties).getD property.schema)).result.isSome := by
    simp only [propertyRows, bind_pure_comp, Draft.result_map, Option.isSome_map,
      Draft.isSome_mapM, isSome_row]
  rw [hrows]
  have hall : (∀ b ∈ (o.distribute required).map fun property : PropertyRequirement =>
        (g.schemaExample ((Entries.get? property.name o.properties).getD
          property.schema)).result.isSome, b = true) ↔
      ∀ b ∈ o.properties.map fun p => (g.schemaExample p.2).result.isSome, b = true := by
    rw [hsources]
  simpa only [List.forall_mem_map] using hall

end Resolver

namespace Example.Generator

variable {g : Generator} {recur : Recur} {visits : Visits} {s : Schema} {name : String}

/-! ### Examples of schemas on their own -/

/-- Where examples are generated, looking for an authored one first makes no difference to a
schema that is no composition and reference at once. -/
lemma schemaExample_eq (generates : g.options.generates = true) (apart : s.Apart) :
    g.schemaExample s = some <$> g.generate s := by
  obtain ⟨depth, hdepth⟩ := g.exists_depth s.count
  rcases authored : s.authored with _ | value
  · rcases refers : s.reference with _ | reference
    · simp [schemaExample, authoredExample, authored, refers, generates]
    · have allOf : s.allOf = none := apart.resolve_right (by simp [refers])
      have follows : Follows s reference := ⟨authored, allOf, refers⟩
      have hlookup : g.authoredExample s =
          (g.definitions.get? (g.definitions.referenceName reference)).bind
            fun target => target.authored := by
        simp [authoredExample, authored, refers, Definitions.lookup?]
      rw [schemaExample, hlookup]
      rcases get : g.definitions.get? (g.definitions.referenceName reference) with _ | target
      · simp [generates]
      · rcases hauthored : target.authored with _ | value
        · simp [hauthored, generates]
        · rw [generate, hdepth, exampleWithin, step_of_follows follows,
            referenceExample_of_authored get hauthored]
          simp [hauthored]
  · rw [schemaExample, authoredExample, generate, hdepth, exampleWithin,
      step_of_authored authored]
    simp [authored]

/-- A grounded schema has the same example on its own as after fresh visits. -/
lemma schemaExample_of_fresh {depth : Nat} (generates : g.options.generates = true)
    (grounded : g.definitions.Grounded s) (fresh : g.Fresh visits s) (apart : s.Apart)
    (finished : (g.exampleWithin depth visits s).result.isSome) :
    (g.schemaExample s).result = (g.exampleWithin depth visits s).result.map some := by
  have hgenerate : (g.generate s).result.isSome :=
    isSome_generate_iff.2 (ends_of_grounded grounded {})
  rw [schemaExample_eq generates apart, Draft.result_map,
    exampleWithin_eq_of_isSome grounded fresh finished hgenerate]
  rfl

/-! ### The example of an object -/

/-- With optional properties shown, the example of an object has the examples of all
its properties, in order. -/
lemma entries_of_objectExample (optional : g.options.showsOptionalProperties = true)
    {required : List String} {properties : List (String × Schema)} {value : Json}
    (h : (g.objectExample recur visits required properties).result = some value) :
    ∃ entries, value = .obj entries ∧
      entries.map (fun entry => (entry.1, some entry.2)) =
        properties.map fun p => (p.1, (recur visits p.2).result) := by
  have hshown : g.shown required properties = properties := by simp [shown, shows, optional]
  rw [objectExample_eq, hshown, Draft.result_map, Option.map_eq_some_iff] at h
  obtain ⟨entries, hentries, rfl⟩ := h
  refine ⟨entries, rfl, Draft.map_of_mapM (fun p entry hentry => ?_) hentries⟩
  rw [Draft.result_map, Option.map_eq_some_iff] at hentry
  obtain ⟨value, hvalue, rfl⟩ := hentry
  rw [hvalue]

/-- What a definition leads to is nested in a definition. -/
lemma Leads.forall_of_every {P : Schema → Prop} {s' : Schema} (h : g.Leads s s')
    (get : g.definitions.get? name = some s) (every : g.definitions.Every P) : P s' := by
  rcases h with ⟨hmem, -⟩ | ⟨n, t, -, get', hmem⟩
  · exact every name s get s' hmem
  · exact every n t get' s' hmem

/-- An example that shows an object has for each property, in order, the example that the schema
of the property has on its own. -/
theorem Shows.exists_entries {shape : ObjectType} {draft : Draft Json}
    (shown : g.Shows shape draft) (finished : draft.result.isSome)
    (generates : g.options.generates = true)
    (optional : g.options.showsOptionalProperties = true)
    (apart : g.definitions.Every Schema.Apart) :
    ∃ entries, draft.result = some (.obj entries) ∧
      entries.map (fun entry => (entry.1, some (some entry.2))) =
        shape.properties.map fun p => (p.1, (g.schemaExample p.2).result) := by
  cases shown with
  | @intro owner t visits depth get names grounded fresh leads result =>
    rw [result] at finished ⊢
    obtain ⟨value, hvalue⟩ := Option.isSome_iff_exists.1 finished
    obtain ⟨entries, rfl, hentries⟩ := entries_of_objectExample optional hvalue
    have hsamples : ∀ p ∈ shape.properties, (g.schemaExample p.2).result =
        (g.exampleWithin depth visits p.2).result.map some := by
      intro p hp
      refine schemaExample_of_fresh generates ((leads p hp).grounded grounded)
        (fresh.of_leads (leads p hp)) ((leads p hp).forall_of_every get apart) ?_
      exact isSome_objectExample.1 finished p (mem_shown.2 ⟨hp, by simp [shows, optional]⟩)
    refine ⟨entries, hvalue, ?_⟩
    have hmap := congrArg (List.map fun e : String × Option Json => (e.1, e.2.map some)) hentries
    simp only [List.map_map, Function.comp_def, Option.map_some] at hmap
    rw [hmap]
    exact List.map_congr_left fun p hp => by rw [hsamples p hp]

/-! ### The example of a definition -/

/-- The example of a grounded definition is finished and shows the object behind a
reference to the definition. -/
lemma exists_shows {links : LinkTargets} {shape : ObjectType}
    (generates : g.options.generates = true) (get : g.definitions.get? name = some s)
    (grounded : g.definitions.Grounded s)
    (generated : ∀ t, g.definitions.Aliases s t → t.authored = none)
    (object : (Resolver.resolveReference ⟨g.definitions, links⟩ name).value.object? =
      some shape) :
    ∃ draft, g.Shows shape draft ∧ draft.result.isSome ∧
      (g.definitionExample name).result = draft.result.map some := by
  have hgenerated : s.authored = none := generated s (.refl s)
  -- the definition is not reached from its own schema, so entering it leaves the visits fresh
  have hname : ∀ n, g.definitions.Reaches s n → n ≠ name := by
    rintro n hn rfl
    exact grounded.acyclic n s hn get hn
  obtain ⟨visits, enter⟩ : ∃ visits, ({} : Visits).enter name g.options.limit = some visits :=
    Visits.enter_of_lt g.options.limit.pos
  have fresh : g.Fresh visits s := fun n hn => by
    rw [Visits.count_enter enter, if_neg (hname n hn), Visits.count_empty]
  have finished : (g.exampleWithin (g.depth 0) visits s).result.isSome :=
    (ends_of_grounded grounded visits).isSome_of_depth (Nat.le_refl (Schema.countList []))
      (mem_known_of_get? get) ((Visits.within_empty _).enter enter)
  rw [ResolvedType.object?_eq_some, Resolver.resolveReference,
    Resolver.expand_of_not_mem get List.not_mem_nil] at object
  refine ⟨g.exampleWithin (g.depth 0) visits s, ?_, finished, ?_⟩
  · exact shows_exampleWithin get grounded fresh generated
      (fun n hn => by simpa using hname n hn) object finished
  · simp [definitionExample, get, hgenerated, generates,
      referenceExample_of_entered get hgenerated enter]

/-- Where references lead to definitions and never in a circle and no schema is a composition and
a reference at once, a definition that has rows has the object as its example that holds, in the
order of the rows, the example of each row under its name; provided optional properties are shown
and no example is authored on the definition or on those that it is an alias of. -/
theorem definitionExample_rows {links : LinkTargets} {config : Config}
    (generates : g.options.generates = true)
    (optional : g.options.showsOptionalProperties = true)
    (get : g.definitions.get? name = some s) (grounded : g.definitions.Grounded s)
    (generated : ∀ t, g.definitions.Aliases s t → t.authored = none)
    (apart : g.definitions.Every Schema.Apart)
    (distinct : g.definitions.Every Schema.DistinctNames) :
    (Resolver.definitionRows ⟨g.definitions, links⟩ g config name).result.isSome ∧
    ∀ rows, (Resolver.definitionRows ⟨g.definitions, links⟩ g config name).result =
        some (some rows) →
      ∃ entries, (g.definitionExample name).result = some (some (.obj entries)) ∧
        rows.value.map (fun row => (row.name, row.sample)) =
          entries.map fun entry => (entry.1, some entry.2) := by
  have hnames : (Resolver.resolveReference ⟨g.definitions, links⟩
      name).value.propertyNames.Nodup := by
    rw [Resolver.resolveReference, Resolver.expand_of_not_mem get List.not_mem_nil]
    simpa [Resolver.linkTo] using Resolver.nodup_propertyNames_resolveIn ⟨g.definitions, links⟩
      [name] s fun t ht => distinct.of_aliases get ht
  simp only [Resolver.definitionRows, get, Draft.result_bind, Draft.result_ofNoted,
    Option.bind_some]
  rcases hobject : (Resolver.resolveReference ⟨g.definitions, links⟩ name).value.object?
    with _ | shape
  · simp
  rw [ResolvedType.propertyNames, ResolvedType.properties, hobject] at hnames
  obtain ⟨draft, shown, finished, hexample⟩ :=
    exists_shows generates get grounded generated hobject
  obtain ⟨entries, hdraft, hentries⟩ := shown.exists_entries finished generates optional apart
  have hsamples : ∀ p ∈ shape.properties, (g.schemaExample p.2).result.isSome := by
    intro p hp
    have hmem := List.mem_map_of_mem (f := fun p => (p.1, (g.schemaExample p.2).result)) hp
    rw [← hentries] at hmem
    obtain ⟨entry, -, heq⟩ := List.mem_map.1 hmem
    have hsample : some (some entry.2) = (g.schemaExample p.2).result := (Prod.ext_iff.1 heq).2
    rw [← hsample]
    rfl
  simp only [Draft.result_map, Option.isSome_map]
  refine ⟨(Resolver.isSome_propertyRows_iff hnames).2 hsamples, fun rows hrows => ?_⟩
  rw [Option.map_eq_some_iff] at hrows
  obtain ⟨rows', hrows, heq⟩ := hrows
  obtain rfl := Option.some.inj heq
  refine ⟨entries, by rw [hexample, hdraft, Option.map_some], ?_⟩
  have hsame := (Resolver.propertyRows_samples hnames hrows).trans hentries.symm
  have hmap := congrArg (List.map fun e : String × Option (Option Json) => (e.1, e.2.join)) hsame
  simpa [Function.comp_def] using hmap

/-- An alias of a composition whose branches are a reference and an object, with properties that
refer to definitions as well, one of them within an array. -/
def kennel : Generator where
  definitions :=
    (((Definitions.empty.insert "Name" { type := some (.single "string") }).insert "Pet"
      { required := ["name"]
        properties := some
          [("name", { reference := some "Name" }),
            ("tags", { type := some (.single "array"),
                       items := some { reference := some "Name" } })] }).insert "Dog"
      { allOf := some
          [{ reference := some "Pet" },
            { properties := some [("tail", { type := some (.single "boolean") })] }]
      }).insert "Hound"
      { reference := some "Dog" }
  options := { generates := true, showsOptionalProperties := true }

theorem definitionExample_rows_hound :
    ∃ rows entries,
      (Resolver.definitionRows ⟨kennel.definitions, .sameDocument⟩ kennel {} "Hound").result =
        some (some rows) ∧
      (kennel.definitionExample "Hound").result = some (some (.obj entries)) ∧
      rows.value.map (fun row => (row.name, row.sample)) =
        entries.map fun entry => (entry.1, some entry.2) := by
  have hrows : ((Resolver.definitionRows ⟨kennel.definitions, .sameDocument⟩ kennel {}
      "Hound").result.bind id).isSome = true := by cbv
  obtain ⟨rows, hrows⟩ := Option.isSome_iff_exists.1 hrows
  rw [Option.bind_eq_some_iff] at hrows
  obtain ⟨_, hrows, rfl⟩ := hrows
  have get : kennel.definitions.get? "Hound" = some { reference := some "Dog" } := rfl
  have grounded : kennel.definitions.Grounded { reference := some "Dog" } :=
    Definitions.grounded_of_rank (kennel.definitions.names.idxOf ·) (by decide) (by decide)
  have generated : ∀ t, kennel.definitions.Aliases { reference := some "Dog" } t →
      t.authored = none := fun t ht =>
    ht.forall (P := fun t => t.authored = none) rfl (by decide)
  obtain ⟨-, hsame⟩ := definitionExample_rows rfl rfl get grounded generated
    (Definitions.every_of_names (by decide)) (Definitions.every_of_names (by decide))
  obtain ⟨entries, hentries, heq⟩ := hsame rows hrows
  exact ⟨rows, entries, hrows, hentries, heq⟩

end Example.Generator

end OpenApiDoc
