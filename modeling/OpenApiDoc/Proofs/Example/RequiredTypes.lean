import OpenApiDoc.Proofs.Example.RequiredRows
import OpenApiDoc.Proofs.Resolver.InlineNames

/-!
# Required properties of types

The type of an object holds its properties but no required list. With optional properties left
out, the example of the type keeps to the list of the definition that goes by the name of the
type. The type of a schema has the title for a name, or in a composition the name of the last
branch that has one, and a definition of that name need not be the schema.

So the example of the type may lack required properties and have optional ones, while the example
of the schema itself has the required ones. Both have the same keys just if the two lists agree
on the properties of the object.
-/

namespace OpenApiDoc.Example.Generator

variable {g : Generator} {s : Schema} {shape : ObjectType} {links : LinkTargets}

/-- The required list of the definition of this name; it is empty where there is none. -/
def requiredUnder (g : Generator) (name : Option String) : List String :=
  ((name.bind g.definitions.get?).map g.definitions.requiredProperties).getD []

/-- The keys that two required lists leave of the properties are the same just if the lists
agree on the properties. -/
lemma filter_contains_eq_iff {keys required required' : List String} :
    keys.filter required.contains = keys.filter required'.contains ↔
      ∀ key ∈ keys, key ∈ required ↔ key ∈ required' := by
  constructor
  · intro h key hkey
    have hmem := congrArg (key ∈ ·) h
    simpa [hkey] using hmem
  · intro h
    refine List.filter_congr fun key hkey => ?_
    rw [Bool.eq_iff_iff, List.contains_iff_mem, List.contains_iff_mem, h key hkey]

/-! ### The properties of the type -/

/-- The generator finds the same object, wherever links lead. -/
lemma object?_resolver
    (object : (Resolver.resolveSchema ⟨g.definitions, links⟩ s).value = .object shape) :
    (g.resolver.resolveSchema s).value.object? = some shape := by
  have hchain : ∀ name, g.definitions.Reaches s name → name ∉ ([] : List String) :=
    fun _ _ => List.not_mem_nil
  rw [← object?_resolveIn links hchain]
  exact congrArg ResolvedType.object? object

lemma mergedProperties_of_object
    (object : (Resolver.resolveSchema ⟨g.definitions, links⟩ s).value = .object shape) :
    g.mergedProperties s = shape.properties := by
  rw [mergedProperties, object?_resolver object]
  rfl

/-! ### Keys -/

/-- A finished example of the type keeps to the required list of the definition of its name. -/
lemma keys_of_typeExample (optional : g.options.showsOptionalProperties = false)
    (object : (Resolver.resolveSchema ⟨g.definitions, links⟩ s).value = .object shape)
    {value : Json} (h : (g.typeExample (.object shape)).result = some value) :
    ∃ entries, value = .obj entries ∧
      Entries.keys entries = (Entries.keys shape.properties).filter
        (g.requiredUnder (Resolver.displayName ⟨g.definitions, links⟩ s)).contains := by
  have hidentity : shape.names.identity = Resolver.displayName ⟨g.definitions, links⟩ s := by
    rw [Resolver.names_of_object object]
    rfl
  rw [typeExample, typeExampleIn, hidentity] at h
  obtain ⟨entries, rfl, hkeys⟩ := keys_of_objectExample h
  exact ⟨entries, rfl, by rw [hkeys, keys_shown optional, requiredUnder]⟩

/-- A finished example of the schema itself keeps to its own required list. -/
lemma keys_of_generate (optional : g.options.showsOptionalProperties = false)
    (object : (Resolver.resolveSchema ⟨g.definitions, links⟩ s).value = .object shape)
    (authored : s.authored = none) (refers : s.reference = none)
    {value : Json} (h : (g.generate s).result = some value) :
    ∃ entries, value = .obj entries ∧
      Entries.keys entries = (Entries.keys shape.properties).filter
        (g.definitions.requiredProperties s).contains := by
  have hobject := object?_resolver object
  have hnoAlias : s.isAlias = false := by simp [Schema.isAlias, refers]
  obtain ⟨depth, hdepth⟩ := g.exists_depth s.count
  rw [generate, hdepth, exampleWithin,
    result_step_of_object authored hnoAlias (by rw [hobject]; rfl)] at h
  obtain ⟨entries, rfl, hkeys⟩ := keys_of_objectExample h
  refine ⟨entries, rfl, ?_⟩
  rw [hkeys, keys_shown optional, ResolvedType.properties, hobject]
  rfl

/-- Where compositions stand at the top only, and where references lead to definitions and never
in a circle, the examples of the type and of the schema are finished. -/
lemma isSome_typeExample
    (object : (Resolver.resolveSchema ⟨g.definitions, links⟩ s).value = .object shape)
    (ends : g.options.limit.val ≤ 254 ∧ g.ComposesAtTop ∧ s.ComposesAtTop ∨
      g.definitions.Grounded s) :
    (g.typeExample (.object shape)).result.isSome ∧ (g.generate s).result.isSome := by
  have hproperty : ∀ p ∈ shape.properties, g.Ends {} p.2 := by
    intro p hp
    rw [← mergedProperties_of_object object] at hp
    rcases ends with ⟨hlimit, defs, hs⟩ | grounded
    · exact defs.ends hlimit (defs.neverComposes_merged hs p hp).composesAtTop
        (Visits.within_empty _)
    · exact ends_of_grounded ((leads_merged hp).grounded grounded) {}
  constructor
  · rw [typeExample, typeExampleIn]
    refine isSome_objectExample.2 fun p hp => ?_
    have hp := (mem_shown.1 hp).1
    exact (hproperty p hp).isSome_of_property hp
  · rw [isSome_generate_iff]
    rcases ends with ⟨hlimit, defs, hs⟩ | grounded
    · exact defs.ends hlimit hs (Visits.within_empty _)
    · exact ends_of_grounded grounded {}

/-- With optional properties left out, the example of the type that an object's schema is
resolved to has the properties that the definition of its name requires: its title, or in a
composition the name of the last branch that has one. These are the properties that the schema
requires just if the two lists agree on the properties of the object. The example of the schema
itself has the properties that the schema requires. The examples are finished where compositions
stand at the top only, and where references lead to definitions and never in a circle. -/
theorem typeExample_keys
    (optional : g.options.showsOptionalProperties = false) (authored : s.authored = none)
    (refers : s.reference = none)
    (object : (Resolver.resolveSchema ⟨g.definitions, links⟩ s).value = .object shape) :
    (∀ value,
      (g.typeExample (Resolver.resolveSchema ⟨g.definitions, links⟩ s).value).result =
        some value →
      ∃ entries, value = .obj entries ∧
        Entries.keys entries = (Entries.keys shape.properties).filter
          (g.requiredUnder (Resolver.displayName ⟨g.definitions, links⟩ s)).contains ∧
        (Entries.keys entries = (Entries.keys shape.properties).filter
            (g.definitions.requiredProperties s).contains ↔
          ∀ key ∈ Entries.keys shape.properties,
            key ∈ g.requiredUnder (Resolver.displayName ⟨g.definitions, links⟩ s) ↔
              key ∈ g.definitions.requiredProperties s)) ∧
    (∀ value, (g.generate s).result = some value →
      ∃ entries, value = .obj entries ∧
        Entries.keys entries = (Entries.keys shape.properties).filter
          (g.definitions.requiredProperties s).contains) ∧
    (g.options.limit.val ≤ 254 ∧ g.ComposesAtTop ∧ s.ComposesAtTop ∨ g.definitions.Grounded s →
      (g.typeExample (Resolver.resolveSchema ⟨g.definitions, links⟩ s).value).result.isSome ∧
      (g.generate s).result.isSome) := by
  rw [object]
  refine ⟨fun value h => ?_, fun value h => keys_of_generate optional object authored refers h,
    isSome_typeExample object⟩
  obtain ⟨entries, rfl, hkeys⟩ := keys_of_typeExample optional object h
  exact ⟨entries, rfl, hkeys, by rw [hkeys, filter_contains_eq_iff]⟩

/-- A pet under the name of its definition. -/
def titledPet : Schema := { pet with title := some "Pet" }

/-- The type of a pet under a name. -/
def petNamed (name : Option String) : ObjectType where
  names := { display := name }
  properties :=
    [("id", { type := some (.single "string") }), ("tag", { type := some (.single "string") })]

/-- The name leads to the list of the schema. -/
theorem typeExample_keys_titled :
    pets.options.showsOptionalProperties = false ∧ titledPet.authored = none ∧
    titledPet.reference = none ∧
    (pets.resolver.resolveSchema titledPet).value = .object (petNamed (some "Pet")) ∧
    pets.definitions.Grounded titledPet ∧
    ∃ entries, (pets.typeExample (pets.resolver.resolveSchema titledPet).value).result =
        some (.obj entries) ∧
      Entries.keys entries = (Entries.keys (petNamed (some "Pet")).properties).filter
        (pets.definitions.requiredProperties titledPet).contains := by
  have object :
      (pets.resolver.resolveSchema titledPet).value = .object (petNamed (some "Pet")) := by cbv
  have grounded : pets.definitions.Grounded titledPet :=
    Definitions.grounded_of_rank (pets.definitions.names.idxOf ·) (by decide) (by decide)
  have hunder : pets.requiredUnder (Resolver.displayName pets.resolver titledPet) = ["id"] := by
    cbv
  have hown : pets.definitions.requiredProperties titledPet = ["id"] := by cbv
  obtain ⟨htype, -, finished⟩ := typeExample_keys rfl rfl rfl object
  obtain ⟨value, hvalue⟩ := Option.isSome_iff_exists.1 (finished (.inr grounded)).1
  obtain ⟨entries, rfl, -, hagree⟩ := htype value hvalue
  refine ⟨rfl, rfl, rfl, object, grounded, entries, hvalue, hagree.2 fun key _ => ?_⟩
  rw [hown]
  exact iff_of_eq (congrArg (key ∈ ·) hunder)

/-- Without a name the required property is lost. A composition with a pet goes by the name of
the pet, and what its other branch requires is lost. -/
theorem typeExample_keys_lost :
    pets.options.showsOptionalProperties = false ∧ pet.authored = none ∧ pet.reference = none ∧
    (pets.resolver.resolveSchema pet).value = .object (petNamed none) ∧
    (Entries.keys (petNamed none).properties).filter
      (pets.definitions.requiredProperties pet).contains = ["id"] ∧
    (pets.typeExample (pets.resolver.resolveSchema pet).value).result = some (.obj []) ∧
    dog.authored = none ∧ dog.reference = none ∧
    (pets.typeExample (pets.resolver.resolveSchema dog).value).result =
      some (.obj [("id", .str "string")]) ∧
    (pets.generate dog).result =
      some (.obj [("id", .str "string"), ("bark", .str "string")]) := by
  refine ⟨rfl, rfl, rfl, ?_, ?_, ?_, rfl, rfl, ?_, ?_⟩ <;> cbv

end OpenApiDoc.Example.Generator
