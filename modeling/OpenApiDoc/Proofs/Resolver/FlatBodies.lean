import Mathlib.Tactic.Common
import OpenApiDoc.Resolver.Parameters

/-!
# Flat bodies

Flat bodies leave an object in the place of a parameter, where it is otherwise taken out and
linked to. They matter just for parameters whose schema is resolved to an object with properties,
without a link, an array or a map around it. Nothing else about the parameter has a say in that:
not even whether it is the body.
-/

namespace OpenApiDoc.Resolver

variable {r : Resolver} {p : Parameter} {shape : ObjectType}

/-- The schema of the parameter is resolved to this object directly. -/
def Describes (r : Resolver) (p : Parameter) (shape : ObjectType) : Prop :=
  p.reference = none ∧ ∃ s, p.schema = some s ∧ (r.resolveSchema s).value = .object shape

/-! ### Types before hoisting -/

lemma asParameter_eq_object_iff (t : ResolvedType) :
    asParameter p t = .object shape ↔ t = .object shape := by
  cases t <;> simp [asParameter]

/-- Only the schema makes an object of a parameter. -/
lemma bareParameterType_eq_object_iff :
    (r.bareParameterType p).value = .object shape ↔ r.Describes p shape := by
  rw [bareParameterType.eq_def, Describes]
  rcases hreference : p.reference with _ | reference
  · rcases hschema : p.schema with _ | s
    · simp
    · by_cases hbody : p.isBody = true
      · simp [hbody]
      · simp [hbody, asParameter_eq_object_iff]
  · simp [stub, ResolvedType.linkTo]

/-! ### Types with and without flat bodies -/

/-- Flat bodies make no difference to a type that is no object. -/
lemma parameterType_flat_of_not_describes (config : Config) (o : Operation)
    (h : ∀ shape, ¬ r.Describes p shape) (flat : Bool) :
    r.parameterType { config with flatBody := flat } o p =
      r.parameterType { config with flatBody := false } o p := by
  have hobject : (r.bareParameterType p).value.isObject = false := by
    cases htype : (r.bareParameterType p).value with
    | object shape => exact absurd (bareParameterType_eq_object_iff.1 htype) (h shape)
    | _ => rfl
  simp [parameterType, bind, hobject]

/-- Flat bodies leave an object as it is, and nothing is taken out of it. -/
lemma parameterType_flat (config : Config) (o : Operation) (h : r.Describes p shape) :
    (r.parameterType { config with flatBody := true } o p).value =
      { value := .object shape } := by
  have hobject := bareParameterType_eq_object_iff.2 h
  simp [parameterType, hobject, ResolvedType.isObject]

/-- Without flat bodies an object with properties is taken out if inline objects are. -/
lemma parameterType_usual (config : Config) (o : Operation) (h : r.Describes p shape) :
    (r.parameterType { config with flatBody := false } o p).value =
      if config.hoistsInline = true ∧ shape.properties ≠ [] then
        { value := .linkTo none (.object (shape.nameFor p.name (o.id ++ " " ++ p.name)))
          inline := [shape.nameFor p.name (o.id ++ " " ++ p.name)] }
      else { value := .object shape } := by
  have hobject := bareParameterType_eq_object_iff.2 h
  cases hhoists : config.hoistsInline
  · simp [parameterType, hobject]
  · by_cases hempty : shape.properties = []
    · simp [parameterType, hobject, hempty, ResolvedType.hoist]
    · simp [parameterType, hobject, hempty, ResolvedType.hoist]

/-- Flat bodies make a difference to the type of a parameter or to what is taken out of it
just if inline objects are taken out and the schema of the parameter is resolved to an object
with properties directly. The object then stays in its place and nothing is taken out,
instead of being linked to. -/
theorem flatBody_matters_iff (r : Resolver) (config : Config) (o : Operation) (p : Parameter) :
    ((r.parameterType { config with flatBody := true } o p).value ≠
        (r.parameterType { config with flatBody := false } o p).value ↔
      config.hoistsInline = true ∧ ∃ shape, r.Describes p shape ∧ shape.properties ≠ []) ∧
    ∀ shape, r.Describes p shape →
      (r.parameterType { config with flatBody := true } o p).value = { value := .object shape } ∧
      (config.hoistsInline = true → shape.properties ≠ [] →
        (r.parameterType { config with flatBody := false } o p).value =
          { value := .linkTo none (.object (shape.nameFor p.name (o.id ++ " " ++ p.name)))
            inline := [shape.nameFor p.name (o.id ++ " " ++ p.name)] }) := by
  constructor
  · by_cases hdescribes : ∃ shape, r.Describes p shape
    · obtain ⟨shape, h⟩ := hdescribes
      have honly : ∀ shape', r.Describes p shape' → shape' = shape := by
        intro shape' h'
        have htype := bareParameterType_eq_object_iff.2 h
        rw [bareParameterType_eq_object_iff.2 h'] at htype
        exact ResolvedType.object.inj htype
      rw [parameterType_flat config o h, parameterType_usual config o h]
      constructor
      · intro hne
        split_ifs at hne with hhoists
        · exact ⟨hhoists.1, shape, h, hhoists.2⟩
        · exact absurd rfl hne
      · rintro ⟨hhoists, shape', h', hne⟩
        rw [honly shape' h'] at hne
        rw [if_pos ⟨hhoists, hne⟩]
        simp [ResolvedType.linkTo]
    · rw [parameterType_flat_of_not_describes config o fun shape h => hdescribes ⟨shape, h⟩]
      exact ⟨fun hne => absurd rfl hne, fun ⟨_, shape, h, _⟩ => absurd ⟨shape, h⟩ hdescribes⟩
  · intro shape h
    refine ⟨parameterType_flat config o h, fun hhoists hne => ?_⟩
    rw [parameterType_usual config o h, if_pos ⟨hhoists, hne⟩]

/-- A resolver without definitions. -/
def withoutDefinitions : Resolver := ⟨.empty, fun _ => none⟩

/-- A parameter with an object of one property. -/
def filterIn (location : Location) : Parameter where
  name := "filter"
  written := some location
  schema := some { properties := some [("name", { type := some (.single "string") })] }

/-- The object of the parameter. -/
def filterObject : ObjectType where
  properties := [("name", { type := some (.single "string") })]

lemma describes_filterIn (location : Location) :
    withoutDefinitions.Describes (filterIn location) filterObject :=
  ⟨rfl, _, rfl, by cbv⟩

/-- The operation that such a parameter belongs to. -/
def searching : Operation := { operationId := some "search", method := .post, path := "/search" }

/-- The object of a body stays in its place. -/
theorem flatBody_matters_body :
    (filterIn .body).isBody = true ∧ withoutDefinitions.Describes (filterIn .body) filterObject ∧
    ({} : Config).hoistsInline = true ∧ filterObject.properties ≠ [] ∧
    (withoutDefinitions.parameterType { flatBody := true } searching (filterIn .body)).value =
      { value := .object filterObject } ∧
    (withoutDefinitions.parameterType {} searching (filterIn .body)).value =
      { value := .linkTo none (.object (filterObject.nameFor "filter" "search filter"))
        inline := [filterObject.nameFor "filter" "search filter"] } := by
  have h := describes_filterIn .body
  obtain ⟨hflat, husual⟩ :=
    (flatBody_matters_iff withoutDefinitions {} searching (filterIn .body)).2 _ h
  exact ⟨rfl, h, rfl, List.cons_ne_nil _ _, hflat, husual rfl (List.cons_ne_nil _ _)⟩

/-- The object of a parameter in the query is left in its place too. -/
theorem flatBody_matters_query :
    (filterIn .query).isBody = false ∧
    (withoutDefinitions.parameterType { flatBody := true } searching (filterIn .query)).value ≠
      (withoutDefinitions.parameterType { flatBody := false } searching
        (filterIn .query)).value := by
  have h := describes_filterIn .query
  refine ⟨rfl, fun heq => ?_⟩
  have hflat := parameterType_flat {} searching h
  have husual := parameterType_usual {} searching h
  rw [if_pos ⟨rfl, List.cons_ne_nil _ _⟩, ← heq, hflat] at husual
  exact absurd (congrArg Hoisted.inline husual) (List.cons_ne_nil _ _).symm

end OpenApiDoc.Resolver
