import OpenApiDoc.Proofs.Example.Spine
import OpenApiDoc.Proofs.Resolver.Hoisting

/-!
# Examples of hoisted types

Hoisting puts a link in the place of an inline object, and a link is expanded by its identity:
where a definition is called so, its example is the definition's, and the object behind the link
is not looked at. An object that is named for its place gets a name that no definition has, so
the example of the type stays as it was. An object with a display name goes by that name, and
where it is the name of a definition the example turns into the definition's.
-/

namespace OpenApiDoc

open Example (Draft Generator mapWith)

/-- An object without a unique name goes by its display name, or by that of its place. -/
lemma ObjectType.identity_nameFor {o : ObjectType} {display unique : String}
    (unnamed : o.names.unique = none) :
    (o.nameFor display unique).names.identity = some (o.names.display.getD unique) := by
  rw [nameFor.eq_def]
  rcases hdisplay : o.names.display with _ | shown
  · rfl
  · dsimp only
    rw [TypeNames.identity, unnamed, hdisplay]
    rfl

namespace ResolvedType

/-- A value within the arrays and maps that a type has around its inline object. -/
def surround : ResolvedType → Json → Json
  | .array _ element _, value => .arr [element.surround value]
  | .map _ inner, value => mapWith (inner.surround value)
  | _, value => value

end ResolvedType

namespace Example.Generator

variable {g : Generator} {recur : Recur} {visits : Visits} {t : ResolvedType}
  {display unique name : String}

/-! ### The definition behind the new link -/

/-- The definition that is called like the object that hoisting takes out of a type. -/
def definitionOfInline (g : Generator) (display unique : String) (t : ResolvedType) :
    Option String :=
  (t.inline?.bind fun o => (o.nameFor display unique).names.identity).filter
    g.definitions.contains

lemma definitionOfInline_object {o : ObjectType} (h : ¬ o.properties.isEmpty) :
    g.definitionOfInline display unique (.object o) =
      (o.nameFor display unique).names.identity.filter g.definitions.contains := by
  simp [definitionOfInline, ResolvedType.inline?, h]

lemma definitionOfInline_array (names : TypeNames) (collection : Option CollectionFormat) :
    g.definitionOfInline display unique (.array names t collection) =
      g.definitionOfInline display unique t := rfl

lemma definitionOfInline_map (names : TypeNames) (h : t.isObject = true) :
    g.definitionOfInline display unique (.map names t) =
      g.definitionOfInline display unique t := by
  simp [definitionOfInline, ResolvedType.inline?, h]

/-- The definition is one that is called like what hoisting lists. -/
lemma definitionOfInline_eq_some :
    g.definitionOfInline display unique t = some name ↔
      ∃ shape ∈ (t.hoist display unique).value.inline,
        shape.names.identity = some name ∧ g.definitions.contains name = true := by
  rw [definitionOfInline, Option.filter_eq_some_iff, Option.bind_eq_some_iff,
    ResolvedType.inline_hoist]
  constructor
  · rintro ⟨⟨o, hinline, identity⟩, contains⟩
    exact ⟨_, by simp [hinline], identity, contains⟩
  · rintro ⟨shape, hshape, identity, contains⟩
    rw [Option.mem_toList, Option.map_eq_some_iff] at hshape
    obtain ⟨o, hinline, rfl⟩ := hshape
    exact ⟨⟨o, hinline, identity⟩, contains⟩

/-- An object has the same example under another name, as all of its properties are shown. -/
lemma typeExampleIn_nameFor (optional : g.options.showsOptionalProperties = true)
    (o : ObjectType) :
    g.typeExampleIn recur visits (.object (o.nameFor display unique)) =
      g.typeExampleIn recur visits (.object o) := by
  have hproperties : (o.nameFor display unique).properties = o.properties := by
    rw [ObjectType.nameFor.eq_def]
    split <;> rfl
  rw [typeExampleIn, typeExampleIn, hproperties]
  exact objectExample_of_optional optional _ _ _

/-- Hoisting changes an example only where it finds a definition for its link, and there it gives
the example of the definition instead of that of the object. -/
theorem typeExampleIn_hoist (optional : g.options.showsOptionalProperties = true) :
    g.typeExampleIn recur visits (t.hoist display unique).value.value =
      match g.definitionOfInline display unique t with
      | some name => t.surround <$> g.referenceExample recur visits name
      | none => g.typeExampleIn recur visits t := by
  induction t with
  | object o =>
    by_cases hempty : o.properties.isEmpty
    · simp [ResolvedType.hoist, definitionOfInline, ResolvedType.inline?, hempty]
    · simp only [ResolvedType.value_hoist_object hempty, ResolvedType.linkTo,
        ResolvedType.identity, ResolvedType.names, typeExampleIn_link,
        typeExampleIn_nameFor optional, ← definitionOfInline_object hempty]
      cases g.definitionOfInline display unique (.object o) <;> simp [ResolvedType.surround]
  | array names element collection ih =>
    simp only [ResolvedType.value_hoist_array, typeExampleIn, ih, definitionOfInline_array]
    cases g.definitionOfInline display unique element <;> simp [ResolvedType.surround]
  | map names value ih =>
    by_cases hobject : value.isObject
    · simp only [ResolvedType.value_hoist_map names hobject, typeExampleIn, ih,
        definitionOfInline_map names hobject]
      cases g.definitionOfInline display unique value <;> simp [ResolvedType.surround]
    · simp [ResolvedType.hoist, definitionOfInline, ResolvedType.inline?, hobject]
  | basic names kind format => rfl
  | enum names kind values => rfl
  | link names document target ih => rfl

/-- Hoisting keeps the schemas of a type. -/
lemma schemasIn_hoist : schemasIn (t.hoist display unique).value.value = schemasIn t := by
  induction t with
  | object o =>
    by_cases hempty : o.properties.isEmpty
    · simp [ResolvedType.hoist, hempty]
    · rw [ResolvedType.value_hoist_object hempty, ResolvedType.linkTo, ObjectType.nameFor.eq_def]
      cases o.names.display <;> rfl
  | array names element collection ih =>
    rw [ResolvedType.value_hoist_array]
    exact ih
  | map names value ih =>
    by_cases hobject : value.isObject
    · rw [ResolvedType.value_hoist_map names hobject]
      exact ih
    · simp [ResolvedType.hoist, hobject]
  | basic names kind format => rfl
  | enum names kind values => rfl
  | link names document target ih => rfl

/-! ### Examples at the depth of a type -/

/-- The example of a definition does not depend on the number of schemas that its depth is made
for. -/
lemma result_referenceExample (schemas : Nat) (name : String) :
    (g.referenceExample (g.exampleWithin (g.depth schemas)) {} name).result =
      (g.referenceExample (g.exampleWithin (g.depth 0)) {} name).result := by
  rcases hmany : (g.referenceExample (g.exampleWithin (g.depth schemas)) {} name).result with
    _ | value
  · rcases hnone : (g.referenceExample (g.exampleWithin (g.depth 0)) {} name).result
      with _ | value
    · rfl
    · have hfinished :
          (g.referenceExample (g.exampleWithin (g.depth 0)) {} name).result.isSome := by
        simp [hnone]
      rw [referenceExample_eq hfinished, hnone] at hmany
      cases hmany
  · have hfinished :
        (g.referenceExample (g.exampleWithin (g.depth schemas)) {} name).result.isSome := by
      simp [hmany]
    rw [referenceExample_eq hfinished, hmany]

end Example.Generator

/-! ### Resolved schemas -/

namespace Resolver

open Example.Generator

variable {r : Resolver} {g : Generator} {s : Schema} {shape : ObjectType}
  {display unique name : String}

/-- Where the name made for the place is no definition's, an inline object that is called like a
definition is so by its display name. -/
lemma keepsName_of_contains (free : r.definitions.contains unique = false)
    (hshape : shape ∈ ((r.resolveSchema s).value.hoist display unique).value.inline)
    (identity : shape.names.identity = some name)
    (contains : r.definitions.contains name = true) :
    shape.KeepsName ∧ shape.names.display = some name := by
  rw [ResolvedType.inline_hoist, Option.mem_toList, Option.map_eq_some_iff] at hshape
  obtain ⟨o, hinline, rfl⟩ := hshape
  obtain ⟨t, -, hnames⟩ := names_of_inline? hinline
  have unnamed : o.names.unique = none := by rw [hnames]
  rw [ObjectType.identity_nameFor unnamed, Option.some.injEq] at identity
  rcases hdisplay : o.names.display with _ | shown
  · rw [hdisplay, Option.getD_none] at identity
    rw [← identity, free] at contains
    cases contains
  · rw [hdisplay, Option.getD_some] at identity
    rw [ObjectType.KeepsName, ObjectType.nameFor.eq_def, hdisplay]
    exact ⟨unnamed, by rw [← identity]; exact hdisplay⟩

/-- Hoisting leaves the example of a schema's type as it is, as long as no inline object keeps
the name of a definition; with such an object the example becomes the definition's, within the
arrays and maps around the object. A name that is made for the place and free does not matter. -/
theorem typeExample_hoist (links : LinkTargets) (s : Schema) (display : String)
    (optional : g.options.showsOptionalProperties = true)
    (free : g.definitions.contains unique = false) :
    let type := (resolveSchema ⟨g.definitions, links⟩ s).value
    let hoisted := (type.hoist display unique).value
    ((∀ shape ∈ hoisted.inline, shape.KeepsName → ∀ name, shape.names.display = some name →
        g.definitions.contains name = false) →
      g.typeExample hoisted.value = g.typeExample type) ∧
    ∀ shape ∈ hoisted.inline, ∀ name, shape.names.identity = some name →
      g.definitions.contains name = true →
      shape.KeepsName ∧ shape.names.display = some name ∧
        (g.typeExample hoisted.value).result =
          (g.referenceExample (g.exampleWithin (g.depth 0)) {} name).result.map
            type.surround := by
  intro type hoisted
  constructor
  · intro apart
    rw [typeExample, typeExample, schemasIn_hoist, typeExampleIn_hoist optional]
    rcases hdefinition : g.definitionOfInline display unique type with _ | name
    · rfl
    · obtain ⟨shape, hshape, identity, contains⟩ := definitionOfInline_eq_some.1 hdefinition
      obtain ⟨keeps, hdisplay⟩ := keepsName_of_contains free hshape identity contains
      rw [apart shape hshape keeps name hdisplay] at contains
      cases contains
  · intro shape hshape name identity contains
    obtain ⟨keeps, hdisplay⟩ := keepsName_of_contains free hshape identity contains
    refine ⟨keeps, hdisplay, ?_⟩
    have hdefinition : g.definitionOfInline display unique type = some name :=
      definitionOfInline_eq_some.2 ⟨shape, hshape, identity, contains⟩
    rw [typeExample, schemasIn_hoist, typeExampleIn_hoist optional, hdefinition,
      Draft.result_map, result_referenceExample]

/-- A map to objects without a title. -/
def homes : Schema where
  additional := some (.schema
    { properties := some [("street", { type := some (.single "string") })] })

/-- The place may be called like the definition of a pet, as long as its unique name is not. -/
theorem typeExample_hoist_homes :
    (orderTable.options.showsOptionalProperties = true ∧
      orderTable.definitions.contains "Order Pet" = false) ∧
    let type := (resolveSchema ⟨orderTable.definitions, some⟩ homes).value
    let hoisted := (type.hoist "Pet" "Order Pet").value
    hoisted.inline.map (fun shape => shape.names) = [⟨some "Pet", some "Order Pet"⟩] ∧
      orderTable.typeExample hoisted.value = orderTable.typeExample type ∧
      (orderTable.typeExample type).result =
        some (mapWith (.obj [("street", .str "string")])) := by
  have free : orderTable.definitions.contains "Order Pet" = false := by decide
  refine ⟨⟨rfl, free⟩, by cbv, ?_, by cbv⟩
  obtain ⟨hsame, -⟩ := typeExample_hoist some homes "Pet" (g := orderTable) rfl free
  refine hsame fun shape hshape keeps => ?_
  have hinline : ((resolveSchema ⟨orderTable.definitions, some⟩ homes).value.hoist "Pet"
      "Order Pet").value.inline.map (fun shape => shape.names.unique) =
        [some "Order Pet"] := by cbv
  have hunique := List.mem_map_of_mem (f := fun shape => shape.names.unique) hshape
  rw [hinline, List.mem_singleton] at hunique
  rw [ObjectType.KeepsName, hunique] at keeps
  cases keeps

/-- A composition that adds a tag to a pet. -/
def taggedPet : Schema where
  allOf := some [{ properties := some [("tag", { type := some (.single "string") })] },
    { reference := some "Pet" }]

/-- The composition goes by the name of its last branch, and behind a link under
that name the tag is lost. -/
theorem taggedPet_hoisted_example :
    (orderTable.options.showsOptionalProperties = true ∧
      orderTable.definitions.contains "Order pet" = false) ∧
    let type := (resolveSchema ⟨orderTable.definitions, some⟩ taggedPet).value
    let hoisted := (type.hoist "pet" "Order pet").value
    (orderTable.typeExample type).result =
        some (.obj [("tag", .str "string"), ("name", .str "string")]) ∧
      (orderTable.typeExample hoisted.value).result = some (.obj [("name", .str "string")]) ∧
      orderTable.typeExample hoisted.value ≠ orderTable.typeExample type := by
  have htype : (orderTable.typeExample
      (resolveSchema ⟨orderTable.definitions, some⟩ taggedPet).value).result =
        some (.obj [("tag", .str "string"), ("name", .str "string")]) := by cbv
  have hhoisted : (orderTable.typeExample
      ((resolveSchema ⟨orderTable.definitions, some⟩ taggedPet).value.hoist "pet"
        "Order pet").value.value).result = some (.obj [("name", .str "string")]) := by cbv
  refine ⟨⟨rfl, by decide⟩, htype, hhoisted, fun heq => ?_⟩
  rw [heq, htype] at hhoisted
  simp at hhoisted

end Resolver

end OpenApiDoc
