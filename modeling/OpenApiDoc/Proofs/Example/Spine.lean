import Mathlib
import OpenApiDoc.Proofs.Example.Routes

/-!
# Examples of types

The example of a schema is made from the schema itself, or from the type that it is resolved
to. Types forget which values stand on a schema as `example`, `default` or `enum`, but they
keep the structure: through arrays and maps both ways take the same steps, and at a reference,
an object or a primitive they ask for the same further examples. So where no value stands on
the way there and optional properties are shown, both give the same, and the one is finished
exactly if the other is.
-/

namespace OpenApiDoc

lemma Kind.text_ofTypeName (name : String) : (Kind.ofTypeName name).text = name := by
  rw [ofTypeName.eq_def]
  split <;> rfl

namespace Schema

/-- A schema is reached through the items of arrays and the values of maps, and not through
references or compositions. -/
inductive Spine (s : Schema) : Schema → Prop where
  | refl : s.Spine s
  | item {t item : Schema} (h : s.Spine t) (allOf : t.allOf = none) (refers : t.reference = none)
      (isArray : t.isArray = true) (items : t.items = some item) : s.Spine item
  | value {t value : Schema} (h : s.Spine t) (allOf : t.allOf = none)
      (refers : t.reference = none)
      (isMap : t.isMap = true) (values : t.valueSchema = some value) : s.Spine value

lemma Spine.trans {s t u : Schema} (h : s.Spine t) (h' : t.Spine u) : s.Spine u := by
  induction h' with
  | refl => exact h
  | item _ allOf refers isArray items ih => exact .item ih allOf refers isArray items
  | value _ allOf refers isMap values ih => exact .value ih allOf refers isMap values

lemma Spine.mem_subschemas {s t : Schema} (h : s.Spine t) : t ∈ s.subschemas := by
  induction h with
  | refl => exact s.self_mem_subschemas
  | item _ _ _ _ items ih =>
    have hchild := parts_subset_children _ (mem_parts_of_items items)
    exact mem_subschemas_trans (child_mem_subschemas hchild) ih
  | value _ _ _ _ values ih =>
    have hchild := parts_subset_children _ (mem_parts_of_valueSchema values)
    exact mem_subschemas_trans (child_mem_subschemas hchild) ih

/-- No value stands on the schema, and if it is a reference then to a definition. -/
structure Unvalued (d : Definitions) (s : Schema) : Prop where
  authored : s.authored = none
  default : s.default = none
  enum : s.enum = none
  defined : ∀ reference, s.reference = some reference →
    d.contains (d.referenceName reference) = true

end Schema

namespace Example.Generator

variable {g : Generator} {recur : Recur} {visits : Visits} {s : Schema} {t : ResolvedType}

/-! ### Types without schemas of their own -/

lemma typeExampleIn_basic (names : TypeNames) (kind : Kind) (format : Option String) :
    g.typeExampleIn recur visits (.basic names kind format) =
      pure (primitive (some kind.text) format) := by
  cases kind <;> rfl

lemma typeExampleIn_link (names : TypeNames) (document : Option String) :
    g.typeExampleIn recur visits (.link names document t) =
      match names.unique.filter g.definitions.contains with
      | some name => g.referenceExample recur visits name
      | none => g.typeExampleIn recur visits t := by
  rw [typeExampleIn]
  rcases names.unique with _ | name
  · rfl
  · by_cases hname : g.definitions.contains name = true <;> simp [Option.filter_some, hname]

/-! ### The depth of the example of a type -/

/-- Two finished examples of a schema after the same visits are the same. -/
lemma exampleWithin_unique {depth more : Nat}
    (h : (g.exampleWithin depth visits s).result.isSome)
    (h' : (g.exampleWithin more visits s).result.isSome) :
    g.exampleWithin depth visits s = g.exampleWithin more visits s := by
  rcases Nat.le_total depth more with hle | hle
  · exact (exampleWithin_mono h hle).symm
  · exact exampleWithin_mono h' hle

/-- The depth of any number of schemas is enough for a definition. -/
lemma referenceExample_eq {depth schemas : Nat} {name : String}
    (h : (g.referenceExample (g.exampleWithin depth) {} name).result.isSome) :
    g.referenceExample (g.exampleWithin (g.depth schemas)) {} name =
      g.referenceExample (g.exampleWithin depth) {} name := by
  rcases get : g.definitions.get? name with _ | target
  · rw [referenceExample_of_missing get, referenceExample_of_missing get]
  · rcases authored : target.authored with _ | value
    · rcases enter : ({} : Visits).enter name g.options.limit with _ | inner
      · rw [referenceExample_of_refused get authored enter,
          referenceExample_of_refused get authored enter]
      · rw [referenceExample_of_entered get authored enter] at h ⊢
        rw [referenceExample_of_entered get authored enter]
        have hroots : Schema.countList [] ≤ schemas := Nat.zero_le _
        have hmem : target ∈ g.known [] := mem_known_of_get? get
        exact exampleWithin_unique ((ends_of_isSome h).isSome_of_depth hroots hmem
          ((Visits.within_empty _).enter enter)) h
    · rw [referenceExample_of_authored get authored, referenceExample_of_authored get authored]

/-- Any depth that finishes the example of a type gives it. -/
theorem typeExample_eq {depth : Nat}
    (h : (g.typeExampleIn (g.exampleWithin depth) {} t).result.isSome) :
    g.typeExample t = g.typeExampleIn (g.exampleWithin depth) {} t := by
  rw [typeExample]
  -- the depth that is given is that of the whole type, and no part of it has more schemas
  generalize hschemas : schemasIn t = schemas
  induction t with
  | basic names kind format => cases kind <;> rfl
  | enum names kind values => cases values <;> rfl
  | array names element collection ih =>
    simp only [typeExampleIn, bind_pure_comp, Draft.result_map, Option.isSome_map] at h ⊢
    rw [ih h hschemas]
  | map names value ih =>
    simp only [typeExampleIn, bind_pure_comp, Draft.result_map, Option.isSome_map] at h ⊢
    rw [ih h hschemas]
  | object shape =>
    simp only [typeExampleIn] at h ⊢
    refine objectExample_congr rfl fun p hp => ?_
    have hfinished := isSome_objectExample.1 h p hp
    rw [← hschemas]
    exact exampleWithin_unique
      ((ends_of_isSome hfinished).isSome_of_property (mem_shown.1 hp).1) hfinished
  | link names document target ih =>
    rw [typeExampleIn_link] at h ⊢
    rw [typeExampleIn_link]
    rcases hname : names.unique.filter g.definitions.contains with _ | name
    · rw [hname] at h
      exact ih h hschemas
    · rw [hname] at h
      exact referenceExample_eq h

/-! ### Along the spine -/

lemma objectExample_of_optional (optional : g.options.showsOptionalProperties = true)
    (required required' : List String) (properties : List (String × Schema)) :
    g.objectExample recur visits required properties =
      g.objectExample recur visits required' properties := by
  have hshown : g.shown required properties = g.shown required' properties := by
    simp [shown, shows, optional]
  rw [objectExample_eq, objectExample_eq, hshown]

/-- The type of a composition has the example of the composition. -/
lemma result_typeExampleIn_composed {links : LinkTargets} {branches : List Schema}
    (optional : g.options.showsOptionalProperties = true) (authored : s.authored = none)
    (allOf : s.allOf = some branches) :
    (g.typeExampleIn recur visits
      (Resolver.resolveSchema ⟨g.definitions, links⟩ s).value).result =
        (g.step recur visits s).result := by
  -- the merged properties do not depend on the targets of links
  have hchain : ∀ name, g.definitions.Reaches s name → name ∉ ([] : List String) :=
    fun _ _ => List.not_mem_nil
  have hobject := object?_resolveIn links hchain
  rw [Resolver.resolveSchema, Resolver.resolve]
  rw [Schema.model_of_composed allOf, Resolver.resolveIn] at hobject ⊢
  rw [step_of_composed authored allOf, Draft.result_bind, mergedProperties, ← hobject]
  exact congrArg _ (objectExample_of_optional optional _ _ _)

/-- The type of a reference to a definition has the example of the definition. -/
lemma result_typeExampleIn_reference {links : LinkTargets} {reference : String}
    (follows : Follows s reference)
    (defined : g.definitions.contains (g.definitions.referenceName reference) = true) :
    (g.typeExampleIn recur visits
      (Resolver.resolveSchema ⟨g.definitions, links⟩ s).value).result =
        (g.step recur visits s).result := by
  obtain ⟨target, get⟩ := Option.isSome_iff_exists.1 defined
  rw [Resolver.resolveSchema, Resolver.resolve,
    Schema.model_of_reference follows.allOf follows.refers, Resolver.resolveIn,
    Resolver.expand_of_not_mem get List.not_mem_nil, step_of_follows follows]
  simp [Resolver.linkTo, ResolvedType.linkTo, ResolvedType.identity, TypeNames.identity,
    TypeNames.both, typeExampleIn_link, Option.filter_some, defined]

/-- The type of an object or of a primitive has the example of the schema, as long as
no value stands on it. -/
lemma result_typeExampleIn_leaf {links : LinkTargets}
    (optional : g.options.showsOptionalProperties = true) (unvalued : s.Unvalued g.definitions)
    (allOf : s.allOf = none) (refers : s.reference = none) (isArray : s.isArray = false)
    (noMap : s.properties = none → s.valueSchema = none) :
    (g.typeExampleIn recur visits
      (Resolver.resolveSchema ⟨g.definitions, links⟩ s).value).result =
        (g.step recur visits s).result := by
  have bare : Bare s := ⟨unvalued.authored, allOf, refers⟩
  have first : firstValue s = none := by simp [firstValue, unvalued.enum]
  rw [Resolver.resolveSchema, Resolver.resolve, Schema.model_of_leaf allOf refers isArray noMap,
    Model.ofLeaf.eq_def]
  simp only [unvalued.enum]
  rcases hproperties : s.properties with _ | properties
  · rw [step_of_plain bare isArray first hproperties (noMap hproperties), unvalued.default]
    rcases hkind : s.kind with _ | kind
    · rw [Resolver.resolveIn, Noted.value_pure, typeExampleIn_basic]
      rfl
    · rw [Resolver.resolveIn, Noted.value_pure, typeExampleIn_basic, Kind.text_ofTypeName]
      rfl
  · rw [step_of_object bare isArray first hproperties, Resolver.resolveIn]
    exact congrArg _ (objectExample_of_optional optional _ _ _)

/-- At every depth the type of a schema has the example that the schema has some number of steps
further down: one for each array or map on the spine and one for what stands at its end. -/
theorem exists_result_typeExampleIn (links : LinkTargets)
    (optional : g.options.showsOptionalProperties = true)
    (unvalued : ∀ t, s.Spine t → t.Unvalued g.definitions) :
    ∃ steps, ∀ depth visits,
      (g.typeExampleIn (g.exampleWithin depth) visits
        (Resolver.resolveSchema ⟨g.definitions, links⟩ s).value).result =
          (g.exampleWithin (depth + steps) visits s).result := by
  induction s using Schema.induction_on_children with
  | step s ih =>
    have hs := unvalued s .refl
    cases s.shape with
    | composed branches allOf =>
      exact ⟨1, fun _ _ => result_typeExampleIn_composed optional hs.authored allOf⟩
    | reference reference allOf refers =>
      exact ⟨1, fun _ _ => result_typeExampleIn_reference ⟨hs.authored, allOf, refers⟩
        (hs.defined reference refers)⟩
    | array allOf refers isArray =>
      have bare : Bare s := ⟨hs.authored, allOf, refers⟩
      simp only [Resolver.resolveSchema, Resolver.resolve,
        Schema.model_of_array allOf refers isArray]
      rcases items : s.items with _ | item
      · refine ⟨1, fun depth visits => ?_⟩
        rw [exampleWithin, step_of_itemless bare isArray items, Option.map_none,
          Resolver.resolveIn]
        rfl
      · have hspine : s.Spine item := .item .refl allOf refers isArray items
        obtain ⟨steps, hsteps⟩ := ih item
          (Schema.parts_subset_children s (Schema.mem_parts_of_items items))
          fun t ht => unvalued t (hspine.trans ht)
        refine ⟨steps + 1, fun depth visits => ?_⟩
        rw [← Nat.add_assoc, exampleWithin, step_of_array bare isArray items, Option.map_some,
          Resolver.resolveIn]
        simp only [bind_pure_comp, Noted.value_map, typeExampleIn, Draft.result_map, ← hsteps]
        rfl
    | map value allOf refers isArray properties values =>
      have bare : Bare s := ⟨hs.authored, allOf, refers⟩
      have isMap : s.isMap = true := by simp [Schema.isMap, properties, values]
      have hspine : s.Spine value := .value .refl allOf refers isMap values
      obtain ⟨steps, hsteps⟩ := ih value
        (Schema.parts_subset_children s (Schema.mem_parts_of_valueSchema values))
        fun t ht => unvalued t (hspine.trans ht)
      refine ⟨steps + 1, fun depth visits => ?_⟩
      rw [← Nat.add_assoc, exampleWithin, step_of_map bare isArray properties values,
        Resolver.resolveSchema, Resolver.resolve,
        Schema.model_of_map allOf refers isArray properties values, Resolver.resolveIn]
      simp only [bind_pure_comp, Noted.value_map, typeExampleIn, Draft.result_map, ← hsteps]
      rfl
    | leaf allOf refers isArray noMap =>
      exact ⟨1, fun _ _ => result_typeExampleIn_leaf optional hs allOf refers isArray noMap⟩

/-- Where no value stands on the spine of a schema and its references lead to definitions, the
type of the schema has the example of the schema, whatever links lead to; and where the one has
no example, the other has none. -/
theorem typeExample_resolveSchema (links : LinkTargets)
    (optional : g.options.showsOptionalProperties = true)
    (unvalued : ∀ t, s.Spine t → t.Unvalued g.definitions) :
    (g.typeExample (Resolver.resolveSchema ⟨g.definitions, links⟩ s).value).result =
      (g.generate s).result := by
  obtain ⟨steps, hsteps⟩ := exists_result_typeExampleIn links optional unvalued
  rcases hgenerate : (g.generate s).result with _ | value
  · rw [Option.eq_none_iff_forall_not_mem]
    intro value hvalue
    rw [typeExample, hsteps] at hvalue
    have hends := ends_of_isSome (Option.isSome_iff_exists.2 ⟨value, hvalue⟩)
    have hfinished := isSome_generate_iff.2 hends
    simp [hgenerate] at hfinished
  · have hfinished : (g.exampleWithin (g.depth s.count + steps) {} s).result.isSome := by
      have h : (g.exampleWithin (g.depth s.count) {} s).result.isSome :=
        Option.isSome_iff_exists.2 ⟨value, hgenerate⟩
      rwa [exampleWithin_mono h (Nat.le_add_right _ _)]
    rw [typeExample_eq (hsteps _ _ ▸ hfinished), hsteps, ← generate_eq hfinished, hgenerate]

/-- A definition that holds itself in a property, and a composition with it. -/
def catalogue : Generator where
  definitions := (Definitions.empty.insert "Item"
      { properties := some [("next", { reference := some "Item" })] }).insert "Box"
    { allOf := some [{ reference := some "Item" },
        { properties := some [("size", { type := some (.several ["null", "integer"]) })] }] }
  options := {}

/-- An array of maps whose values are those of the composition in `catalogue`. -/
def boxes : Schema :=
  { type := some (.single "array"),
    items := some { additional := some (.schema { reference := some "Box" }) } }

theorem typeExample_resolveSchema_boxes :
    (catalogue.options.showsOptionalProperties = true ∧
      ∀ t, boxes.Spine t → t.Unvalued catalogue.definitions) ∧
    (catalogue.typeExample
      (Resolver.resolveSchema ⟨catalogue.definitions, some⟩ boxes).value).result =
        (catalogue.generate boxes).result ∧
    (catalogue.generate boxes).result =
      some (.arr [mapWith (.obj [("next", .obj [("next", .obj [("next", sentinel)])]),
        ("size", .num (.integer ⟨0, by decide, by decide⟩))])]) := by
  have unvalued : ∀ t, boxes.Spine t → t.Unvalued catalogue.definitions := by
    intro t ht
    have hmem := ht.mem_subschemas
    have hsubschemas : boxes.subschemas = [boxes,
      { additional := some (.schema { reference := some "Box" }) },
      { reference := some "Box" }] := rfl
    rw [hsubschemas] at hmem
    simp only [List.mem_cons, List.not_mem_nil, or_false] at hmem
    rcases hmem with rfl | rfl | rfl
    · exact ⟨rfl, rfl, rfl, nofun⟩
    · exact ⟨rfl, rfl, rfl, nofun⟩
    · refine ⟨rfl, rfl, rfl, fun reference refers => ?_⟩
      cases refers
      decide
  refine ⟨⟨rfl, unvalued⟩, typeExample_resolveSchema some rfl unvalued, ?_⟩
  cbv

end Example.Generator

end OpenApiDoc
