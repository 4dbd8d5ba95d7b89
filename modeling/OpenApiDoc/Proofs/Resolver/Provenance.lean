import OpenApiDoc.Proofs.Definitions.Reachability
import OpenApiDoc.Proofs.Resolver.Unfolding
import OpenApiDoc.Proofs.Schema.Shape

/-!
# Where properties come from

A resolved type takes its properties from the schema that is resolved and from the definitions
that the schema reaches. So a predicate that holds of the properties there, at any depth, holds
of every property of the resolved type (`Resolver.everyProperty_resolveIn`).
-/

namespace OpenApiDoc

/-! ### Schemas, models and types with a predicate on their properties -/

/-- Every property in the schema, at any depth, satisfies the predicate. -/
def Schema.EveryProperty (P : Schema → Prop) (s : Schema) : Prop :=
  ∀ t ∈ s.subschemas, ∀ p ∈ t.propertySchemas, P p

lemma Schema.EveryProperty.of_mem {P : Schema → Prop} {s t : Schema} (h : s.EveryProperty P)
    (ht : t ∈ s.subschemas) : t.EveryProperty P :=
  fun u hu => h u (mem_subschemas_trans hu ht)

/-- Every property of an object in the model satisfies the one predicate, and every name of a
reference the other. -/
inductive Model.Within (P : Schema → Prop) (S : String → Prop) : Model → Prop where
  | primitive (about : Annotations) (kind : Kind) (format : Option String) :
      Within P S (.primitive about kind format)
  | untyped (about : Annotations) : Within P S (.untyped about)
  | enum (about : Annotations) (kind : Kind) (values : List Json) :
      Within P S (.enum about kind values)
  | object (about : Annotations) {properties : List (String × Schema)}
      (h : ∀ p ∈ properties, P p.2) : Within P S (.object about properties)
  | itemless (about : Annotations) : Within P S (.array about none)
  | array (about : Annotations) {items : Model} (h : Within P S items) :
      Within P S (.array about (some items))
  | map (about : Annotations) {value : Model} (h : Within P S value) :
      Within P S (.map about value)
  | composed (about : Annotations) {branches : List Model} (h : ∀ b ∈ branches, Within P S b) :
      Within P S (.composed about branches)
  | reference (about : Annotations) {name : String} (h : S name) (reference : String) :
      Within P S (.reference about name reference)

namespace ResolvedType

variable {P : Schema → Prop} {t : ResolvedType}

/-- Every property of an object in the type satisfies the predicate. -/
def EveryProperty (P : Schema → Prop) : ResolvedType → Prop
  | .basic _ _ _ => True
  | .enum _ _ _ => True
  | .array _ element _ => element.EveryProperty P
  | .map _ value => value.EveryProperty P
  | .object shape => ∀ p ∈ shape.properties, P p.2
  | .link _ _ target => target.EveryProperty P

@[simp] lemma everyProperty_withNames (names : TypeNames) :
    (t.withNames names).EveryProperty P ↔ t.EveryProperty P := by
  cases t <;> rfl

lemma EveryProperty.unwrap (h : t.EveryProperty P) : t.unwrap.EveryProperty P := by
  induction t with
  | link names document target ih => exact ih h
  | _ => exact h

/-- What the object behind a type has for properties. -/
lemma EveryProperty.of_object? (h : t.EveryProperty P) {shape : ObjectType}
    (hshape : t.object? = some shape) : ∀ p ∈ shape.properties, P p.2 := by
  have hunwrap := h.unwrap
  rw [object?] at hshape
  split at hshape
  · next shape' heq =>
    cases hshape
    rwa [heq] at hunwrap
  · cases hshape

end ResolvedType

namespace ObjectType

/-- Merged objects have all their properties written one after the other. -/
lemma mergeProperties_eq_ofList (objects : List ObjectType) :
    mergeProperties objects = Entries.ofList (objects.flatMap ObjectType.properties) :=
  List.foldl_flatMap.symm

lemma mem_mergeProperties {objects : List ObjectType} {p : String × Schema}
    (h : p ∈ mergeProperties objects) : ∃ o ∈ objects, p ∈ o.properties := by
  rw [mergeProperties_eq_ofList] at h
  exact List.mem_flatMap.1 ((Entries.mem_of_mem_insertAll h).resolve_left List.not_mem_nil)

lemma mem_among {types : List ResolvedType} {o : ObjectType} :
    o ∈ among types ↔ ResolvedType.object o ∈ types := by
  rw [among, List.mem_filterMap]
  constructor
  · rintro ⟨t, ht, heq⟩
    split at heq
    · cases heq
      exact ht
    · cases heq
  · exact fun h => ⟨_, h, rfl⟩

lemma properties_compose (about : Annotations) (branches : List ResolvedType) :
    (compose about branches).properties = mergeProperties (among branches) := by
  rw [compose]
  split <;> rfl

lemma names_compose (about : Annotations) (types : List ResolvedType) :
    (compose about types).names = { display := lastName about.title types } := by
  simp only [compose]
  split <;> rfl

/-- The properties of a composition are those of its branches. -/
lemma everyProperty_compose {P : Schema → Prop} {branches : List ResolvedType}
    (h : ∀ t ∈ branches, t.EveryProperty P) (about : Annotations) :
    (ResolvedType.object (compose about branches)).EveryProperty P := by
  intro p hp
  rw [properties_compose] at hp
  obtain ⟨o, ho, hp⟩ := mem_mergeProperties hp
  exact h _ (mem_among.1 ho) p hp

end ObjectType

/-! ### From schemas to models to types -/

lemma Schema.EveryProperty.within_model {P : Schema → Prop} {S : String → Prop} {d : Definitions}
    {s : Schema} (h : s.EveryProperty P) (names : ∀ name ∈ d.namesIn s, S name) :
    (s.model d).Within P S := by
  induction s using induction_on_children with
  | step s ih =>
    have hchild : ∀ child ∈ s.children, (child.model d).Within P S := by
      intro child hc
      have hmem := child_mem_subschemas hc
      exact ih child hc (h.of_mem hmem) fun name hn =>
        names name (Definitions.namesIn_subset hmem hn)
    cases s.shape with
    | composed branches allOf =>
      rw [model_of_composed allOf]
      refine .composed _ fun b hb => ?_
      obtain ⟨branch, hbranch, rfl⟩ := List.mem_map.1 hb
      exact hchild branch (mem_children_of_branch allOf hbranch)
    | reference reference allOf refers =>
      rw [model_of_reference allOf refers]
      exact .reference _
        (names _ (Definitions.mem_namesIn_of_mem s.self_mem_subschemas refers)) _
    | array allOf refers isArray =>
      rw [model_of_array allOf refers isArray]
      rcases hitems : s.items with _ | item
      · exact .itemless _
      · exact .array _ (hchild item (parts_subset_children s (mem_parts_of_items hitems)))
    | map value allOf refers isArray properties values =>
      rw [model_of_map allOf refers isArray properties values]
      exact .map _ (hchild value (parts_subset_children s (mem_parts_of_valueSchema values)))
    | leaf allOf refers isArray noMap =>
      rw [model_of_leaf allOf refers isArray noMap, Model.ofLeaf.eq_def]
      split
      · exact .enum _ _ _
      · next properties _ heq =>
        refine .object _ fun p hp => h s s.self_mem_subschemas p.2 ?_
        exact mem_propertySchemas heq hp
      · exact .primitive _ _ _
      · exact .untyped _

namespace Resolver

lemma Unfolds.everyProperty {r : Resolver} {m : Model} {u : Unfolding} {P : Schema → Prop}
    {S : String → Prop} (hu : r.Unfolds m u) (hm : m.Within P S)
    (closed : ∀ name t, S name → r.definitions.get? name = some t →
      (t.model r.definitions).Within P S) :
    (u.type r).EveryProperty P := by
  induction hu with
  | primitive | untyped | enum | itemless => simp [Unfolding.type, ResolvedType.EveryProperty]
  | object about properties =>
    cases hm with
    | object _ h => exact h
  | array _ ih =>
    cases hm with
    | array _ h => exact ih h
  | map _ ih =>
    cases hm with
    | map _ h => exact ih h
  | composed about unfolding _ ih =>
    cases hm with
    | composed _ h =>
      rw [Unfolding.type, Unfolding.branchTypes_eq_map]
      refine ObjectType.everyProperty_compose (fun t ht => ?_) about
      obtain ⟨branch, hbranch, rfl⟩ := List.mem_map.1 ht
      obtain ⟨b, hb, rfl⟩ := List.mem_map.1 hbranch
      exact (ih b hb (h b hb)).unwrap
  | unexpanded about name reference =>
    simp [Unfolding.type, stub, ResolvedType.linkTo, ResolvedType.EveryProperty,
      ObjectType.named]
  | expanded about reference get _ ih =>
    cases hm with
    | reference _ h =>
      have hinner := ih (closed _ _ h get)
      simpa [Unfolding.type, linkTo, ResolvedType.linkTo,
        ResolvedType.EveryProperty] using hinner

/-- What holds of the properties in a schema and in all definitions that it reaches holds of the
properties of its type. -/
theorem everyProperty_resolveIn {r : Resolver} {s : Schema} {P : Schema → Prop}
    (own : s.EveryProperty P)
    (reached : ∀ name t, r.definitions.Reaches s name → r.definitions.get? name = some t →
      t.EveryProperty P) (chain : List String) :
    (r.resolveIn chain (s.model r.definitions)).value.EveryProperty P := by
  obtain ⟨u, hu, heq, -⟩ := exists_unfolding r chain (s.model r.definitions)
  have hmodel : (s.model r.definitions).Within P (r.definitions.Reaches s) :=
    own.within_model fun name hn => .direct hn
  rw [heq]
  refine hu.everyProperty hmodel fun name t hn get => ?_
  exact (reached name t hn get).within_model fun next hnext => .through hn get hnext

end Resolver

end OpenApiDoc
