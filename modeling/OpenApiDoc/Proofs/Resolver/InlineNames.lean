import Mathlib
import OpenApiDoc.Proofs.Example.Draft
import OpenApiDoc.Proofs.Resolver.Provenance
import OpenApiDoc.Resolver.Rows

/-!
# Names of inline objects

At most one inline object is taken out of the type of a property. It is named after the
parent and the property unless it has a display name, and then it goes by that name alone.
Names made for the place are distinct, as the names of the properties are; display names come
from titles and from the branches of compositions, where nothing keeps two of them apart, or
one of them from a definition.
-/

namespace OpenApiDoc

open Example (Draft Generator)

namespace ObjectType

/-- The object goes by its display name, having no other. -/
def KeepsName (o : ObjectType) : Prop := o.names.unique = none

instance (o : ObjectType) : Decidable o.KeepsName :=
  inferInstanceAs (Decidable (o.names.unique = none))

end ObjectType

/-! ### The object that hoisting takes out -/

namespace ResolvedType

/-- The object that hoisting takes out of the type. -/
def inline? : ResolvedType → Option ObjectType
  | .object shape => if shape.properties.isEmpty then none else some shape
  | .array _ element _ => element.inline?
  | .map _ value => if value.isObject then value.inline? else none
  | _ => none

lemma inline_hoist (display unique : String) (t : ResolvedType) :
    (t.hoist display unique).value.inline =
      (t.inline?.map (ObjectType.nameFor display unique)).toList := by
  induction t with
  | object shape =>
    by_cases hempty : shape.properties.isEmpty <;> simp [hoist, inline?, hempty]
  | array names element collection ih => simp [hoist, inline?, ih]
  | map names value ih =>
    by_cases hobject : value.isObject <;> simp [hoist, inline?, ih, hobject]
  | _ => rfl

end ResolvedType

/-- The schema that describes an object within a schema: itself, or one that the items of an
array or the values of a map lead to. -/
inductive Schema.Carries : Schema → Schema → Prop where
  | composed {s : Schema} {branches : List Schema} (allOf : s.allOf = some branches) :
      Carries s s
  | object {s : Schema} {properties : List (String × Schema)} (allOf : s.allOf = none)
      (refers : s.reference = none) (isArray : s.isArray = false) (enum : s.enum = none)
      (declares : s.properties = some properties) : Carries s s
  | array {s item t : Schema} (allOf : s.allOf = none) (refers : s.reference = none)
      (isArray : s.isArray = true) (items : s.items = some item) (h : Carries item t) :
      Carries s t
  | map {s value t : Schema} (allOf : s.allOf = none) (refers : s.reference = none)
      (isArray : s.isArray = false) (properties : s.properties = none)
      (values : s.valueSchema = some value) (h : Carries value t) : Carries s t

namespace Resolver

variable {r : Resolver} {g : Generator} {config : Config} {parent : String} {o : ObjectType}
  {required : List String} {rows : Hoisted (List PropertyRow)}

/-- The display name of the object that a schema describes: its title, or in a composition the
name of the last branch that has one. -/
def displayName (r : Resolver) (s : Schema) : Option String :=
  match s.allOf with
  | none => s.title
  | some branches =>
    ObjectType.lastName s.title
      (r.resolveBranches [] (branches.map (Schema.model r.definitions))).value

/-- An object has the display name that its schema gives, and no unique name. -/
lemma names_of_object {s : Schema} {shape : ObjectType}
    (h : (r.resolveSchema s).value = .object shape) :
    shape.names = { display := r.displayName s } := by
  rw [resolveSchema, resolve] at h
  cases s.shape with
  | composed branches allOf =>
    rw [Schema.model_of_composed allOf, resolveIn] at h
    cases h
    rw [ObjectType.names_compose, displayName, allOf]
    rfl
  | reference reference allOf refers =>
    rw [Schema.model_of_reference allOf refers, resolveIn] at h
    rcases get : r.definitions.get? (r.definitions.referenceName reference) with _ | target
    · rw [expand_of_missing get] at h
      cases h
    · rw [expand_of_not_mem get List.not_mem_nil] at h
      cases h
  | array allOf refers isArray =>
    rw [Schema.model_of_array allOf refers isArray] at h
    rcases hitems : s.items with _ | item <;> simp [hitems, resolveIn] at h
  | map value allOf refers isArray properties values =>
    rw [Schema.model_of_map allOf refers isArray properties values, resolveIn] at h
    cases h
  | leaf allOf refers isArray noMap =>
    rw [Schema.model_of_leaf allOf refers isArray noMap, Model.ofLeaf.eq_def] at h
    split at h <;> rw [resolveIn] at h <;> cases h
    rw [displayName, allOf]
    rfl

/-- An object that can be hoisted has the display name that its schema gives, and
no unique name. -/
lemma names_of_inline? {s : Schema} {shape : ObjectType}
    (h : (r.resolveSchema s).value.inline? = some shape) :
    ∃ t, s.Carries t ∧ shape.names = { display := r.displayName t } := by
  induction s using Schema.induction_on_children with
  | step s ih =>
    rw [resolveSchema, resolve] at h
    cases s.shape with
    | composed branches allOf =>
      rw [Schema.model_of_composed allOf, resolveIn] at h
      simp only [bind_pure_comp, Noted.value_map, ResolvedType.inline?,
        Option.ite_none_left_eq_some, Option.some.injEq] at h
      refine ⟨s, .composed allOf, ?_⟩
      rw [← h.2, ObjectType.names_compose, displayName, allOf]
      rfl
    | reference reference allOf refers =>
      rw [Schema.model_of_reference allOf refers, resolveIn] at h
      rcases get : r.definitions.get? (r.definitions.referenceName reference) with _ | target
      · simp [expand_of_missing get, stub, ResolvedType.linkTo, ResolvedType.inline?] at h
      · simp [expand_of_not_mem get List.not_mem_nil, linkTo, ResolvedType.linkTo,
          ResolvedType.inline?] at h
    | array allOf refers isArray =>
      rw [Schema.model_of_array allOf refers isArray] at h
      rcases hitems : s.items with _ | item
      · simp [hitems, resolveIn, ResolvedType.inline?] at h
      · simp only [hitems, Option.map_some, resolveIn, bind_pure_comp, Noted.value_map,
          ResolvedType.inline?] at h
        have hitem := Schema.parts_subset_children s (Schema.mem_parts_of_items hitems)
        obtain ⟨t, ht, hnames⟩ := ih item hitem h
        exact ⟨t, .array allOf refers isArray hitems ht, hnames⟩
    | map value allOf refers isArray properties values =>
      rw [Schema.model_of_map allOf refers isArray properties values] at h
      simp only [resolveIn, bind_pure_comp, Noted.value_map, ResolvedType.inline?,
        Option.ite_none_right_eq_some] at h
      have hvalue := Schema.parts_subset_children s (Schema.mem_parts_of_valueSchema values)
      obtain ⟨t, ht, hnames⟩ := ih value hvalue h.2
      exact ⟨t, .map allOf refers isArray properties values ht, hnames⟩
    | leaf allOf refers isArray noMap =>
      rw [Schema.model_of_leaf allOf refers isArray noMap, Model.ofLeaf.eq_def] at h
      split at h <;> simp [resolveIn, ResolvedType.inline?] at h
      next henum hproperties =>
      refine ⟨s, .object allOf refers isArray henum hproperties, ?_⟩
      rw [← h.2, displayName, allOf]
      rfl

/-! ### Properties without their required lists -/

lemma resolveIn_ofLeaf_withoutRequired (chain : List String) (facts : SchemaFacts)
    (properties : Option (List (String × Schema))) :
    r.resolveIn chain (.ofLeaf { facts with required := [] } properties) =
      r.resolveIn chain (.ofLeaf facts properties) := by
  have hkind : SchemaFacts.kind { facts with required := [] } = facts.kind := rfl
  simp only [Model.ofLeaf, hkind]
  split <;> (simp only [resolveIn]; rfl)

/-- The type of a schema does not depend on its list of required names. -/
lemma resolveIn_withoutRequired (chain : List String) (s : Schema) :
    r.resolveIn chain (Schema.model r.definitions { s with required := [] }) =
      r.resolveIn chain (s.model r.definitions) := by
  cases s.shape with
  | composed branches allOf =>
    rw [Schema.model_of_composed allOf,
      Schema.model_of_composed (s := { s with required := [] }) allOf, resolveIn, resolveIn]
    rfl
  | reference reference allOf refers =>
    rw [Schema.model_of_reference allOf refers,
      Schema.model_of_reference (s := { s with required := [] }) allOf refers, resolveIn,
      resolveIn]
  | array allOf refers isArray =>
    rw [Schema.model_of_array allOf refers isArray,
      Schema.model_of_array (s := { s with required := [] }) allOf refers isArray]
    rcases s.items with _ | item
    · rw [Option.map_none, resolveIn, resolveIn]
      rfl
    · rw [Option.map_some, resolveIn, resolveIn]
      rfl
  | map value allOf refers isArray properties values =>
    rw [Schema.model_of_map allOf refers isArray properties values,
      Schema.model_of_map (s := { s with required := [] }) allOf refers isArray
        properties values, resolveIn, resolveIn]
    rfl
  | leaf allOf refers isArray noMap =>
    rw [Schema.model_of_leaf allOf refers isArray noMap,
      Schema.model_of_leaf (s := { s with required := [] }) allOf refers isArray noMap]
    exact resolveIn_ofLeaf_withoutRequired chain s.toSchemaFacts s.properties

/-! ### The inline objects of rows -/

/-- The inline object that is taken out of the type of a property of the parent. -/
def inlineOf (r : Resolver) (parent : String) (p : String × Schema) : Option ObjectType :=
  (r.resolveSchema p.2).value.inline?.map (ObjectType.nameFor p.1 (parent ++ " " ++ p.1))

lemma row_inline (hoists : config.hoistsInline = true) {property : PropertyRequirement}
    {source : Schema} {row : Hoisted PropertyRow}
    (h : (r.row g config parent property source).result = some row) :
    row.inline = (r.inlineOf parent (property.name, property.schema)).toList := by
  simp only [Resolver.row, Draft.result_bind, Draft.result_ofNoted, Draft.result_pure,
    Option.bind_some, Option.bind_eq_some_iff] at h
  obtain ⟨_, _, h⟩ := h
  cases h
  simp [hoistedType, hoists, ResolvedType.inline_hoist, inlineOf]

lemma distribute_inline (o : ObjectType) (required : List String) :
    (o.distribute required).map (fun property =>
        (r.inlineOf parent (property.name, property.schema)).toList) =
      o.properties.map fun p => (r.inlineOf parent p).toList := by
  rw [ObjectType.distribute, List.map_map]
  refine List.map_congr_left fun p _ => ?_
  by_cases hrequired : p.1 ∈ required
  · simp [hrequired, inlineOf, resolveSchema, resolve, resolveIn_withoutRequired]
  · simp [hrequired]

/-- The inline objects of rows are those of the properties, in order. -/
lemma propertyRows_inline (hoists : config.hoistsInline = true)
    (h : (r.propertyRows g config parent o required).result = some rows) :
    rows.inline = o.properties.filterMap (r.inlineOf parent) := by
  simp only [propertyRows, Draft.result_bind, Draft.result_pure, Option.bind_eq_some_iff] at h
  obtain ⟨results, hresults, h⟩ := h
  cases h
  have hinline := Draft.map_of_mapM (fun _ _ => row_inline hoists) hresults
  rw [distribute_inline] at hinline
  rw [List.flatMap_def, hinline, List.filterMap_eq_flatMap_toList, List.flatMap_def]

/-- The inline object of a property keeps a display name that it has, and is named for its place
otherwise. -/
lemma names_inlineOf {p : String × Schema} {shape : ObjectType}
    (h : r.inlineOf parent p = some shape) :
    ∃ t, p.2.Carries t ∧ shape.names =
      match r.displayName t with
      | some name => { display := some name }
      | none => ⟨some p.1, some (parent ++ " " ++ p.1)⟩ := by
  rw [inlineOf, Option.map_eq_some_iff] at h
  obtain ⟨found, hfound, rfl⟩ := h
  obtain ⟨t, ht, hnames⟩ := names_of_inline? hfound
  refine ⟨t, ht, ?_⟩
  rw [ObjectType.nameFor.eq_def, hnames]
  rcases hdisplay : r.displayName t with _ | name
  · rfl
  · rw [hdisplay] at hnames
    exact hnames

lemma identity_of_not_keepsName {p : String × Schema} {shape : ObjectType}
    (h : r.inlineOf parent p = some shape) (named : ¬ shape.KeepsName) :
    shape.names.identity = some (parent ++ " " ++ p.1) := by
  obtain ⟨t, -, hnames⟩ := names_inlineOf h
  rcases hdisplay : r.displayName t with _ | name
  · rw [hnames, hdisplay]
    rfl
  · rw [hdisplay] at hnames
    exact absurd (congrArg TypeNames.unique hnames) named

lemma isSome_identity_inlineOf {p : String × Schema} {shape : ObjectType}
    (h : r.inlineOf parent p = some shape) : ∃ name, shape.names.identity = some name := by
  obtain ⟨t, -, hnames⟩ := names_inlineOf h
  rw [hnames]
  rcases r.displayName t with _ | name
  · exact ⟨parent ++ " " ++ p.1, rfl⟩
  · exact ⟨name, rfl⟩

/-- Inline objects that are named for their places have different unique names. -/
lemma pairwise_inlineOf (distinct : (Entries.keys o.properties).Nodup) :
    (o.properties.filterMap (r.inlineOf parent)).Pairwise fun a b =>
      a.names.identity = b.names.identity → a.KeepsName ∨ b.KeepsName := by
  rw [List.pairwise_filterMap]
  refine (List.pairwise_map.1 distinct).imp ?_
  intro p q hne a ha b hb heq
  by_contra hnamed
  rw [not_or] at hnamed
  rw [identity_of_not_keepsName ha hnamed.1, identity_of_not_keepsName hb hnamed.2,
    Option.some.injEq, String.append_right_inj] at heq
  exact hne heq

/-- An inline object that is named for its place is called like no definition. -/
lemma not_contains_inlineOf {p : String × Schema} {shape : ObjectType} {name : String}
    (free : r.definitions.contains (parent ++ " " ++ p.1) = false)
    (h : r.inlineOf parent p = some shape) (identity : shape.names.identity = some name)
    (contains : r.definitions.contains name = true) : shape.KeepsName := by
  by_contra named
  rw [identity_of_not_keepsName h named, Option.some.injEq] at identity
  rw [← identity, free] at contains
  cases contains

/-- The inline objects of rows have unique names. Two share theirs only if one of them was
resolved with that name for display, and so it is with one that is called like a definition;
those without a display name are named for their places. -/
theorem inline_identities (hoists : config.hoistsInline = true)
    (distinct : (Entries.keys o.properties).Nodup)
    (free : ∀ p ∈ o.properties, r.definitions.contains (parent ++ " " ++ p.1) = false)
    (h : (r.propertyRows g config parent o required).result = some rows) :
    rows.inline.Pairwise (fun a b =>
      a.names.identity = b.names.identity → a.KeepsName ∨ b.KeepsName) ∧
    (∀ shape ∈ rows.inline, ∃ name, shape.names.identity = some name ∧
      (r.definitions.contains name = true → shape.KeepsName)) ∧
    ∀ shape ∈ rows.inline, ∃ p ∈ o.properties, ∃ t, p.2.Carries t ∧ shape.names =
      match r.displayName t with
      | some name => { display := some name }
      | none => ⟨some p.1, some (parent ++ " " ++ p.1)⟩ := by
  rw [propertyRows_inline hoists h]
  refine ⟨pairwise_inlineOf distinct, fun shape hshape => ?_, fun shape hshape => ?_⟩
  · obtain ⟨p, hp, hshape⟩ := List.mem_filterMap.1 hshape
    obtain ⟨name, hname⟩ := isSome_identity_inlineOf hshape
    exact ⟨name, hname, not_contains_inlineOf (free p hp) hshape hname⟩
  · obtain ⟨p, hp, hshape⟩ := List.mem_filterMap.1 hshape
    exact ⟨p, hp, names_inlineOf hshape⟩

/-- An object with two properties of one title, a property that adds to a pet, and one whose
object has no display name. -/
def order : ObjectType where
  properties :=
    [("home", { title := some "Address"
                properties := some [("street", { type := some (.single "string") })] }),
      ("work", { title := some "Address"
                 properties := some [("street", { type := some (.single "string") })] }),
      ("pet", { allOf := some
                  [{ properties := some [("tag", { type := some (.single "string") })] },
                    { reference := some "Pet" }] }),
      ("meta", { properties := some [("at", { type := some (.single "string") })] })]

/-- The definition of a pet. -/
def orderTable : Generator where
  definitions := Definitions.empty.insert "Pet"
    { properties := some [("name", { type := some (.single "string") })] }
  options := {}

theorem inline_identities_order :
    ∃ rows, (propertyRows ⟨orderTable.definitions, .sameDocument⟩ orderTable {} "Order" order
        []).result = some rows ∧
      rows.inline.Pairwise (fun a b =>
        a.names.identity = b.names.identity → a.KeepsName ∨ b.KeepsName) ∧
      ∀ shape ∈ rows.inline, ∃ name, shape.names.identity = some name ∧
        (orderTable.definitions.contains name = true → shape.KeepsName) := by
  have hrows : (propertyRows ⟨orderTable.definitions, .sameDocument⟩ orderTable {} "Order" order
      []).result.isSome = true := by cbv
  obtain ⟨rows, hrows⟩ := Option.isSome_iff_exists.1 hrows
  obtain ⟨hpairwise, hidentities, -⟩ :=
    inline_identities (by decide) (by decide) (by decide) hrows
  exact ⟨rows, hrows, hpairwise, hidentities⟩

/-- The addresses share their unique name, and the inline pet is called like the definition. -/
theorem order_identities_clash :
    ∃ rows, (propertyRows ⟨orderTable.definitions, .sameDocument⟩ orderTable {} "Order" order
        []).result = some rows ∧
      (∀ p ∈ order.properties, orderTable.definitions.contains ("Order" ++ " " ++ p.1) = false) ∧
      ¬ (rows.inline.map fun shape => shape.names.identity).Nodup ∧
      ∃ shape ∈ rows.inline, ∃ name, shape.names.identity = some name ∧
        orderTable.definitions.contains name = true := by
  have hnames : (propertyRows ⟨orderTable.definitions, .sameDocument⟩ orderTable {} "Order" order
      []).result.map (fun rows => rows.inline.map fun shape => shape.names.identity) =
        some [some "Address", some "Address", some "Pet", some "Order meta"] := by cbv
  obtain ⟨rows, hrows, hnames⟩ := Option.map_eq_some_iff.1 hnames
  have hpet : some "Pet" ∈ rows.inline.map fun shape => shape.names.identity := by
    rw [hnames]
    decide
  obtain ⟨shape, hshape, hname⟩ := List.mem_map.1 hpet
  exact ⟨rows, hrows, by decide, by rw [hnames]; decide, shape, hshape, "Pet", hname, by decide⟩

end Resolver

end OpenApiDoc
