import OpenApiDoc.Proofs.Resolver.Provenance

/-!
# Names of properties

The object behind a type has the properties of the schema, of the branches of a composition and
of the definitions that references lead to. `Definitions.Declares` says so without a resolver: a
schema *declares* a property along a path of references that leads to an object with this
property. On a chain a resolver finds the properties that are declared along paths off the chain
(`Resolver.mem_propertyNames_resolveIn`).

A path that comes back to a definition can be cut short there, so for the names it makes no
difference whether the definition of a schema is on the chain while the schema is resolved.

No name stands twice in the object, as long as none stands twice in the schema at the end of a
row of references (`Resolver.nodup_propertyNames_resolveIn`).
-/

namespace OpenApiDoc

/-! ### Properties behind types -/

namespace ResolvedType

variable {t : ResolvedType} {key : String}

/-- The properties of the object behind a type; none for a type that is no object. -/
def properties (t : ResolvedType) : List (String × Schema) :=
  (t.object?.map ObjectType.properties).getD []

/-- The names of the properties of the object behind a type. -/
def propertyNames (t : ResolvedType) : List String := Entries.keys t.properties

lemma object?_eq_some {shape : ObjectType} :
    t.object? = some shape ↔ t.unwrap = .object shape := by
  rw [object?]
  cases t.unwrap <;> simp

lemma mem_propertyNames :
    key ∈ t.propertyNames ↔ ∃ o, t.unwrap = .object o ∧ key ∈ Entries.keys o.properties := by
  rw [propertyNames, properties, object?]
  cases t.unwrap <;> simp [Entries.keys]

@[simp] lemma propertyNames_array (names : TypeNames) (collection : Option CollectionFormat) :
    (array names t collection).propertyNames = [] := rfl

@[simp] lemma propertyNames_map (names : TypeNames) : (map names t).propertyNames = [] := rfl

@[simp] lemma propertyNames_enum (names : TypeNames) (kind : Kind) (values : List String) :
    (enum names kind values).propertyNames = [] := rfl

@[simp] lemma propertyNames_basic (names : TypeNames) (kind : Kind) (format : Option String) :
    (basic names kind format).propertyNames = [] := rfl

@[simp] lemma propertyNames_linkTo (document : Option String) (names : TypeNames) :
    (linkTo document (t.withNames names)).propertyNames = t.propertyNames := by
  rw [propertyNames, properties, propertyNames, properties, linkTo]
  cases t <;> rfl

end ResolvedType

namespace ObjectType

variable {key : String}

lemma mem_keys_mergeProperties {objects : List ObjectType} :
    key ∈ Entries.keys (mergeProperties objects) ↔
      ∃ o ∈ objects, key ∈ Entries.keys o.properties := by
  rw [mergeProperties_eq_ofList, Entries.ofList, Entries.mem_keys_insertAll, Entries.keys,
    Entries.keys, List.map_flatMap, List.map_nil, List.mem_flatMap]
  simp [Entries.keys]

lemma nodup_keys_mergeProperties (objects : List ObjectType) :
    (Entries.keys (mergeProperties objects)).Nodup := by
  rw [mergeProperties_eq_ofList]
  exact Entries.nodup_keys_ofList _

/-- A composition has the properties of the objects behind its branches. -/
lemma mem_propertyNames_compose {about : Annotations} {types : List ResolvedType} :
    key ∈ (ResolvedType.object (compose about (types.map .unwrap))).propertyNames ↔
      ∃ t ∈ types, key ∈ t.propertyNames := by
  have hobject : (ResolvedType.object (compose about (types.map .unwrap))).propertyNames =
      Entries.keys (mergeProperties (among (types.map .unwrap))) := by
    rw [← properties_compose about]
    rfl
  rw [hobject, mem_keys_mergeProperties]
  constructor
  · rintro ⟨o, ho, hkey⟩
    obtain ⟨t, ht, hunwrap⟩ := List.mem_map.1 (mem_among.1 ho)
    exact ⟨t, ht, ResolvedType.mem_propertyNames.2 ⟨o, hunwrap, hkey⟩⟩
  · rintro ⟨t, ht, hkey⟩
    obtain ⟨o, hunwrap, hkey⟩ := ResolvedType.mem_propertyNames.1 hkey
    exact ⟨o, mem_among.2 (List.mem_map.2 ⟨t, ht, hunwrap⟩), hkey⟩

end ObjectType

/-! ### Declared properties -/

namespace Definitions

variable {d : Definitions} {s t : Schema} {path : List String} {name key : String}

/-- A schema declares a property along the definitions that references lead to on
the way to it. -/
inductive Declares (d : Definitions) : Schema → List String → String → Prop where
  | property {s : Schema} {properties : List (String × Schema)} {key : String}
      (allOf : s.allOf = none) (refers : s.reference = none) (isArray : s.isArray = false)
      (enum : s.enum = none) (hproperties : s.properties = some properties)
      (h : key ∈ Entries.keys properties) : d.Declares s [] key
  | branch {s b : Schema} {branches : List Schema} {path : List String} {key : String}
      (allOf : s.allOf = some branches) (hb : b ∈ branches) (h : d.Declares b path key) :
      d.Declares s path key
  | reference {s t : Schema} {reference : String} {path : List String} {key : String}
      (allOf : s.allOf = none) (refers : s.reference = some reference)
      (get : d.get? (d.referenceName reference) = some t) (h : d.Declares t path key) :
      d.Declares s (d.referenceName reference :: path) key

lemma declares_composed {branches : List Schema} (allOf : s.allOf = some branches) :
    d.Declares s path key ↔ ∃ b ∈ branches, d.Declares b path key := by
  constructor
  · intro h
    cases h with
    | property allOf' | reference allOf' => simp [allOf] at allOf'
    | branch allOf' hb h =>
      obtain rfl := Option.some.inj (allOf'.symm.trans allOf)
      exact ⟨_, hb, h⟩
  · rintro ⟨b, hb, h⟩
    exact .branch allOf hb h

lemma declares_reference {reference : String} (allOf : s.allOf = none)
    (refers : s.reference = some reference) :
    d.Declares s path key ↔ ∃ t rest, path = d.referenceName reference :: rest ∧
      d.get? (d.referenceName reference) = some t ∧ d.Declares t rest key := by
  constructor
  · intro h
    cases h with
    | property _ refers' => simp [refers] at refers'
    | branch allOf' => simp [allOf] at allOf'
    | reference _ refers' get h =>
      obtain rfl := Option.some.inj (refers'.symm.trans refers)
      exact ⟨_, _, rfl, get, h⟩
  · rintro ⟨t, rest, rfl, get, h⟩
    exact .reference allOf refers get h

lemma declares_bare (allOf : s.allOf = none) (refers : s.reference = none) :
    d.Declares s path key ↔ path = [] ∧ s.isArray = false ∧ s.enum = none ∧
      ∃ properties, s.properties = some properties ∧ key ∈ Entries.keys properties := by
  constructor
  · intro h
    cases h with
    | property _ _ isArray enum hproperties h => exact ⟨rfl, isArray, enum, _, hproperties, h⟩
    | branch allOf' => simp [allOf] at allOf'
    | reference _ refers' => simp [refers] at refers'
  · rintro ⟨rfl, isArray, enum, properties, hproperties, h⟩
    exact .property allOf refers isArray enum hproperties h

/-- From any definition on its path on, the path is one of the definition. -/
lemma Declares.of_append {before after : List String}
    (h : d.Declares s (before ++ name :: after) key) (get : d.get? name = some t) :
    d.Declares t after key := by
  generalize hpath : before ++ name :: after = path at h
  induction h generalizing before with
  | property => simp at hpath
  | branch _ _ _ ih => exact ih hpath
  | reference _ _ get' h ih =>
    cases before with
    | nil =>
      obtain ⟨rfl, rfl⟩ := List.cons.inj hpath
      obtain rfl : _ = t := Option.some.inj (get'.symm.trans get)
      exact h
    | cons _ before => exact ih (List.cons.inj hpath).2

/-- A definition declares its properties along paths that do not come back to it. -/
theorem Declares.exists_off {path : List String} (get : d.get? name = some s)
    (h : d.Declares s path key) :
    ∃ path', path' ⊆ path ∧ name ∉ path' ∧ d.Declares s path' key := by
  by_cases hname : name ∈ path
  · obtain ⟨before, after, rfl⟩ := List.append_of_mem hname
    obtain ⟨path', hsub, hoff, h'⟩ := (h.of_append get).exists_off get
    refine ⟨path', fun n hn => ?_, hoff, h'⟩
    exact List.mem_append_right before (List.mem_cons_of_mem name (hsub hn))
  · exact ⟨path, List.Subset.refl path, hname, h⟩
termination_by path.length
decreasing_by
  simp only [*, List.length_append, List.length_cons]
  omega

/-- An alias declares what the schema at the end of its row of references declares. -/
lemma Aliases.exists_declares_iff (h : d.Aliases s t) :
    (∃ path, d.Declares s path key) ↔ ∃ path, d.Declares t path key := by
  induction h with
  | refl => exact Iff.rfl
  | step allOf refers get _ ih =>
    rw [← ih]
    constructor
    · rintro ⟨path, h⟩
      obtain ⟨t, rest, -, get', h⟩ := (declares_reference allOf refers).1 h
      obtain rfl := Option.some.inj (get'.symm.trans get)
      exact ⟨rest, h⟩
    · rintro ⟨path, h⟩
      exact ⟨_, .reference allOf refers get h⟩

end Definitions

/-! ### Names that a resolver finds -/

namespace Resolver

variable {r : Resolver} {s : Schema} {chain : List String} {name key : String}

lemma value_resolveBranches (chain : List String) (branches : List Model) :
    (r.resolveBranches chain branches).value =
      (branches.map fun b => (r.resolveIn chain b).value).map .unwrap := by
  induction branches with
  | nil => rw [resolveBranches]; rfl
  | cons b rest ih => rw [resolveBranches_cons, ih]; rfl

@[simp] lemma propertyNames_stub (name : String) : (r.stub name).propertyNames = [] := rfl

/-- The names of the properties of a schema without composition and reference. -/
lemma mem_propertyNames_leaf (allOf : s.allOf = none) (refers : s.reference = none)
    (isArray : s.isArray = false) (noMap : s.properties = none → s.valueSchema = none) :
    key ∈ (r.resolveIn chain (s.model r.definitions)).value.propertyNames ↔
      s.enum = none ∧
        ∃ properties, s.properties = some properties ∧ key ∈ Entries.keys properties := by
  rw [Schema.model_of_leaf allOf refers isArray noMap, Model.ofLeaf.eq_def,
    ResolvedType.mem_propertyNames]
  split
  · next henum => simp [resolveIn, henum, ResolvedType.unwrap]
  · next henum hproperties => simp [resolveIn, henum, hproperties, ResolvedType.unwrap]
  · next hproperties _ => simp [resolveIn, hproperties, ResolvedType.unwrap]
  · next hproperties _ => simp [resolveIn, hproperties, ResolvedType.unwrap]

theorem mem_propertyNames_resolveIn (r : Resolver) (chain : List String) (s : Schema)
    (key : String) :
    key ∈ (r.resolveIn chain (s.model r.definitions)).value.propertyNames ↔
      ∃ path, r.definitions.Declares s path key ∧ ∀ n ∈ path, n ∉ chain := by
  cases s.shape with
  | composed branches allOf =>
    have hbranches : ∀ b ∈ branches,
        (key ∈ (r.resolveIn chain (b.model r.definitions)).value.propertyNames ↔
          ∃ path, r.definitions.Declares b path key ∧ ∀ n ∈ path, n ∉ chain) :=
      fun b hb => mem_propertyNames_resolveIn r chain b key
    rw [Schema.model_of_composed allOf, resolveIn]
    simp only [bind_pure_comp, Noted.value_map, value_resolveBranches,
      ObjectType.mem_propertyNames_compose, List.mem_map, exists_exists_and_eq_and,
      Definitions.declares_composed allOf]
    constructor
    · rintro ⟨b, hb, hkey⟩
      obtain ⟨path, h, hoff⟩ := (hbranches b hb).1 hkey
      exact ⟨path, ⟨b, hb, h⟩, hoff⟩
    · rintro ⟨path, ⟨b, hb, h⟩, hoff⟩
      exact ⟨b, hb, (hbranches b hb).2 ⟨path, h, hoff⟩⟩
  | reference reference allOf refers =>
    simp only [Schema.model_of_reference allOf refers, resolveIn,
      Definitions.declares_reference allOf refers]
    generalize r.definitions.referenceName reference = name
    rcases get : r.definitions.get? name with _ | target
    · simp [expand_of_missing get]
    by_cases hname : name ∈ chain
    · rw [expand_of_mem get hname]
      simp only [propertyNames_stub, List.not_mem_nil, false_iff]
      rintro ⟨_, ⟨t, rest, rfl, -⟩, hoff⟩
      exact hoff name List.mem_cons_self hname
    · have htarget := mem_propertyNames_resolveIn r (name :: chain) target key
      rw [expand_of_not_mem get hname]
      simp only [Noted.value_map, linkTo, ResolvedType.propertyNames_linkTo]
      rw [htarget]
      constructor
      · rintro ⟨path, h, hoff⟩
        refine ⟨name :: path, ⟨target, path, rfl, rfl, h⟩, ?_⟩
        rintro n hn
        rcases List.mem_cons.1 hn with rfl | hn
        · exact hname
        · exact fun hmem => hoff n hn (List.mem_cons_of_mem name hmem)
      · -- the definition is on the chain now, and a path of its own need not come back to it
        rintro ⟨_, ⟨t, rest, rfl, get', h⟩, hoff⟩
        obtain rfl := Option.some.inj get'
        obtain ⟨path, hsub, hpath, h⟩ := h.exists_off get
        refine ⟨path, h, fun n hn hmem => ?_⟩
        rcases List.mem_cons.1 hmem with rfl | hmem
        · exact hpath hn
        · exact hoff n (List.mem_cons_of_mem name (hsub hn)) hmem
  | array allOf refers isArray =>
    rw [Schema.model_of_array allOf refers isArray]
    rcases s.items with _ | item <;>
      simp [resolveIn, Definitions.declares_bare allOf refers, isArray]
  | map value allOf refers isArray properties values =>
    rw [Schema.model_of_map allOf refers isArray properties values]
    simp [resolveIn, Definitions.declares_bare allOf refers, properties]
  | leaf allOf refers isArray noMap =>
    rw [mem_propertyNames_leaf allOf refers isArray noMap]
    simp only [Definitions.declares_bare allOf refers, isArray, true_and]
    constructor
    · intro h
      exact ⟨[], ⟨rfl, h⟩, by simp⟩
    · rintro ⟨path, ⟨-, h⟩, -⟩
      exact h
termination_by (r.definitions.unvisited chain, s.count)
decreasing_by
  · exact Prod.Lex.right _
      (Schema.count_lt_of_mem_children (Schema.mem_children_of_branch allOf hb))
  · exact Prod.Lex.left _ _ (Definitions.unvisited_cons_lt get hname)

/-- A reference to a definition has the properties that the definition declares
along any path. -/
theorem mem_propertyNames_resolveReference (get : r.definitions.get? name = some s) :
    key ∈ (r.resolveReference name).value.propertyNames ↔
      ∃ path, r.definitions.Declares s path key := by
  rw [resolveReference, expand_of_not_mem get List.not_mem_nil]
  simp only [Noted.value_map, linkTo, ResolvedType.propertyNames_linkTo,
    mem_propertyNames_resolveIn, List.mem_singleton]
  constructor
  · rintro ⟨path, h, -⟩
    exact ⟨path, h⟩
  · rintro ⟨path, h⟩
    obtain ⟨path', -, hoff, h'⟩ := h.exists_off get
    refine ⟨path', h', ?_⟩
    rintro n hn rfl
    exact hoff hn

/-- A schema has the properties that it declares along any path. -/
theorem mem_propertyNames_resolveSchema :
    key ∈ (r.resolveSchema s).value.propertyNames ↔
      ∃ path, r.definitions.Declares s path key := by
  simp [resolveSchema, resolve, mem_propertyNames_resolveIn]

/-- No property name stands twice in a resolved object, as long as none does in the schemas along
the row of references. -/
theorem nodup_propertyNames_resolveIn (r : Resolver) (chain : List String) (s : Schema)
    (distinct : ∀ t, r.definitions.Aliases s t → (Entries.keys (t.properties.getD [])).Nodup) :
    (r.resolveIn chain (s.model r.definitions)).value.propertyNames.Nodup := by
  cases s.shape with
  | composed branches allOf =>
    rw [Schema.model_of_composed allOf, resolveIn]
    simp only [bind_pure_comp, Noted.value_map, ResolvedType.propertyNames,
      ResolvedType.properties, ResolvedType.object?, ResolvedType.unwrap, Option.map_some,
      Option.getD_some, ObjectType.properties_compose]
    exact ObjectType.nodup_keys_mergeProperties _
  | reference reference allOf refers =>
    rw [Schema.model_of_reference allOf refers, resolveIn]
    rcases get : r.definitions.get? (r.definitions.referenceName reference) with _ | target
    · simp [expand_of_missing get]
    by_cases hname : r.definitions.referenceName reference ∈ chain
    · simp [expand_of_mem get hname]
    · have distinct' : ∀ t, r.definitions.Aliases target t →
          (Entries.keys (t.properties.getD [])).Nodup :=
        fun t ht => distinct t (.step allOf refers get ht)
      have htarget := nodup_propertyNames_resolveIn r
        (r.definitions.referenceName reference :: chain) target distinct'
      simpa [expand_of_not_mem get hname, linkTo] using htarget
  | array allOf refers isArray =>
    rw [Schema.model_of_array allOf refers isArray]
    rcases s.items with _ | item <;> simp [resolveIn]
  | map value allOf refers isArray properties values =>
    rw [Schema.model_of_map allOf refers isArray properties values]
    simp [resolveIn]
  | leaf allOf refers isArray noMap =>
    have hs := distinct s (.refl s)
    rw [Schema.model_of_leaf allOf refers isArray noMap, Model.ofLeaf.eq_def]
    split
    · simp [resolveIn]
    · next hproperties =>
      rw [hproperties] at hs
      simpa [resolveIn, ResolvedType.propertyNames, ResolvedType.properties,
        ResolvedType.object?, ResolvedType.unwrap] using hs
    · simp [resolveIn]
    · simp [resolveIn]
termination_by r.definitions.unvisited chain
decreasing_by exact Definitions.unvisited_cons_lt get hname

end Resolver

end OpenApiDoc
