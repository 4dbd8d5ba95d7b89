import Mathlib
import OpenApiDoc.Proofs.Example.Expansion
import OpenApiDoc.Proofs.Example.Routes
import OpenApiDoc.Proofs.Resolver.PropertyNames
import OpenApiDoc.Resolver.Rows

/-!
# Rows of required properties

The rows of a definition are those of the object behind its type, flagged by the required list of
the definition. As long as optional properties are left out, the generated example has the
required properties of the same object. Both follow references and compositions, in different
ways, but they find the same names, and so the flagged rows are the keys of the example.

An alias is the exception. Its rows and its example are those of the definition at the end of its
row of references, and so is the required list that the example keeps to. The rows are flagged by
the list that stands on the alias itself.
-/

namespace OpenApiDoc

/-! ### Aliases -/

/-- Whether the schema stands for the definition that it references. -/
def Schema.isAlias (s : Schema) : Bool := s.allOf.isNone && s.reference.isSome

namespace Definitions

variable {d : Definitions} {s t u : Schema}

lemma Aliases.trans (h : d.Aliases s t) (h' : d.Aliases t u) : d.Aliases s u := by
  induction h with
  | refl s => exact h'
  | step allOf refers get _ ih => exact .step allOf refers get (ih h')

lemma Aliases.eq_of_not_alias (h : d.Aliases s t) (hs : s.isAlias = false) : s = t := by
  cases h with
  | refl => rfl
  | step allOf refers _ _ => simp [Schema.isAlias, allOf, refers] at hs

/-- A row of references that has an end does not come back to a schema on it. -/
lemma Aliases.not_back {reference : String} (row : d.Aliases s u) (ends : u.isAlias = false)
    (allOf : s.allOf = none) (refers : s.reference = some reference)
    (get : d.get? (d.referenceName reference) = some t) : ¬ d.Aliases t s := by
  induction row generalizing t reference with
  | refl s => simp [Schema.isAlias, allOf, refers] at ends
  | step allOf' refers' get' _ ih =>
    obtain rfl := Option.some.inj (refers'.symm.trans refers)
    obtain rfl := Option.some.inj (get'.symm.trans get)
    -- a row back to the first schema would also lead from the second one back to itself
    intro back
    cases back with
    | refl => exact ih ends allOf refers get (.refl _)
    | step allOf₂ refers₂ get₂ back =>
      exact ih ends allOf₂ refers₂ get₂ (back.trans (.step allOf refers get (.refl _)))

end Definitions

/-! ### Rows -/

/-- The names of the properties that rows are about. -/
def rowNames (rows : List PropertyRow) : List String := rows.map PropertyRow.name

/-- The names of the properties whose rows are flagged as required. -/
def requiredNames (rows : List PropertyRow) : List String :=
  (rows.filter PropertyRow.required).map PropertyRow.name

namespace Resolver

open Example

variable {r : Resolver} {g : Generator} {config : Config} {s : Schema} {name key : String}
  {rows : Hoisted (List PropertyRow)}

/-- A row has the name of its property and the flag. -/
lemma row_flag {parent : String} {property : PropertyRequirement} {source : Schema}
    {hoisted : Hoisted PropertyRow}
    (h : (r.row g config parent property source).result = some hoisted) :
    (hoisted.value.name, hoisted.value.required) = (property.name, property.required) := by
  simp only [row, Draft.result_bind, Draft.result_pure, Option.bind_eq_some_iff] at h
  obtain ⟨_, _, _, _, h⟩ := h
  cases h
  rfl

lemma distribute_flags (o : ObjectType) (required : List String) :
    (o.distribute required).map (fun property => (property.name, property.required)) =
      o.properties.map fun p => (p.1, required.contains p.1) := by
  rw [ObjectType.distribute, List.map_map]
  refine List.map_congr_left fun p _ => ?_
  by_cases hrequired : p.1 ∈ required <;> simp [hrequired]

/-- There is a row for each property of an object, in order. -/
lemma propertyRows_flags {parent : String} {o : ObjectType} {required : List String}
    (h : (r.propertyRows g config parent o required).result = some rows) :
    rows.value.map (fun row => (row.name, row.required)) =
      o.properties.map fun p => (p.1, required.contains p.1) := by
  simp only [propertyRows, Draft.result_bind, Draft.result_pure, Option.bind_eq_some_iff] at h
  obtain ⟨results, hresults, h⟩ := h
  cases h
  have hflags := Draft.map_of_mapM (fun _ _ => row_flag) hresults
  rw [List.map_map]
  exact hflags.trans (distribute_flags o required)

lemma mem_requiredNames {rows : List PropertyRow} :
    key ∈ requiredNames rows ↔ (key, true) ∈ rows.map fun row => (row.name, row.required) := by
  simp only [requiredNames, List.mem_map, List.mem_filter, Prod.mk.injEq]
  constructor
  · rintro ⟨row, ⟨hrow, hrequired⟩, rfl⟩
    exact ⟨row, hrow, rfl, hrequired⟩
  · rintro ⟨row, hrow, rfl, hrequired⟩
    exact ⟨row, ⟨hrow, hrequired⟩, rfl⟩

/-- Where a definition has rows, its type is an object, the rows are about the properties that
the definition declares, and those that it requires are flagged. -/
theorem definitionRows_flags (get : r.definitions.get? name = some s)
    (h : (r.definitionRows g config name).result = some (some rows)) :
    (r.resolveReference name).value.object?.isSome ∧
      (∀ key, key ∈ rowNames rows.value ↔ ∃ path, r.definitions.Declares s path key) ∧
      ∀ key, key ∈ requiredNames rows.value ↔
        key ∈ rowNames rows.value ∧ key ∈ r.definitions.requiredProperties s := by
  simp only [definitionRows, get, Draft.result_bind, Draft.result_ofNoted, Option.bind_some] at h
  rcases hobject : (r.resolveReference name).value.object? with _ | o
  · simp [hobject] at h
  simp only [hobject, Draft.result_map, Option.map_eq_some_iff, Option.some.injEq,
    exists_eq_right] at h
  have hflags := propertyRows_flags h
  have hnames : rowNames rows.value = Entries.keys o.properties := by
    have hfirst := congrArg (List.map Prod.fst) hflags
    simp only [List.map_map, Function.comp_def] at hfirst
    exact hfirst
  refine ⟨rfl, fun key => ?_, fun key => ?_⟩
  · rw [← mem_propertyNames_resolveReference get, hnames, ResolvedType.propertyNames,
      ResolvedType.properties, hobject]
    rfl
  · rw [mem_requiredNames, hflags, hnames]
    simp only [Entries.keys, List.mem_map, Prod.mk.injEq, List.contains_iff_mem]
    constructor
    · rintro ⟨p, hp, rfl, hrequired⟩
      exact ⟨⟨p, hp, rfl⟩, hrequired⟩
    · rintro ⟨⟨p, hp, rfl⟩, hrequired⟩
      exact ⟨p, hp, rfl, hrequired⟩

end Resolver

/-! ### Along a row of references -/

namespace Resolver

variable {r : Resolver} {s last : Schema} {chain : List String}

lemma isSome_object?_linkTo (name : String) (t : ResolvedType) :
    (r.linkTo name t).object?.isSome = t.object?.isSome := by
  rw [linkTo, ResolvedType.linkTo]
  cases t <;> rfl

/-- An alias resolves to an object exactly if the schema at the end of its row does, provided the
chain holds nothing but what comes before the alias. -/
lemma isSome_object?_of_aliases (row : r.definitions.Aliases s last)
    (ends : last.isAlias = false)
    (hchain : ∀ n ∈ chain, ∀ u, r.definitions.get? n = some u → r.definitions.Aliases u s) :
    ∃ chain', (r.resolveIn chain (s.model r.definitions)).value.object?.isSome =
      (r.resolveIn chain' (last.model r.definitions)).value.object?.isSome := by
  induction row generalizing chain with
  | refl s => exact ⟨chain, rfl⟩
  | @step s t u reference allOf refers get row ih =>
    have hname : r.definitions.referenceName reference ∉ chain := fun hmem =>
      (Definitions.Aliases.step allOf refers get row).not_back ends allOf refers get
        (hchain _ hmem t get)
    have hstep : r.definitions.Aliases s t := .step allOf refers get (.refl t)
    have hchain' : ∀ n ∈ r.definitions.referenceName reference :: chain, ∀ u,
        r.definitions.get? n = some u → r.definitions.Aliases u t := by
      intro n hn u hu
      rcases List.mem_cons.1 hn with rfl | hn
      · obtain rfl := Option.some.inj (hu.symm.trans get)
        exact .refl _
      · exact (hchain n hn u hu).trans hstep
    obtain ⟨chain', h⟩ := ih ends hchain'
    refine ⟨chain', ?_⟩
    rw [← h, Schema.model_of_reference allOf refers, resolveIn, expand_of_not_mem get hname,
      Noted.value_map, isSome_object?_linkTo]

/-- Whether a schema that is no alias resolves to an object does not depend on the chain. -/
lemma isSome_object?_congr {r' : Resolver} {chain' : List String} (h : s.isAlias = false) :
    (r.resolveIn chain (s.model r.definitions)).value.object?.isSome =
      (r'.resolveIn chain' (s.model r'.definitions)).value.object?.isSome := by
  cases s.shape with
  | composed branches allOf =>
    rw [Schema.model_of_composed allOf, Schema.model_of_composed allOf, resolveIn, resolveIn]
    rfl
  | reference reference allOf refers => simp [Schema.isAlias, allOf, refers] at h
  | array allOf refers isArray =>
    rw [Schema.model_of_array allOf refers isArray, Schema.model_of_array allOf refers isArray]
    rcases s.items with _ | item
    · rw [Option.map_none, Option.map_none, resolveIn, resolveIn]
    · rw [Option.map_some, Option.map_some, resolveIn, resolveIn]
      rfl
  | map value allOf refers isArray properties values =>
    rw [Schema.model_of_map allOf refers isArray properties values,
      Schema.model_of_map allOf refers isArray properties values, resolveIn, resolveIn]
    rfl
  | leaf allOf refers isArray noMap =>
    rw [Schema.model_of_leaf allOf refers isArray noMap,
      Schema.model_of_leaf allOf refers isArray noMap, resolveIn_ofLeaf]

end Resolver

namespace Example.Generator

variable {g : Generator} {recur : Recur} {visits : Visits} {s last : Schema} {name : String}

/-- On the way along a row of references every definition is entered, provided nothing was
visited but what comes before the schema. -/
lemma exists_exampleWithin_of_aliases (row : g.definitions.Aliases s last)
    (ends : last.isAlias = false)
    (generated : ∀ t, g.definitions.Aliases s t → t.authored = none)
    (hvisits : ∀ n u, visits.count n ≠ 0 → g.definitions.get? n = some u →
      g.definitions.Aliases u s) :
    ∃ steps visits', ∀ depth,
      g.exampleWithin (depth + steps) visits s = g.exampleWithin depth visits' last := by
  induction row generalizing visits with
  | refl s => exact ⟨0, visits, fun _ => rfl⟩
  | @step s t u reference allOf refers get row ih =>
    have hstep : g.definitions.Aliases s t := .step allOf refers get (.refl t)
    have hzero : visits.count (g.definitions.referenceName reference) = 0 := by
      by_contra hcount
      exact (hstep.trans row).not_back ends allOf refers get (hvisits _ t hcount get)
    obtain ⟨inner, enter⟩ := Visits.enter_of_lt (hzero ▸ g.options.limit.pos)
    have generated' : ∀ u, g.definitions.Aliases t u → u.authored = none :=
      fun u hu => generated u (hstep.trans hu)
    have hinner : ∀ n u, inner.count n ≠ 0 → g.definitions.get? n = some u →
        g.definitions.Aliases u t := by
      intro n u hcount hu
      rw [Visits.count_enter enter] at hcount
      split at hcount
      · next hn =>
        obtain rfl := Option.some.inj (hu.symm.trans (hn ▸ get))
        exact .refl _
      · exact (hvisits n u hcount hu).trans hstep
    obtain ⟨steps, visits', h⟩ := ih ends generated' hinner
    refine ⟨steps + 1, visits', fun depth => ?_⟩
    have follows : Follows s reference := ⟨generated s (.refl s), allOf, refers⟩
    rw [← h, ← Nat.add_assoc, exampleWithin, step_of_follows follows,
      referenceExample_of_entered get (generated' t (.refl t)) enter]

/-- The example of a schema that resolves to an object has the required ones of the properties of
this object. -/
lemma result_step_of_object (generated : s.authored = none) (h : s.isAlias = false)
    (object : (g.resolver.resolveSchema s).value.object?.isSome) :
    (g.step recur visits s).result =
      (g.objectExample recur visits (g.definitions.requiredProperties s)
        (g.resolver.resolveSchema s).value.properties).result := by
  cases s.shape with
  | composed branches allOf =>
    rw [step_of_composed generated allOf, Draft.result_bind]
    rfl
  | reference reference allOf refers => simp [Schema.isAlias, allOf, refers] at h
  | array allOf refers isArray =>
    rw [Resolver.resolveSchema, Resolver.resolve,
      Schema.model_of_array allOf refers isArray] at object
    rcases hitems : s.items with _ | item <;>
      simp [hitems, Resolver.resolveIn, ResolvedType.object?, ResolvedType.unwrap] at object
  | map value allOf refers isArray properties values =>
    rw [Resolver.resolveSchema, Resolver.resolve,
      Schema.model_of_map allOf refers isArray properties values] at object
    simp [Resolver.resolveIn, ResolvedType.object?, ResolvedType.unwrap] at object
  | leaf allOf refers isArray noMap =>
    have bare : Bare s := ⟨generated, allOf, refers⟩
    have hrequired : g.definitions.requiredProperties s = s.required := by
      simp [Definitions.requiredProperties, Schema.branchList, allOf]
    rw [Resolver.resolveSchema, Resolver.resolve,
      Schema.model_of_leaf allOf refers isArray noMap, Model.ofLeaf.eq_def] at object ⊢
    split at object
    · simp [Resolver.resolveIn, ResolvedType.object?, ResolvedType.unwrap] at object
    · next properties henum hproperties =>
      have first : firstValue s = none := by simp [firstValue, henum]
      rw [step_of_object bare isArray first hproperties, hrequired]
      simp [Resolver.resolveIn, ResolvedType.properties, ResolvedType.object?,
        ResolvedType.unwrap]
    · simp [Resolver.resolveIn, ResolvedType.object?, ResolvedType.unwrap] at object
    · simp [Resolver.resolveIn, ResolvedType.object?, ResolvedType.unwrap] at object

/-- A finished example of an object has a key for each property that takes part. -/
lemma keys_of_objectExample {required : List String} {properties : List (String × Schema)}
    {value : Json} (h : (g.objectExample recur visits required properties).result = some value) :
    ∃ entries, value = .obj entries ∧
      Entries.keys entries = Entries.keys (g.shown required properties) := by
  rw [objectExample_eq, Draft.result_map, Option.map_eq_some_iff] at h
  obtain ⟨entries, hentries, rfl⟩ := h
  refine ⟨entries, rfl, Draft.map_of_mapM (fun p entry hentry => ?_) hentries⟩
  rw [Draft.result_map, Option.map_eq_some_iff] at hentry
  obtain ⟨_, _, rfl⟩ := hentry
  rfl

/-- With optional properties left out, the required ones take part, in order. -/
lemma keys_shown (optional : g.options.showsOptionalProperties = false)
    (required : List String) (properties : List (String × Schema)) :
    Entries.keys (g.shown required properties) =
      (Entries.keys properties).filter required.contains := by
  simp only [Entries.keys, shown, shows, optional, Bool.false_or, List.filter_map]
  rfl

/-- A definition leads to the example of the schema at the end of its row of
references, after some visits. -/
lemma definitionExample_of_aliases (generates : g.options.generates = true)
    (get : g.definitions.get? name = some s) (row : g.definitions.Aliases s last)
    (ends : last.isAlias = false)
    (generated : ∀ t, g.definitions.Aliases s t → t.authored = none)
    {value : Option Json} (h : (g.definitionExample name).result = some value) :
    ∃ depth visits, (g.exampleWithin depth visits last).result = value ∧ value.isSome := by
  have hgenerated : s.authored = none := generated s (.refl s)
  obtain ⟨visits, enter⟩ : ∃ visits, ({} : Visits).enter name g.options.limit = some visits :=
    Visits.enter_of_lt g.options.limit.pos
  have hvisits : ∀ n u, visits.count n ≠ 0 → g.definitions.get? n = some u →
      g.definitions.Aliases u s := by
    intro n u hcount hu
    rw [Visits.count_enter enter] at hcount
    split at hcount
    · next hn =>
      obtain rfl := Option.some.inj (hu.symm.trans (hn ▸ get))
      exact .refl _
    · exact absurd (Visits.count_empty n) hcount
  obtain ⟨steps, visits', hsteps⟩ :=
    exists_exampleWithin_of_aliases row ends generated hvisits
  simp only [definitionExample, get, hgenerated, generates, if_true, Draft.result_map,
    referenceExample_of_entered get hgenerated enter, Option.map_eq_some_iff] at h
  obtain ⟨json, hjson, rfl⟩ := h
  refine ⟨g.depth 0, visits', ?_, rfl⟩
  rw [← hsteps, exampleWithin_mono (by rw [hjson]; rfl) (Nat.le_add_right _ steps), hjson]

/-- Where what a definition reaches is defined and leads back to nothing, the example of the
definition is finished. -/
lemma isSome_definitionExample_of_grounded (get : g.definitions.get? name = some s)
    (grounded : g.definitions.Grounded s) : (g.definitionExample name).result.isSome := by
  rcases generated : s.authored with _ | value
  · by_cases generates : g.options.generates = true
    · obtain ⟨visits, enter⟩ : ∃ visits,
          ({} : Visits).enter name g.options.limit = some visits :=
        Visits.enter_of_lt g.options.limit.pos
      have hroots : Schema.countList [] ≤ 0 := Nat.le_refl 0
      have hmem : s ∈ g.known [] := mem_known_of_get? get
      have finished := (ends_of_grounded grounded visits).isSome_of_depth hroots hmem
        ((Visits.within_empty _).enter enter)
      simpa [definitionExample, get, generated, generates,
        referenceExample_of_entered get generated enter] using finished
    · simp [definitionExample, get, generated, generates]
  · simp [definitionExample, get, generated]

/-- Where a reference to a definition resolves to an object, so does the schema at the end of
its row of references. -/
lemma isSome_object?_last {links : LinkTargets} (get : g.definitions.get? name = some s)
    (row : g.definitions.Aliases s last) (ends : last.isAlias = false)
    (object : (Resolver.resolveReference ⟨g.definitions, links⟩ name).value.object?.isSome) :
    (g.resolver.resolveSchema last).value.object?.isSome := by
  have hchain : ∀ n ∈ [name], ∀ u, g.definitions.get? n = some u →
      g.definitions.Aliases u s := by
    intro n hn u hu
    obtain rfl := List.mem_singleton.1 hn
    obtain rfl := Option.some.inj (hu.symm.trans get)
    exact .refl _
  rw [Resolver.resolveReference, Resolver.expand_of_not_mem get List.not_mem_nil,
    Noted.value_map, Resolver.isSome_object?_linkTo] at object
  obtain ⟨chain', h⟩ :=
    Resolver.isSome_object?_of_aliases (r := ⟨g.definitions, links⟩) row ends hchain
  rw [h] at object
  rwa [Resolver.resolveSchema, Resolver.resolve, ← Resolver.isSome_object?_congr ends]

/-- As long as optional properties are left out, the generated example of a definition has the
properties that its rows flag as required. For an alias this holds of the properties that the
definition at the end of its row of references requires, while the rows are flagged by the list
on the alias itself. The example is finished where compositions stand at the top only, and where
references lead to definitions and never in a circle. -/
theorem definitionExample_keys {links : LinkTargets} {config : Config}
    {rows : Hoisted (List PropertyRow)} (generates : g.options.generates = true)
    (optional : g.options.showsOptionalProperties = false)
    (get : g.definitions.get? name = some s) (row : g.definitions.Aliases s last)
    (ends : last.isAlias = false)
    (generated : ∀ t, g.definitions.Aliases s t → t.authored = none)
    (hrows : (Resolver.definitionRows ⟨g.definitions, links⟩ g config name).result =
      some (some rows)) :
    (∀ value, (g.definitionExample name).result = some value →
      ∃ entries, value = some (.obj entries) ∧
        (s.isAlias = false →
          ∀ key, key ∈ Entries.keys entries ↔ key ∈ requiredNames rows.value) ∧
        ∀ key, key ∈ Entries.keys entries ↔
          key ∈ rowNames rows.value ∧ key ∈ g.definitions.requiredProperties last) ∧
    (∀ key, key ∈ requiredNames rows.value ↔
      key ∈ rowNames rows.value ∧ key ∈ g.definitions.requiredProperties s) ∧
    (g.options.limit.val ≤ 254 ∧ g.ComposesAtTop ∨ g.definitions.Grounded s →
      (g.definitionExample name).result.isSome) := by
  obtain ⟨object, hnames, hflagged⟩ := Resolver.definitionRows_flags get hrows
  refine ⟨fun value hvalue => ?_, hflagged, ?_⟩
  · obtain ⟨depth, visits, hresult, hvalue⟩ :=
      definitionExample_of_aliases generates get row ends generated hvalue
    obtain ⟨json, rfl⟩ := Option.isSome_iff_exists.1 hvalue
    have hlast := isSome_object?_last get row ends object
    cases depth with
    | zero => cases hresult
    | succ depth =>
      rw [exampleWithin, result_step_of_object (generated last row) ends hlast] at hresult
      obtain ⟨entries, rfl, hkeys⟩ := keys_of_objectExample hresult
      have hentries : ∀ key, key ∈ Entries.keys entries ↔
          key ∈ rowNames rows.value ∧ key ∈ g.definitions.requiredProperties last := by
        intro key
        have hdeclared : key ∈ (g.resolver.resolveSchema last).value.propertyNames ↔
            ∃ path, g.definitions.Declares last path key :=
          Resolver.mem_propertyNames_resolveSchema
        rw [hkeys, keys_shown optional, List.mem_filter, List.contains_iff_mem, hnames,
          row.exists_declares_iff, ← hdeclared]
        rfl
      refine ⟨entries, rfl, fun hs key => ?_, hentries⟩
      obtain rfl := row.eq_of_not_alias hs
      rw [hentries, hflagged]
  · rintro (⟨hlimit, defs⟩ | grounded)
    · exact defs.isSome_definitionExample hlimit name
    · exact isSome_definitionExample_of_grounded get grounded

/-- An object with one required property. -/
def pet : Schema where
  required := ["id"]
  properties := some
    [("id", { type := some (.single "string") }), ("tag", { type := some (.single "string") })]

/-- A composition of a pet and a required property of its own. -/
def dog : Schema where
  required := ["bark"]
  allOf := some [{ reference := some "Pet" },
    { properties := some [("bark", { type := some (.single "string") })] }]

/-- A pet, a dog and an alias of the pet. -/
def pets : Generator where
  definitions :=
    ((Definitions.empty.insert "Pet" pet).insert "Dog" dog).insert "Animal"
      { reference := some "Pet" }
  options := { generates := true, showsOptionalProperties := false }

theorem definitionExample_keys_dog :
    ∃ rows entries,
      (Resolver.definitionRows ⟨pets.definitions, .sameDocument⟩ pets {} "Dog").result =
        some (some rows) ∧
      (pets.definitionExample "Dog").result = some (some (.obj entries)) ∧
      ∀ key, key ∈ Entries.keys entries ↔ key ∈ requiredNames rows.value := by
  have hrows : ((Resolver.definitionRows ⟨pets.definitions, .sameDocument⟩ pets {}
      "Dog").result.bind id).isSome = true := by cbv
  obtain ⟨rows, hrows⟩ := Option.isSome_iff_exists.1 hrows
  rw [Option.bind_eq_some_iff] at hrows
  obtain ⟨_, hrows, rfl⟩ := hrows
  have generated : ∀ t, pets.definitions.Aliases dog t → t.authored = none := by
    intro t ht
    obtain rfl := ht.eq_of_not_alias rfl
    rfl
  have grounded : pets.definitions.Grounded dog :=
    Definitions.grounded_of_rank (pets.definitions.names.idxOf ·) (by decide) (by decide)
  obtain ⟨hkeys, -, finished⟩ :=
    definitionExample_keys rfl rfl rfl (.refl dog) rfl generated hrows
  obtain ⟨value, hvalue⟩ := Option.isSome_iff_exists.1 (finished (.inr grounded))
  obtain ⟨entries, rfl, hentries, -⟩ := hkeys value hvalue
  exact ⟨rows, entries, hrows, hvalue, hentries rfl⟩

/-- The rows of an alias are not flagged, although its example has a required property. -/
theorem animal_rows_not_flagged :
    ∃ rows entries,
      pets.definitions.Aliases { reference := some "Pet" } pet ∧ pet.isAlias = false ∧
      (∀ t, pets.definitions.Aliases { reference := some "Pet" } t → t.authored = none) ∧
      (Resolver.definitionRows ⟨pets.definitions, .sameDocument⟩ pets {} "Animal").result =
        some (some rows) ∧
      (pets.definitionExample "Animal").result = some (some (.obj entries)) ∧
      ¬ ∀ key, key ∈ requiredNames rows.value ↔ key ∈ Entries.keys entries := by
  have hflagged : ((Resolver.definitionRows ⟨pets.definitions, .sameDocument⟩ pets {}
      "Animal").result.bind id).map (fun rows => requiredNames rows.value) = some [] := by cbv
  have hexample : (pets.definitionExample "Animal").result =
      some (some (.obj [("id", .str "string")])) := by cbv
  obtain ⟨rows, hrows, hnone⟩ := Option.map_eq_some_iff.1 hflagged
  rw [Option.bind_eq_some_iff] at hrows
  obtain ⟨_, hrows, rfl⟩ := hrows
  refine ⟨rows, _, .step rfl rfl rfl (.refl pet), rfl, fun t ht => ?_, hrows, hexample, ?_⟩
  · exact ht.forall (P := fun t => t.authored = none) rfl (by decide)
  · intro h
    have hid := (h "id").2 (by decide)
    rw [hnone] at hid
    cases hid

end Example.Generator

end OpenApiDoc
