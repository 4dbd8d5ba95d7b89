import OpenApiDoc.Proofs.Definitions.Required
import OpenApiDoc.Proofs.Example.Depth
import OpenApiDoc.Proofs.Resolver.Locality
import OpenApiDoc.Resolver.Parameters

/-!
# Two routes to the example of a definition

The example of a definition is made from its schema, following references as they come. The type
of a definition has an example too: its schema is resolved first, and the required properties
are looked up by the name of the type. Where references lead to definitions and never in a
circle, both routes give the same example, since then neither the visits nor the chain of
expanded definitions matter.
-/

namespace OpenApiDoc.Example.Generator

variable {g : Generator} {visits : Visits} {s s' : Schema}

/-! ### Grounded schemas -/

lemma Leads.grounded (h : g.Leads s s') (grounded : g.definitions.Grounded s) :
    g.definitions.Grounded s' := by
  rcases h with ⟨hmem, -⟩ | ⟨name, t, hn, get, hmem⟩
  · exact grounded.of_mem_subschemas hmem
  · exact (grounded.of_reaches hn get).of_mem_subschemas hmem

lemma Leads.reaches {name : String} (h : g.Leads s s') (hn : g.definitions.Reaches s' name) :
    g.definitions.Reaches s name := by
  rcases h with ⟨hmem, -⟩ | ⟨next, t, hnext, get, hmem⟩
  · exact hn.of_mem_subschemas hmem
  · exact hnext.trans get (hn.of_mem_subschemas hmem)

/-- Making the example of a grounded schema comes to an end. -/
theorem ends_of_grounded (grounded : g.definitions.Grounded s) : ∀ visits, g.Ends visits s := by
  refine grounded.induction_on (P := fun s => ∀ visits, g.Ends visits s) ?_
  intro s _ inside reached visits
  refine .intro fun visits' s' call => ?_
  rcases call.leads with ⟨hmem, hcount⟩ | ⟨name, t, hn, get, hmem⟩
  · exact inside s' hmem hcount visits'
  · exact reached name t hn get s' hmem visits'

/-- Nothing that the schema reaches was visited. -/
def Fresh (g : Generator) (visits : Visits) (s : Schema) : Prop :=
  ∀ name, g.definitions.Reaches s name → visits.count name = 0

lemma fresh_empty (g : Generator) (s : Schema) : g.Fresh {} s := fun _ _ => rfl

lemma Fresh.of_leads (fresh : g.Fresh visits s) (h : g.Leads s s') : g.Fresh visits s' :=
  fun name hn => fresh name (h.reaches hn)

lemma Fresh.exists_enter {name : String} (fresh : g.Fresh visits s)
    (hn : g.definitions.Reaches s name) :
    ∃ inner, visits.enter name g.options.limit = some inner := by
  refine Visits.enter_of_lt ?_
  rw [fresh name hn]
  exact g.options.limit.pos

/-- After entering a definition nothing that it reaches was visited. -/
lemma Fresh.enter {name : String} {target : Schema} {inner : Visits}
    (fresh : g.Fresh visits s) (grounded : g.definitions.Grounded s)
    (hn : g.definitions.Reaches s name) (get : g.definitions.get? name = some target)
    (enter : visits.enter name g.options.limit = some inner) : g.Fresh inner target := by
  intro next hnext
  have hne : next ≠ name := fun e => grounded.acyclic name target hn get (e ▸ hnext)
  rw [Visits.count_enter enter, if_neg hne]
  exact fresh next (hn.trans get hnext)

/-- The visits do not matter for a grounded schema as long as they are fresh. -/
theorem exampleWithin_eq_of_fresh {visits₁ visits₂ : Visits}
    (grounded : g.definitions.Grounded s) (fresh₁ : g.Fresh visits₁ s)
    (fresh₂ : g.Fresh visits₂ s) (depth : Nat) :
    g.exampleWithin depth visits₁ s = g.exampleWithin depth visits₂ s := by
  induction depth generalizing visits₁ visits₂ s with
  | zero => rfl
  | succ depth ih =>
    refine step_congr rfl rfl rfl rfl (fun _ _ => rfl) (fun s' hs' => ?_)
      fun reference target follows get _ => ?_
    · have hleads := hs'.leads
      exact ih (hleads.grounded grounded) (fresh₁.of_leads hleads) (fresh₂.of_leads hleads)
    · have hn : g.definitions.Reaches s (g.definitions.referenceName reference) :=
        Definitions.reaches_of_reference follows.refers
      obtain ⟨inner₁, enter₁⟩ := fresh₁.exists_enter hn
      obtain ⟨inner₂, enter₂⟩ := fresh₂.exists_enter hn
      rw [enter₁, enter₂, Option.map_some, Option.map_some]
      congr 1
      exact ih (grounded.of_reaches hn get) (fresh₁.enter grounded hn get enter₁)
        (fresh₂.enter grounded hn get enter₂)

/-- Two finished examples of a grounded schema are the same, at whatever depth and after whatever
fresh visits. -/
lemma exampleWithin_eq_of_isSome {depth more : Nat} (grounded : g.definitions.Grounded s)
    (fresh : g.Fresh visits s) (h : (g.exampleWithin depth visits s).result.isSome)
    (h' : (g.exampleWithin more {} s).result.isSome) :
    g.exampleWithin depth visits s = g.exampleWithin more {} s := by
  rw [exampleWithin_eq_of_fresh grounded fresh (g.fresh_empty s)] at h ⊢
  rw [← generate_eq h, generate_eq h']

/-! ### Types of grounded schemas -/

/-- On a chain that holds nothing of what a schema reaches, a resolver finds the object that the
generator finds on the empty chain. -/
lemma object?_resolveIn (links : LinkTargets) {chain : List String}
    (hchain : ∀ name, g.definitions.Reaches s name → name ∉ chain) :
    (Resolver.resolveIn ⟨g.definitions, links⟩ chain (s.model g.definitions)).value.object? =
      (g.resolver.resolveSchema s).value.object? := by
  have h : Resolver.SameUpTo (fun _ => none)
      (Resolver.resolveIn ⟨g.definitions, links⟩ chain (s.model g.definitions))
      (g.resolver.resolveIn [] (s.model g.definitions)) := by
    refine Resolver.resolveIn_congr (fun _ => rfl) (Definitions.Agree.refl _ s) fun name hn => ?_
    have hname : name ∉ chain := hchain name hn
    simp [hname]
  have hobject := congrArg ResolvedType.object? (Resolver.sameUpTo_iff.1 h).1
  rwa [ResolvedType.object?_relink, ResolvedType.object?_relink] at hobject

lemma typeExampleIn_object {recur : Recur} {shape : ObjectType} {name : String}
    (names : shape.names = .both name) (get : g.definitions.get? name = some s) :
    g.typeExampleIn recur visits (.object shape) =
      g.objectExample recur visits (g.definitions.requiredProperties s) shape.properties := by
  simp [typeExampleIn, names, TypeNames.both, TypeNames.identity, get]

/-! ### Rows of references -/

/-- A draft is the example of an object with the properties of this one and the required list of
the definition that the object is named after. -/
inductive Shows (g : Generator) (shape : ObjectType) (draft : Draft Json) : Prop where
  | intro {name : String} {s : Schema} {visits : Visits} (depth : Nat)
      (get : g.definitions.get? name = some s) (names : shape.names = .both name)
      (grounded : g.definitions.Grounded s) (fresh : g.Fresh visits s)
      (leads : ∀ p ∈ shape.properties, g.Leads s p.2)
      (result : draft.result = (g.objectExample (g.exampleWithin depth) visits
        (g.definitions.requiredProperties s) shape.properties).result)

/-- The example of a definition shows the object behind its type, which is that of the last
definition in a row of references. -/
theorem shows_exampleWithin {links : LinkTargets} {chain : List String} {name : String}
    {shape : ObjectType} {depth : Nat} (get : g.definitions.get? name = some s)
    (grounded : g.definitions.Grounded s) (fresh : g.Fresh visits s)
    (generated : ∀ t, g.definitions.Aliases s t → t.authored = none)
    (hchain : ∀ n, g.definitions.Reaches s n → n ∉ chain)
    (hshape : ((Resolver.resolveIn ⟨g.definitions, links⟩ chain
      (s.model g.definitions)).value.withNames (.both name)).unwrap = .object shape)
    (finished : (g.exampleWithin depth visits s).result.isSome) :
    g.Shows shape (g.exampleWithin depth visits s) := by
  -- along a row of references each step enters a definition, so the depth goes down with the row
  induction depth generalizing name s chain visits with
  | zero => cases finished
  | succ depth ih =>
    have hgenerated : s.authored = none := generated s (.refl s)
    have hobject := object?_resolveIn links hchain
    rw [exampleWithin] at finished ⊢
    cases s.shape with
    | composed branches allOf =>
      rw [Schema.model_of_composed allOf, Resolver.resolveIn] at hshape hobject
      cases hshape
      refine .intro depth get rfl grounded fresh ?_ ?_
      · intro p hp
        refine leads_merged ?_
        rw [mergedProperties, ← hobject]
        exact hp
      · rw [step_of_composed hgenerated allOf, Draft.result_bind, mergedProperties, ← hobject]
        rfl
    | reference reference allOf refers =>
      have follows : Follows s reference := ⟨hgenerated, allOf, refers⟩
      have hn : g.definitions.Reaches s (g.definitions.referenceName reference) :=
        Definitions.reaches_of_reference refers
      obtain ⟨target, get'⟩ := grounded.defined _ hn
      obtain ⟨inner, enter⟩ := fresh.exists_enter hn
      have generated' : ∀ t, g.definitions.Aliases target t → t.authored = none :=
        fun t ht => generated t (.step allOf refers get' ht)
      have hstep :
          g.step (g.exampleWithin depth) visits s = g.exampleWithin depth inner target := by
        rw [step_of_follows follows,
          referenceExample_of_entered get' (generated' target (.refl target)) enter]
      rw [hstep] at finished ⊢
      rw [Schema.model_of_reference allOf refers, Resolver.resolveIn,
        Resolver.expand_of_not_mem get' (hchain _ hn)] at hshape
      refine ih get' (grounded.of_reaches hn get') (fresh.enter grounded hn get' enter)
        generated' ?_ hshape finished
      intro next hnext hmem
      rcases List.mem_cons.1 hmem with rfl | hmem
      · exact grounded.acyclic _ target hn get' hnext
      · exact hchain next (hn.trans get' hnext) hmem
    | array allOf refers isArray =>
      rw [Schema.model_of_array allOf refers isArray] at hshape
      rcases hitems : s.items with _ | item
      · rw [hitems, Option.map_none, Resolver.resolveIn] at hshape
        cases hshape
      · rw [hitems, Option.map_some, Resolver.resolveIn] at hshape
        cases hshape
    | map value allOf refers isArray properties values =>
      rw [Schema.model_of_map allOf refers isArray properties values,
        Resolver.resolveIn] at hshape
      cases hshape
    | leaf allOf refers isArray noMap =>
      rw [Schema.model_of_leaf allOf refers isArray noMap, Model.ofLeaf.eq_def] at hshape
      split at hshape
      · rw [Resolver.resolveIn] at hshape
        cases hshape
      · next properties henum hproperties =>
        have first : firstValue s = none := by simp [firstValue, henum]
        have bare : Bare s := ⟨hgenerated, allOf, refers⟩
        have hrequired : g.definitions.requiredProperties s = s.required := by
          simp [Definitions.requiredProperties, Schema.branchList, allOf]
        rw [Resolver.resolveIn] at hshape
        cases hshape
        refine .intro depth get rfl grounded fresh ?_ ?_
        · intro p hp
          exact leads_part (Schema.propertySchemas_subset_parts s
            (Schema.mem_propertySchemas hproperties hp))
        · rw [step_of_object bare isArray first hproperties, hrequired]
      · rw [Resolver.resolveIn] at hshape
        cases hshape
      · rw [Resolver.resolveIn] at hshape
        cases hshape

/-- A finished draft that shows an object has the result of the example of this object. -/
lemma Shows.result_typeExample {shape : ObjectType} {draft : Draft Json}
    (shows : g.Shows shape draft) (finished : draft.result.isSome) :
    (g.typeExample (.object shape)).result = draft.result := by
  obtain ⟨depth, get, names, grounded, fresh, leads, result⟩ := shows
  rw [result] at finished ⊢
  rw [typeExample, typeExampleIn_object names get]
  congr 1
  refine objectExample_congr rfl fun p hp => ?_
  have hp' := (mem_shown.1 hp).1
  have hgrounded : g.definitions.Grounded p.2 := (leads p hp').grounded grounded
  have hfinished := (ends_of_grounded hgrounded {}).isSome_of_property hp'
  exact (exampleWithin_eq_of_isSome hgrounded (fresh.of_leads (leads p hp'))
    (isSome_objectExample.1 finished p hp) hfinished).symm

/-! ### Types of definitions -/

lemma isObject_hoist {t : ResolvedType} (h : t.isObject = false) (display unique : String) :
    (t.hoist display unique).value.value.isObject = false := by
  cases t with
  | object shape => cases h
  | map names value =>
    rw [ResolvedType.hoist]
    split <;> rfl
  | _ => rfl

/-- A definition whose type is an object has the type behind the links of its reference. -/
lemma definitionType_eq {r : Resolver} {config : Config} {name : String}
    (h : (r.definitionType config name).value.value.isObject = true) :
    (r.definitionType config name).value.value = (r.resolveReference name).value.unwrap := by
  rw [Resolver.definitionType] at h ⊢
  simp only [Noted.value_bind] at h ⊢
  split at h
  · next hcondition => simp [hcondition]
  · next hcondition =>
    rw [Bool.not_eq_true, Bool.or_eq_false_iff] at hcondition
    rw [isObject_hoist hcondition.1] at h
    cases h

/-- Where references lead to definitions and never in a circle, a definition whose type is an
object has the example of this type, provided no example is authored on it or on the definitions
that it is an alias of. -/
theorem typeExample_definitionType {links : LinkTargets} {config : Config} {name : String}
    (generates : g.options.generates = true) (get : g.definitions.get? name = some s)
    (grounded : g.definitions.Grounded s)
    (object : (Resolver.definitionType ⟨g.definitions, links⟩ config name).value.value.isObject)
    (generated : ∀ t, g.definitions.Aliases s t → t.authored = none) :
    ∃ value,
      (g.typeExample
        (Resolver.definitionType ⟨g.definitions, links⟩ config name).value.value).result =
          some value ∧
      (g.definitionExample name).result = some (some value) := by
  have hgenerated : s.authored = none := generated s (.refl s)
  -- the definition is not reached from its own schema, so entering it leaves the visits fresh
  have hname : ∀ n, g.definitions.Reaches s n → n ≠ name := by
    rintro n hn rfl
    exact grounded.acyclic n s hn get hn
  obtain ⟨visits, enter⟩ : ∃ visits, ({} : Visits).enter name g.options.limit = some visits :=
    Visits.enter_of_lt g.options.limit.pos
  have fresh : g.Fresh visits s := fun n hn => by
    rw [Visits.count_enter enter, if_neg (hname n hn), Visits.count_empty]
  have hroots : Schema.countList [] ≤ 0 := Nat.le_refl 0
  have hmem : s ∈ g.known [] := mem_known_of_get? get
  have finished := (ends_of_grounded grounded visits).isSome_of_depth hroots hmem
    ((Visits.within_empty _).enter enter)
  have hexample : (g.definitionExample name).result =
      (g.exampleWithin (g.depth 0) visits s).result.map some := by
    simp [definitionExample, get, hgenerated, generates,
      referenceExample_of_entered get hgenerated enter]
  have htype := definitionType_eq object
  rw [htype] at object ⊢
  obtain ⟨shape, hshape⟩ : ∃ shape, (Resolver.resolveReference ⟨g.definitions, links⟩
      name).value.unwrap = .object shape := by
    cases hunwrap : (Resolver.resolveReference ⟨g.definitions, links⟩ name).value.unwrap with
    | object shape => exact ⟨shape, rfl⟩
    | _ => simp [hunwrap, ResolvedType.isObject] at object
  have hinner := hshape
  rw [Resolver.resolveReference, Resolver.expand_of_not_mem get List.not_mem_nil] at hinner
  have shows : g.Shows shape (g.exampleWithin (g.depth 0) visits s) :=
    shows_exampleWithin get grounded fresh generated
      (fun n hn => by simpa using hname n hn) hinner finished
  obtain ⟨value, hvalue⟩ := Option.isSome_iff_exists.1 finished
  refine ⟨value, ?_, ?_⟩
  · rw [hshape, shows.result_typeExample finished, hvalue]
  · rw [hexample, hvalue, Option.map_some]

/-- An alias of an object whose property refers to a text. -/
def aliasedPet : Generator where
  definitions :=
    ((Definitions.empty.insert "Name" { type := some (.single "string") }
      ).insert "Pet" { properties := some [("name", { reference := some "Name" })] }
      ).insert "Animal" { reference := some "Pet" }
  options := { generates := true }

theorem typeExample_definitionType_aliasedPet :
    (aliasedPet.definitions.Grounded { reference := some "Pet" } ∧
      (∀ t, aliasedPet.definitions.Aliases { reference := some "Pet" } t → t.authored = none) ∧
      (Resolver.definitionType ⟨aliasedPet.definitions, .sameDocument⟩ {}
        "Animal").value.value.isObject) ∧
    ∃ value,
      (aliasedPet.typeExample (Resolver.definitionType ⟨aliasedPet.definitions, .sameDocument⟩ {}
        "Animal").value.value).result = some value ∧
      (aliasedPet.definitionExample "Animal").result = some (some value) := by
  have grounded : aliasedPet.definitions.Grounded { reference := some "Pet" } :=
    Definitions.grounded_of_rank (aliasedPet.definitions.names.idxOf ·) (by decide) (by decide)
  have generated : ∀ t, aliasedPet.definitions.Aliases { reference := some "Pet" } t →
      t.authored = none :=
    fun t ht => ht.forall (P := fun t => t.authored = none) rfl (by decide)
  have object : (Resolver.definitionType ⟨aliasedPet.definitions, .sameDocument⟩ {}
      "Animal").value.value.isObject := by
    have hpet : Schema.model aliasedPet.definitions
        { properties := some [("name", { reference := some "Name" })] } =
          .object {} [("name", { reference := some "Name" })] := rfl
    rw [Resolver.definitionType, Resolver.resolveReference,
      Resolver.expand_of_not_mem rfl List.not_mem_nil, Schema.model_of_reference rfl rfl,
      Resolver.resolveIn, Resolver.expand_of_not_mem rfl (by decide), hpet, Resolver.resolveIn]
    rfl
  exact ⟨⟨grounded, generated, object⟩,
    typeExample_definitionType rfl rfl grounded object generated⟩

end OpenApiDoc.Example.Generator
