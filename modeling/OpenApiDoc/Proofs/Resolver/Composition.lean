import OpenApiDoc.Proofs.Entries
import OpenApiDoc.Proofs.Resolver.PropertyNames

/-!
# What a composition is made of

The branches of a composition are resolved one after the other, each on the chain of the
composition, and make one object. `ObjectType.MergedFrom` says which: how the object gets its
properties, its nature, its discriminator and its name from the types of the branches.

Properties, discriminator and name all follow the rule that the last branch with a say decides.
The rule is associative. So a branch that is a composition itself, without a title and a
discriminator of its own, may be replaced by its branches (`Resolver.resolveIn_nested`). Only the
nature may change, as it depends on the number of branches.
-/

namespace OpenApiDoc

namespace ObjectType

variable {about : Annotations} {types : List ResolvedType}

/-! ### The last one that has a say -/

lemma foldl_orElse_eq {α β : Type} (f : α → Option β) (l : List α) (start : Option β) :
    l.foldl (fun last x => f x <|> last) start = (l.reverse.findSome? f).or start := by
  induction l using List.reverseRecOn with
  | nil => rfl
  | append_singleton l x ih =>
    rw [List.foldl_append, ih, List.reverse_concat, List.findSome?_cons]
    cases h : f x <;> simp [h]

lemma lastDiscriminator_eq (objects : List ObjectType) :
    lastDiscriminator objects = objects.reverse.findSome? ObjectType.discriminator := by
  rw [lastDiscriminator, foldl_orElse_eq, Option.or_none]

lemma lastName_eq (title : Option String) (types : List ResolvedType) :
    lastName title types = (types.reverse.findSome? ResolvedType.name).or title :=
  foldl_orElse_eq ResolvedType.name types title

/-! ### The object of a composition -/

/-- How a composition comes of its annotations and the types of its branches, in order. -/
structure MergedFrom (about : Annotations) (types : List ResolvedType) (o : ObjectType) :
    Prop where
  /-- The names of the properties, each where an object has it first. -/
  keys : Entries.keys o.properties =
    ((among types).flatMap fun p => Entries.keys p.properties).eraseDups
  /-- A property has the schema that the last object with this property gives it (and gives it
  last, if it does so more than once). -/
  schema : ∀ key, Entries.get? key o.properties =
    (among types).reverse.findSome? fun p => Entries.get? key p.properties.reverse
  /-- One discriminator makes an inheritance, and else two objects make a composition. -/
  nature : o.nature =
    if (among types).any fun p => p.discriminator.isSome then .inheritance
    else if 2 ≤ (among types).length then .composition else .plain
  /-- The discriminator of the last object that has one, else that of the composition. -/
  discriminator : o.discriminator =
    ((among types).reverse.findSome? ObjectType.discriminator).or about.discriminator
  /-- The name of the last type that has one, object or not, else the title. -/
  names : o.names = { display := (types.reverse.findSome? ResolvedType.name).or about.title }

lemma properties_compose_eq_ofList (about : Annotations) (types : List ResolvedType) :
    (compose about types).properties =
      Entries.ofList ((among types).flatMap ObjectType.properties) := by
  rw [properties_compose, mergeProperties_eq_ofList]

lemma names_compose_eq (about : Annotations) (types : List ResolvedType) :
    (compose about types).names =
      { display := (types.reverse.findSome? ResolvedType.name).or about.title } := by
  rw [names_compose, lastName_eq]

lemma discriminator_compose (about : Annotations) (types : List ResolvedType) :
    (compose about types).discriminator =
      ((among types).reverse.findSome? ObjectType.discriminator).or about.discriminator := by
  rw [compose, ← lastDiscriminator_eq]
  cases lastDiscriminator (among types) <;> rfl

lemma nature_compose (about : Annotations) (types : List ResolvedType) :
    (compose about types).nature =
      if (among types).any fun p => p.discriminator.isSome then .inheritance
      else if 2 ≤ (among types).length then .composition else .plain := by
  rw [compose]
  rcases hlast : lastDiscriminator (among types) with _ | discriminator
  · rw [lastDiscriminator_eq] at hlast
    have hnone : ¬ (among types).any fun p => p.discriminator.isSome := by simpa using hlast
    rw [if_neg hnone]
  · rw [lastDiscriminator_eq] at hlast
    obtain ⟨p, hp, hdiscriminator⟩ := List.exists_of_findSome?_eq_some hlast
    have hsome : (among types).any fun p => p.discriminator.isSome :=
      List.any_eq_true.2 ⟨p, List.mem_reverse.1 hp, by simp [hdiscriminator]⟩
    rw [if_pos hsome]

lemma mergedFrom_compose (about : Annotations) (types : List ResolvedType) :
    (compose about types).MergedFrom about types where
  keys := by
    rw [properties_compose_eq_ofList, Entries.keys_ofList, Entries.keys, List.map_flatMap]
    rfl
  schema key := by
    rw [properties_compose_eq_ofList, Entries.get?_ofList, List.reverse_flatMap,
      Entries.get?_flatMap]
    rfl
  nature := nature_compose about types
  discriminator := discriminator_compose about types
  names := names_compose_eq about types

/-! ### A composition inside a composition -/

/-- Whether objects are merged at once or some of them first makes no difference to properties,
names and discriminator. -/
lemma compose_append_cons {inner : Annotations} (untitled : inner.title = none)
    (undiscriminated : inner.discriminator = none) (about : Annotations)
    (pre mid post : List ResolvedType) :
    let nested := compose about (pre ++ .object (compose inner mid) :: post)
    let flat := compose about (pre ++ mid ++ post)
    nested.properties = flat.properties ∧ nested.names = flat.names ∧
      nested.discriminator = flat.discriminator := by
  have hamong : ∀ types types', among (types ++ types') = among types ++ among types' :=
    fun _ _ => List.filterMap_append
  have hobject : ∀ o types, among (.object o :: types) = o :: among types := fun _ _ => rfl
  have hname : ∀ o, (ResolvedType.object o).name = o.names.display := fun _ => rfl
  refine ⟨?_, ?_, ?_⟩
  · have hinner := properties_compose_eq_ofList inner mid
    simp only [properties_compose_eq_ofList about, hamong, hobject, List.flatMap_append,
      List.flatMap_cons, hinner]
    simp only [Entries.ofList, Entries.insertAll_append]
    rw [← Entries.ofList, ← Entries.ofList, Entries.insertAll_ofList]
  · simp only [names_compose_eq, hname, untitled, List.reverse_append, List.reverse_cons,
      List.findSome?_append, List.findSome?_singleton, Option.or_none, Option.or_assoc]
  · simp only [discriminator_compose, hamong, hobject, undiscriminated, List.reverse_append,
      List.reverse_cons, List.findSome?_append, List.findSome?_singleton, Option.or_none,
      Option.or_assoc]

end ObjectType

/-! ### Resolving compositions -/

namespace Resolver

variable {r : Resolver} {s : Schema}

/-- The types of schemas behind any links. -/
def unwrapped (r : Resolver) (chain : List String) (schemas : List Schema) : List ResolvedType :=
  schemas.map fun schema => (r.resolveIn chain (schema.model r.definitions)).value.unwrap

/-- A composition resolves to the object that its branches make, resolved in order. -/
lemma resolveIn_of_composed (r : Resolver) (chain : List String) {branches : List Schema}
    (allOf : s.allOf = some branches) :
    (r.resolveIn chain (s.model r.definitions)).value =
      .object (.compose s.annotations (r.unwrapped chain branches)) := by
  rw [Schema.model_of_composed allOf, resolveIn]
  simp [value_resolveBranches, unwrapped, Function.comp_def]

/-- On every chain a composition resolves to an object, and its branches, resolved in order, say
which. -/
theorem resolveIn_composed (r : Resolver) (chain : List String) {branches : List Schema}
    (allOf : s.allOf = some branches) :
    ∃ o, (r.resolveIn chain (s.model r.definitions)).value = .object o ∧
      o.MergedFrom s.annotations (r.unwrapped chain branches) :=
  ⟨_, resolveIn_of_composed r chain allOf, ObjectType.mergedFrom_compose _ _⟩

/-- A schema of texts. -/
def textSchema : Schema := { type := some (.single "string") }

/-- An object with a property. -/
def holding (property : String) (schema : Schema) : Schema :=
  { properties := some [(property, schema)] }

/-- The branches of a cat: the cat itself, a pet, a text with a title, and an object that changes
a property of the pet and adds one. -/
def catBranches : List Schema :=
  [{ reference := some "Cat" }, { reference := some "Pet" },
    { textSchema with title := some "Tag" },
    { properties := some [("skill", textSchema), ("name", holding "first" textSchema)] }]

/-- A cat. -/
def cat : Schema := { allOf := some catBranches }

/-- The definitions of a cat and of a pet with a discriminator. -/
def catTable : Resolver where
  definitions := (Definitions.empty.insert "Cat" cat).insert "Pet"
    { discriminator := some (.name "kind")
      properties := some [("name", textSchema), ("kind", textSchema)] }
  links := fun _ => none

/-- The cat that is being expanded adds its name and no property, and the text
decides the name. -/
theorem resolveIn_composed_cat :
    cat.allOf = some catBranches ∧
    ∃ o, (catTable.resolveIn ["Cat"] (cat.model catTable.definitions)).value = .object o ∧
      Entries.keys o.properties = ["name", "kind", "skill"] ∧
      (Entries.get? "name" o.properties).map Schema.properties =
        some (some [("first", textSchema)]) ∧
      o.nature = .inheritance ∧ o.discriminator = some "kind" ∧
      o.names = { display := some "Tag" } := by
  obtain ⟨o, ho, merged⟩ := resolveIn_composed catTable ["Cat"] (s := cat) rfl
  refine ⟨rfl, o, ho, ?_, ?_, ?_, ?_, ?_⟩
  · rw [merged.keys]
    cbv
  · rw [merged.schema]
    cbv
  · rw [merged.nature]
    cbv
  · rw [merged.discriminator]
    cbv
  · rw [merged.names]
    cbv

/-- A composition inside a composition, without a title and a discriminator of its own, makes the
same properties, name and discriminator as its branches in its place. -/
theorem resolveIn_nested (r : Resolver) (chain : List String) {inner : Schema}
    {mid : List Schema} (allOf : inner.allOf = some mid) (untitled : inner.title = none)
    (undiscriminated : inner.discriminator = none) (s : Schema) (pre post : List Schema) :
    ∃ nested flat,
      (r.resolveIn chain (Schema.model r.definitions
        { s with allOf := some (pre ++ inner :: post) })).value = .object nested ∧
      (r.resolveIn chain (Schema.model r.definitions
        { s with allOf := some (pre ++ mid ++ post) })).value = .object flat ∧
      nested.properties = flat.properties ∧ nested.names = flat.names ∧
      nested.discriminator = flat.discriminator := by
  refine ⟨_, _, resolveIn_of_composed r chain rfl, resolveIn_of_composed r chain rfl, ?_⟩
  have hinner : r.unwrapped chain (pre ++ inner :: post) =
      r.unwrapped chain pre ++ .object (.compose inner.annotations (r.unwrapped chain mid)) ::
        r.unwrapped chain post := by
    simp [unwrapped, resolveIn_of_composed r chain allOf, ResolvedType.unwrap]
  have hflat : r.unwrapped chain (pre ++ mid ++ post) =
      r.unwrapped chain pre ++ r.unwrapped chain mid ++ r.unwrapped chain post := by
    simp [unwrapped]
  rw [hinner, hflat]
  refine ObjectType.compose_append_cons untitled ?_ s.annotations _ _ _
  simp [SchemaFacts.annotations, SchemaFacts.discriminatorName, undiscriminated]

/-- The branches of a cat may stand in a composition among the branches of another one. -/
theorem resolveIn_nested_cat :
    cat.allOf = some catBranches ∧ cat.title = none ∧ cat.discriminator = none ∧
    ∃ nested flat,
      (catTable.resolveIn [] (Schema.model catTable.definitions
        { allOf := some ([textSchema] ++ cat :: [holding "skill" cat]) })).value =
          .object nested ∧
      (catTable.resolveIn [] (Schema.model catTable.definitions
        { allOf := some ([textSchema] ++ catBranches ++ [holding "skill" cat]) })).value =
          .object flat ∧
      nested.properties = flat.properties ∧ nested.names = flat.names ∧
      nested.discriminator = flat.discriminator :=
  ⟨rfl, rfl, rfl, resolveIn_nested catTable [] (show cat.allOf = some catBranches from rfl)
    rfl rfl {} [textSchema] [holding "skill" cat]⟩

end Resolver

end OpenApiDoc
