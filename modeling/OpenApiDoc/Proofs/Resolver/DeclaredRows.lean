import OpenApiDoc.Proofs.Definitions.Extension
import OpenApiDoc.Proofs.Example.RequiredRows
import OpenApiDoc.Proofs.Example.RowExamples
import OpenApiDoc.Proofs.Resolver.Composition

/-!
# Rows of what a composition extends

The required list of a definition is collected from all that the definition extends, while its
rows are those of the object that its branches make. The two walks meet where it matters: a
property of an object that a composition extends has a row, in whichever circle the
definitions refer to each other.

They differ in what a schema counts for that is several things at once. A composition counts as
its branches when it is resolved, and properties that are written beside its `allOf` get no row.
A branch that is a composition and a reference at once counts as the composition when it is
resolved, and as the reference when the required list is collected, so the walks are compared
along the other branches (`Definitions.ExtendsApart`).
-/

namespace OpenApiDoc

/-! ### Objects with a property -/

/-- By the order of the rules the schema is an object, and it has the property. -/
def Schema.IsObjectWith (d : Definitions) (s : Schema) (key : String) : Prop :=
  ∃ about properties, s.model d = .object about properties ∧ key ∈ Entries.keys properties

namespace Definitions

variable {d : Definitions} {s t : Schema} {key : String}

/-- An object declares its properties without following a reference. -/
lemma declares_of_isObjectWith (h : s.IsObjectWith d key) : d.Declares s [] key := by
  obtain ⟨about, properties, hmodel, hkey⟩ := h
  cases s.shape with
  | composed branches allOf =>
    rw [Schema.model_of_composed allOf] at hmodel
    cases hmodel
  | reference reference allOf refers =>
    rw [Schema.model_of_reference allOf refers] at hmodel
    cases hmodel
  | array allOf refers isArray =>
    rw [Schema.model_of_array allOf refers isArray] at hmodel
    cases hmodel
  | map value allOf refers isArray noProperties values =>
    rw [Schema.model_of_map allOf refers isArray noProperties values] at hmodel
    cases hmodel
  | leaf allOf refers isArray noMap =>
    rw [Schema.model_of_leaf allOf refers isArray noMap, Model.ofLeaf.eq_def] at hmodel
    split at hmodel
    · cases hmodel
    · next henum hproperties =>
      cases hmodel
      exact .property allOf refers isArray henum hproperties hkey
    · cases hmodel
    · cases hmodel

/-! ### Extension by branches of one kind -/

/-- One schema extends another by a branch that is no composition and reference at once. -/
def ExtendsApart (d : Definitions) (s t : Schema) : Prop :=
  ∃ branch ∈ s.branchList, branch.Apart ∧ d.branchTarget? branch = some t

lemma ExtendsApart.extends (h : d.ExtendsApart s t) : d.Extends s t := by
  obtain ⟨branch, hbranch, -, htarget⟩ := h
  exact ⟨branch, hbranch, htarget⟩

/-- What is listed by a schema that is extended so is required. -/
lemma required_subset_of_extendsApart (h : Relation.ReflTransGen d.ExtendsApart s t) :
    t.required ⊆ d.requiredProperties s := by
  intro name hname
  have hextends : Relation.ReflTransGen d.Extends s t :=
    Relation.ReflTransGen.mono (fun _ _ => ExtendsApart.extends) s t h
  exact mem_requiredProperties.2 ⟨t, hextends, hname⟩

/-- A schema declares what a schema that it extends by such a branch declares. -/
lemma ExtendsApart.exists_declares (h : d.ExtendsApart s t)
    (ht : ∃ path, d.Declares t path key) : ∃ path, d.Declares s path key := by
  obtain ⟨branch, hbranch, apart, htarget⟩ := h
  obtain ⟨path, ht⟩ := ht
  obtain ⟨branches, allOf, hbranch⟩ : ∃ branches, s.allOf = some branches ∧
      branch ∈ branches := by
    rcases allOf : s.allOf with _ | branches
    · simp [Schema.branchList, allOf] at hbranch
    · exact ⟨branches, rfl, by simpa [Schema.branchList, allOf] using hbranch⟩
  rcases refers : branch.reference with _ | reference
  · rw [branchTarget?_of_inline refers] at htarget
    obtain rfl := Option.some.inj htarget
    exact ⟨path, .branch allOf hbranch ht⟩
  · rw [branchTarget?_of_reference refers] at htarget
    have plain : branch.allOf = none := apart.resolve_right (by simp [refers])
    exact ⟨_, .branch allOf hbranch (.reference plain refers htarget ht)⟩

/-- A schema declares the properties of the objects that it extends by such branches. -/
theorem exists_declares_of_extendsApart (h : Relation.ReflTransGen d.ExtendsApart s t)
    (ht : t.IsObjectWith d key) : ∃ path, d.Declares s path key := by
  induction h using Relation.ReflTransGen.head_induction_on with
  | refl => exact ⟨[], declares_of_isObjectWith ht⟩
  | head hstep _ ih => exact hstep.exists_declares ih

end Definitions

/-! ### The rows of a composition -/

namespace Resolver

open Example

variable {r : Resolver} {s : Schema} {name : String} {branches : List Schema}

/-- A reference to a composition leads to an object with distinct properties. -/
lemma exists_object?_of_composed (get : r.definitions.get? name = some s)
    (allOf : s.allOf = some branches) :
    ∃ o, (r.resolveReference name).value.object? = some o ∧
      (Entries.keys o.properties).Nodup := by
  rw [resolveReference, expand_of_not_mem get List.not_mem_nil, Noted.value_map,
    resolveIn_of_composed r [name] allOf]
  refine ⟨_, rfl, ?_⟩
  dsimp only
  rw [ObjectType.properties_compose]
  exact ObjectType.nodup_keys_mergeProperties _

/-- The rows of a composition are finished just if the examples of its properties are. -/
lemma isSome_definitionRows_of_composed (g : Generator) (config : Config)
    (get : r.definitions.get? name = some s) (allOf : s.allOf = some branches) :
    (r.definitionRows g config name).result.isSome ↔
      ∀ p ∈ (r.resolveReference name).value.properties, (g.schemaExample p.2).result.isSome := by
  obtain ⟨o, hobject, distinct⟩ := exists_object?_of_composed get allOf
  simp only [definitionRows, get, Draft.result_bind, Draft.result_ofNoted, Option.bind_some,
    hobject, Draft.result_map, Option.isSome_map, ResolvedType.properties, Option.map_some,
    Option.getD_some]
  exact isSome_propertyRows_iff distinct

/-- The properties of a composition are those that its branches declare. So it has the properties
of the objects whose lists it requires, and each of these has a row, flagged just if the
composition requires it. The rows are finished just if the examples in them are. -/
theorem declared_has_row (get : r.definitions.get? name = some s)
    (allOf : s.allOf = some branches) :
    (∀ key, key ∈ (r.resolveReference name).value.propertyNames ↔
      ∃ b ∈ branches, ∃ path, r.definitions.Declares b path key) ∧
    (∀ t, Relation.ReflTransGen r.definitions.ExtendsApart s t →
      t.required ⊆ r.definitions.requiredProperties s ∧
        ∀ key, t.IsObjectWith r.definitions key →
          key ∈ (r.resolveReference name).value.propertyNames) ∧
    ∀ (g : Generator) (config : Config),
      ((r.definitionRows g config name).result.isSome ↔
        ∀ p ∈ (r.resolveReference name).value.properties,
          (g.schemaExample p.2).result.isSome) ∧
      ∀ found, (r.definitionRows g config name).result = some found →
        ∃ rows, found = some rows ∧
          ∀ t key, Relation.ReflTransGen r.definitions.ExtendsApart s t →
            t.IsObjectWith r.definitions key →
            key ∈ rowNames rows.value ∧
              (key ∈ requiredNames rows.value ↔ key ∈ r.definitions.requiredProperties s) := by
  have hnames : ∀ t key, Relation.ReflTransGen r.definitions.ExtendsApart s t →
      t.IsObjectWith r.definitions key →
      ∃ path, r.definitions.Declares s path key :=
    fun t key hst ht => Definitions.exists_declares_of_extendsApart hst ht
  refine ⟨?branches, ?extended, fun g config => ⟨?finished, ?rows⟩⟩
  case branches =>
    intro key
    rw [mem_propertyNames_resolveReference get]
    simp only [Definitions.declares_composed allOf]
    constructor
    · rintro ⟨path, b, hb, h⟩
      exact ⟨b, hb, path, h⟩
    · rintro ⟨b, hb, path, h⟩
      exact ⟨path, b, hb, h⟩
  case extended =>
    intro t hst
    refine ⟨Definitions.required_subset_of_extendsApart hst, fun key ht => ?_⟩
    exact (mem_propertyNames_resolveReference get).2 (hnames t key hst ht)
  case finished => exact isSome_definitionRows_of_composed g config get allOf
  case rows =>
    intro found hfound
    obtain ⟨o, hobject, -⟩ := exists_object?_of_composed get allOf
    obtain ⟨rows, rfl⟩ : ∃ rows, found = some rows := by
      simp only [definitionRows, get, Draft.result_bind, Draft.result_ofNoted, Option.bind_some,
        hobject, Draft.result_map, Option.map_eq_some_iff] at hfound
      obtain ⟨rows, -, rfl⟩ := hfound
      exact ⟨rows, rfl⟩
    obtain ⟨-, hrows, hflagged⟩ := definitionRows_flags get hfound
    refine ⟨rows, rfl, fun t key hst ht => ?_⟩
    have hrow : key ∈ rowNames rows.value := (hrows key).2 (hnames t key hst ht)
    exact ⟨hrow, by rw [hflagged key, and_iff_right hrow]⟩

/-- An object with one property, which it requires. -/
def requiring (property : String) : Schema where
  required := [property]
  properties := some [(property, textSchema)]

/-- A composition that refers to the animals, holds another composition, and has a
property beside its branches. -/
def hound : Schema where
  required := ["legs"]
  properties := some [("legs", textSchema)]
  allOf := some [{ reference := some "Animal" }, { allOf := some [requiring "bark"] }]

/-- The hound and the animals, which are compositions of each other. -/
def hounds : Generator where
  definitions := (Definitions.empty.insert "Hound" hound).insert "Animal"
    { allOf := some [requiring "name", { reference := some "Hound" }] }
  options := {}

/-- The name of an animal and the bark of a hound have rows, flagged as required. -/
theorem declared_has_row_hound :
    ∃ rows, (Resolver.definitionRows ⟨hounds.definitions, .sameDocument⟩ hounds {}
        "Hound").result = some (some rows) ∧
      ∀ key ∈ ["name", "bark"], key ∈ requiredNames rows.value := by
  have get : hounds.definitions.get? "Hound" = some hound := rfl
  obtain ⟨-, -, hrows⟩ :=
    declared_has_row (r := ⟨hounds.definitions, .sameDocument⟩) get rfl
  obtain ⟨finished, hrows⟩ := hrows hounds {}
  have hproperties : (Resolver.resolveReference ⟨hounds.definitions, .sameDocument⟩
      "Hound").value.properties = [("name", textSchema), ("bark", textSchema)] := by cbv
  have hsample : (hounds.schemaExample textSchema).result.isSome := rfl
  obtain ⟨found, hfound⟩ :=
    Option.isSome_iff_exists.1 (finished.2 (by simp [hproperties, hsample]))
  obtain ⟨rows, rfl, hkeys⟩ := hrows found hfound
  have hname : Relation.ReflTransGen hounds.definitions.ExtendsApart hound (requiring "name") :=
    .head ⟨{ reference := some "Animal" }, .head _, .inl rfl, rfl⟩
      (.single ⟨requiring "name", .head _, .inl rfl, rfl⟩)
  have hbark : Relation.ReflTransGen hounds.definitions.ExtendsApart hound (requiring "bark") :=
    .head ⟨{ allOf := some [requiring "bark"] }, .tail _ (.head _), .inr rfl, rfl⟩
      (.single ⟨requiring "bark", .head _, .inl rfl, rfl⟩)
  have hrequired :
      hounds.definitions.requiredProperties hound = ["legs", "name", "bark"] := by cbv
  refine ⟨rows, hfound, ?_⟩
  simp only [List.forall_mem_cons, List.not_mem_nil, IsEmpty.forall_iff, implies_true, and_true]
  constructor
  · refine (hkeys _ "name" hname ⟨_, _, rfl, .head _⟩).2.2 ?_
    simp [hrequired]
  · refine (hkeys _ "bark" hbark ⟨_, _, rfl, .head _⟩).2.2 ?_
    simp [hrequired]

/-- The legs of a hound, written beside its branches, are required and have no row. -/
theorem hound_legs_without_row :
    hounds.definitions.get? "Hound" = some hound ∧ hound.allOf.isSome ∧
    (∃ properties, hound.properties = some properties ∧ "legs" ∈ Entries.keys properties) ∧
    "legs" ∈ hounds.definitions.requiredProperties hound ∧
    "legs" ∉ (Resolver.resolveReference ⟨hounds.definitions, .sameDocument⟩
      "Hound").value.propertyNames ∧
    ∃ rows, (Resolver.definitionRows ⟨hounds.definitions, .sameDocument⟩ hounds {}
        "Hound").result = some (some rows) ∧ "legs" ∉ rowNames rows.value := by
  have hrequired :
      hounds.definitions.requiredProperties hound = ["legs", "name", "bark"] := by cbv
  have hnames : (Resolver.resolveReference ⟨hounds.definitions, .sameDocument⟩
      "Hound").value.propertyNames = ["name", "bark"] := by cbv
  have hrows : ((Resolver.definitionRows ⟨hounds.definitions, .sameDocument⟩ hounds {}
      "Hound").result.bind id).map (fun rows => rowNames rows.value) =
        some ["name", "bark"] := by cbv
  obtain ⟨rows, hrows, hrowNames⟩ := Option.map_eq_some_iff.1 hrows
  rw [Option.bind_eq_some_iff] at hrows
  obtain ⟨_, hrows, rfl⟩ := hrows
  refine ⟨rfl, rfl, ⟨_, rfl, .head _⟩, ?_, ?_, rows, hrows, ?_⟩
  · simp [hrequired]
  · simp [hnames]
  · simp [hrowNames]

end Resolver

end OpenApiDoc
