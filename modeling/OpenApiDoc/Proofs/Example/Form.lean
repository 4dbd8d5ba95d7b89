import OpenApiDoc.Proofs.Example.Draft
import OpenApiDoc.Proofs.Schema.Shape

/-!
# Forms of examples

What the generator does with a schema is one of twelve things, and `Generator.Form` is the case
distinction between them. For each form a lemma `step_of_*` says what the example is.
-/

namespace OpenApiDoc.Example.Generator

variable {g : Generator} {recur recur' : Recur} {visits : Visits} {s : Schema}

lemma exists_depth (g : Generator) (schemas : Nat) : ∃ depth, g.depth schemas = depth + 1 :=
  Nat.exists_eq_add_one.2 (Nat.mul_pos (Nat.succ_pos _) (Nat.succ_pos _))

/-! ### Objects -/

/-- The properties that take part in an object example. -/
def shown (g : Generator) (required : List String) (properties : List (String × Schema)) :
    List (String × Schema) :=
  properties.filter fun p => g.shows required p.1

lemma mem_shown {required : List String} {properties : List (String × Schema)}
    {p : String × Schema} :
    p ∈ g.shown required properties ↔ p ∈ properties ∧ g.shows required p.1 = true :=
  List.mem_filter

lemma objectExample_eq (g : Generator) (recur : Recur) (visits : Visits) (required : List String)
    (properties : List (String × Schema)) :
    g.objectExample recur visits required properties =
      Json.obj <$> (g.shown required properties).mapM fun p =>
        Prod.mk p.1 <$> recur visits p.2 := by
  simp only [objectExample, map_eq_pure_bind]
  rfl

lemma objectExample_congr {g₁ g₂ : Generator} {visits₁ visits₂ : Visits}
    (options : g₁.options = g₂.options) {required : List String}
    {properties : List (String × Schema)}
    (h : ∀ p ∈ g₁.shown required properties, recur visits₁ p.2 = recur' visits₂ p.2) :
    g₁.objectExample recur visits₁ required properties =
      g₂.objectExample recur' visits₂ required properties := by
  have hshown : g₁.shown required properties = g₂.shown required properties := by
    simp only [shown, shows, options]
  rw [objectExample_eq, objectExample_eq, ← hshown]
  congr 1
  exact Draft.mapM_congr fun p hp => by rw [h p hp]

lemma isSome_objectExample {required : List String} {properties : List (String × Schema)} :
    (g.objectExample recur visits required properties).result.isSome ↔
      ∀ p ∈ g.shown required properties, (recur visits p.2).result.isSome := by
  rw [objectExample_eq, Draft.result_map, Option.isSome_map, Draft.isSome_mapM]
  simp

lemma objectExample_done {required : List String} {properties : List (String × Schema)}
    {value : String × Schema → Json} {notices : String × Schema → List Notice}
    (h : ∀ p ∈ g.shown required properties, recur visits p.2 = .done (value p) (notices p)) :
    g.objectExample recur visits required properties =
      .done (.obj ((g.shown required properties).map fun p => (p.1, value p)))
        ((g.shown required properties).flatMap notices) := by
  have hentries : ∀ p ∈ g.shown required properties,
      Prod.mk p.1 <$> recur visits p.2 = .done (p.1, value p) (notices p) := fun p hp => by
    rw [h p hp, Draft.map_done]
  rw [objectExample_eq, Draft.mapM_done hentries, Draft.map_done]

/-! ### Forms -/

/-- The properties of the merged object of a composition. -/
def mergedProperties (g : Generator) (s : Schema) : List (String × Schema) :=
  ((g.resolver.resolveSchema s).value.object?.map ObjectType.properties).getD []

/-- The first of the enumerated values. -/
def firstValue (s : Schema) : Option Json := s.enum.bind List.head?

/-- No example, composition or reference stands on the schema. -/
structure Bare (s : Schema) : Prop where
  generated : s.authored = none
  allOf : s.allOf = none
  refers : s.reference = none

/-- The example of the schema is that of the definition that it references. -/
structure Follows (s : Schema) (reference : String) : Prop where
  generated : s.authored = none
  allOf : s.allOf = none
  refers : s.reference = some reference

/-- What the generator does with a schema that is reached after some visits. -/
inductive Form (g : Generator) (visits : Visits) (s : Schema) : Prop where
  | authored (value : Json) (authored : s.authored = some value)
  | composed (branches : List Schema) (generated : s.authored = none)
      (allOf : s.allOf = some branches)
  | dangling (reference : String) (follows : Follows s reference)
      (get : g.definitions.get? (g.definitions.referenceName reference) = none)
  | exemplified (reference : String) (target : Schema) (value : Json)
      (follows : Follows s reference)
      (get : g.definitions.get? (g.definitions.referenceName reference) = some target)
      (authored : target.authored = some value)
  | refused (reference : String) (target : Schema) (follows : Follows s reference)
      (get : g.definitions.get? (g.definitions.referenceName reference) = some target)
      (generated : target.authored = none)
      (enter : visits.enter (g.definitions.referenceName reference) g.options.limit = none)
  | entered (reference : String) (target : Schema) (inner : Visits)
      (follows : Follows s reference)
      (get : g.definitions.get? (g.definitions.referenceName reference) = some target)
      (generated : target.authored = none)
      (enter : visits.enter (g.definitions.referenceName reference) g.options.limit = some inner)
  | itemless (bare : Bare s) (isArray : s.isArray = true) (items : s.items = none)
  | array (item : Schema) (bare : Bare s) (isArray : s.isArray = true)
      (items : s.items = some item)
  | map (value : Schema) (bare : Bare s) (isArray : s.isArray = false)
      (properties : s.properties = none) (values : s.valueSchema = some value)
  | enumerated (value : Json) (bare : Bare s) (isArray : s.isArray = false)
      (noMap : s.properties = none → s.valueSchema = none) (first : firstValue s = some value)
  | object (properties : List (String × Schema)) (bare : Bare s) (isArray : s.isArray = false)
      (first : firstValue s = none) (hproperties : s.properties = some properties)
  | plain (bare : Bare s) (isArray : s.isArray = false) (first : firstValue s = none)
      (properties : s.properties = none) (values : s.valueSchema = none)

theorem form (g : Generator) (visits : Visits) (s : Schema) : g.Form visits s := by
  rcases generated : s.authored with _ | value
  · cases s.shape with
    | composed branches allOf => exact .composed branches generated allOf
    | reference reference allOf refers =>
      have follows : Follows s reference := ⟨generated, allOf, refers⟩
      rcases get : g.definitions.get? (g.definitions.referenceName reference) with _ | target
      · exact .dangling reference follows get
      · rcases hgenerated : target.authored with _ | value
        · rcases enter : visits.enter (g.definitions.referenceName reference) g.options.limit
            with _ | inner
          · exact .refused reference target follows get hgenerated enter
          · exact .entered reference target inner follows get hgenerated enter
        · exact .exemplified reference target value follows get hgenerated
    | array allOf refers isArray =>
      rcases items : s.items with _ | item
      · exact .itemless ⟨generated, allOf, refers⟩ isArray items
      · exact .array item ⟨generated, allOf, refers⟩ isArray items
    | map value allOf refers isArray properties values =>
      exact .map value ⟨generated, allOf, refers⟩ isArray properties values
    | leaf allOf refers isArray noMap =>
      have bare : Bare s := ⟨generated, allOf, refers⟩
      rcases first : firstValue s with _ | value
      · rcases hproperties : s.properties with _ | properties
        · exact .plain bare isArray first hproperties (noMap hproperties)
        · exact .object properties bare isArray first hproperties
      · exact .enumerated value bare isArray noMap first
  · exact .authored value generated

/-! ### The example of a definition -/

lemma referenceExample_of_missing {name : String} (get : g.definitions.get? name = none) :
    g.referenceExample recur visits name = .done (.str name) [.danglingExample name] := by
  simp only [referenceExample, get]
  exact Draft.say_bind _ _ rfl

lemma referenceExample_of_authored {name : String} {target : Schema} {value : Json}
    (get : g.definitions.get? name = some target) (authored : target.authored = some value) :
    g.referenceExample recur visits name = pure value := by
  simp only [referenceExample, get, authored]

lemma referenceExample_of_refused {name : String} {target : Schema}
    (get : g.definitions.get? name = some target) (generated : target.authored = none)
    (enter : visits.enter name g.options.limit = none) :
    g.referenceExample recur visits name = .done sentinel [.exampleBounded name] := by
  simp only [referenceExample, get, generated, enter]
  exact Draft.say_bind _ _ rfl

lemma referenceExample_of_entered {name : String} {target : Schema} {inner : Visits}
    (get : g.definitions.get? name = some target) (generated : target.authored = none)
    (enter : visits.enter name g.options.limit = some inner) :
    g.referenceExample recur visits name = recur inner target := by
  simp only [referenceExample, get, generated, enter]

/-! ### The example of each form -/

lemma step_of_authored {value : Json} (authored : s.authored = some value) :
    g.step recur visits s = pure value := by
  simp only [step, authored]

lemma step_of_composed {branches : List Schema} (generated : s.authored = none)
    (allOf : s.allOf = some branches) :
    g.step recur visits s =
      (Draft.done () (g.resolver.resolveSchema s).notices >>= fun _ =>
        g.objectExample recur visits (g.definitions.requiredProperties s)
          (g.mergedProperties s)) := by
  simp only [step, generated, allOf, Option.isSome_some, if_true, composedExample]
  exact Draft.ofNoted_bind _ _

lemma step_of_follows {reference : String} (follows : Follows s reference) :
    g.step recur visits s =
      g.referenceExample recur visits (g.definitions.referenceName reference) := by
  simp [step, follows.generated, follows.allOf, follows.refers]

lemma step_of_itemless (bare : Bare s) (isArray : s.isArray = true) (items : s.items = none) :
    g.step recur visits s = pure (.arr [.obj []]) := by
  simp [step, bare.generated, bare.allOf, bare.refers, isArray, items]

lemma step_of_array {item : Schema} (bare : Bare s) (isArray : s.isArray = true)
    (items : s.items = some item) :
    g.step recur visits s = (fun value => .arr [value]) <$> recur visits item := by
  simp [step, bare.generated, bare.allOf, bare.refers, isArray, items]

lemma step_of_map {value : Schema} (bare : Bare s) (isArray : s.isArray = false)
    (properties : s.properties = none) (values : s.valueSchema = some value) :
    g.step recur visits s = mapWith <$> recur visits value := by
  simp [step, bare.generated, bare.allOf, bare.refers, isArray, properties, values]

lemma step_of_leaf (bare : Bare s) (isArray : s.isArray = false)
    (noMap : s.properties = none → s.valueSchema = none) :
    g.step recur visits s = g.leafExample recur visits s := by
  rcases hproperties : s.properties with _ | properties
  · simp [step, bare.generated, bare.allOf, bare.refers, isArray, hproperties, noMap hproperties]
  · simp [step, bare.generated, bare.allOf, bare.refers, isArray, hproperties]

lemma step_of_enumerated {value : Json} (bare : Bare s) (isArray : s.isArray = false)
    (noMap : s.properties = none → s.valueSchema = none) (first : firstValue s = some value) :
    g.step recur visits s = pure value := by
  rw [step_of_leaf bare isArray noMap]
  rcases henum : s.enum with _ | (_ | ⟨first', rest⟩)
  · simp [firstValue, henum] at first
  · simp [firstValue, henum] at first
  · obtain rfl : first' = value := by simpa [firstValue, henum] using first
    simp only [leafExample, henum]

lemma step_of_object {properties : List (String × Schema)} (bare : Bare s)
    (isArray : s.isArray = false) (first : firstValue s = none)
    (hproperties : s.properties = some properties) :
    g.step recur visits s = g.objectExample recur visits s.required properties := by
  rw [step_of_leaf bare isArray (by simp [hproperties])]
  rcases henum : s.enum with _ | (_ | ⟨first', rest⟩)
  · simp only [leafExample, henum, hproperties]
  · simp only [leafExample, henum, hproperties]
  · simp [firstValue, henum] at first

lemma step_of_plain (bare : Bare s) (isArray : s.isArray = false) (first : firstValue s = none)
    (properties : s.properties = none) (values : s.valueSchema = none) :
    g.step recur visits s = pure (s.default.getD (primitive s.kind s.format)) := by
  rw [step_of_leaf bare isArray fun _ => values]
  rcases henum : s.enum with _ | (_ | ⟨first', rest⟩)
  · rcases hdefault : s.default with _ | value <;>
      simp [leafExample, henum, properties, hdefault]
  · rcases hdefault : s.default with _ | value <;>
      simp [leafExample, henum, properties, hdefault]
  · simp [firstValue, henum] at first

end OpenApiDoc.Example.Generator
