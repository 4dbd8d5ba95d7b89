import OpenApiDoc.Proofs.Example.Form
import OpenApiDoc.Proofs.Example.RequestPath

/-!
# Authored examples of parameters

An example of a parameter may be authored on the parameter, on its schema or on the definition
that the schema references. The value of a parameter is taken from the first of these places that
is looked at. Some are not: the examples with names of the parameter, what stands on the schema
of an array with items, and the definition that a composition references as well. What stands
there makes no difference; anywhere else the authored example is the one that is placed.
-/

namespace OpenApiDoc.Example

/-- The value of a vendor extension that is no text. -/
def plainExtension (p : Parameter) : Option Json :=
  (p.extension "x-example").filter fun value => value.str?.isNone

namespace Generator

/-- The example that is authored for a parameter with a schema: the one on the parameter, else
the first of those with names, else the one of its extension, else the one of the schema or of
the definition that the schema references. -/
def authoredFor (g : Generator) (p : Parameter) (s : Schema) : Option Json :=
  p.authored <|> p.namedExamples.map firstNamed <|> plainExtension p <|> g.authoredExample s

/-- Something is authored for a parameter where it is not looked for, or after a text that is
looked at first. -/
inductive Overlooked (p : Parameter) (s : Schema) : Prop where
  | named (named : p.namedExamples.isSome)
  | text (text : String) (extension : p.extension "x-example" = some (.str text))
  | items (extension : p.extension "x-example" = none) (isArray : s.isArray = true)
      (items : s.items.isSome)
  | composition (extension : p.extension "x-example" = none) (authored : s.authored = none)
      (allOf : s.allOf.isSome)

variable {g : Generator} {p : Parameter} {s : Schema} {value : Json}

/-! ### The value of a parameter -/

lemma parameterValue_of_authored (authored : p.authored = some value) :
    g.parameterValue p s = pure value := by
  simp only [parameterValue, authored]

lemma parameterValue_of_plainExtension (authored : p.authored = none)
    (extension : p.extension "x-example" = some value) (plain : value.str? = none) :
    g.parameterValue p s = pure value := by
  have h : extensionExample p s = pure (some value) := by
    cases value with
    | str text => cases plain
    | _ => simp only [extensionExample, extension]
  simp only [parameterValue, authored, h]
  rfl

lemma result_parameterValue_of_text {text : String} (authored : p.authored = none)
    (extension : p.extension "x-example" = some (.str text)) :
    (g.parameterValue p s).result = some (convert text s.kind).value := by
  simp [parameterValue, authored, extensionExample, extension]

lemma result_parameterValue_of_none (authored : p.authored = none)
    (extension : p.extension "x-example" = none) :
    (g.parameterValue p s).result = (g.generatedValue s).result := by
  simp [parameterValue, authored, extensionExample, extension]

lemma generatedValue_of_items {item : Schema} (isArray : s.isArray = true)
    (items : s.items = some item) :
    g.generatedValue s =
      match g.authoredExample item with
      | some value => pure value
      | none => g.generate item := by
  cases authored : g.authoredExample item <;>
    simp only [generatedValue, isArray, items, authored]

lemma generatedValue_eq_generate (h : s.isArray = true → s.items = none) :
    g.generatedValue s = g.generate s := by
  rw [generatedValue]
  split
  · next item isArray items => simp [h isArray] at items
  · rfl

/-- What is authored on a schema, or on the definition that it references unless it composes, is
its example. -/
lemma generate_of_authoredExample (authored : g.authoredExample s = some value)
    (h : s.authored = none → s.allOf = none) : g.generate s = pure value := by
  obtain ⟨depth, hdepth⟩ := g.exists_depth s.count
  rw [generate, hdepth, exampleWithin]
  rw [authoredExample] at authored
  cases hauthored : s.authored with
  | some own =>
    rw [hauthored] at authored
    rw [step_of_authored hauthored, Option.some.inj authored]
  | none =>
    simp only [hauthored, Option.bind_eq_some_iff] at authored
    obtain ⟨target, ⟨reference, refers, get⟩, htarget⟩ := authored
    rw [step_of_follows ⟨hauthored, h hauthored, refers⟩,
      referenceExample_of_authored get htarget]

/-- An authored example that is not overlooked is the value of the parameter. -/
theorem result_parameterValue_of_authoredFor (authored : g.authoredFor p s = some value)
    (seen : p.authored.isSome ∨ ¬ Overlooked p s) :
    (g.parameterValue p s).result = some value := by
  cases hauthored : p.authored with
  | some own =>
    obtain rfl : own = value := by simpa [authoredFor, hauthored] using authored
    rw [parameterValue_of_authored hauthored, Draft.result_pure]
  | none =>
    have seen : ¬ Overlooked p s := by simpa [hauthored] using seen
    have unnamed : p.namedExamples = none := by
      by_contra h
      exact seen (.named (Option.isSome_iff_ne_none.2 h))
    cases hextension : p.extension "x-example" with
    | some given =>
      have plain : given.str? = none := by
        cases given with
        | str text => exact absurd (.text text hextension) seen
        | _ => rfl
      obtain ⟨rfl, -⟩ : given = value ∧ value.str? = none := by
        simpa [authoredFor, hauthored, unnamed, plainExtension, hextension, plain] using authored
      rw [parameterValue_of_plainExtension hauthored hextension plain, Draft.result_pure]
    | none =>
      have hschema : g.authoredExample s = some value := by
        simpa [authoredFor, hauthored, unnamed, plainExtension, hextension] using authored
      have hitems : s.isArray = true → s.items = none := by
        intro isArray
        by_contra h
        exact seen (.items hextension isArray (Option.isSome_iff_ne_none.2 h))
      have hallOf : s.authored = none → s.allOf = none := by
        intro hown
        by_contra h
        exact seen (.composition hextension hown (Option.isSome_iff_ne_none.2 h))
      rw [result_parameterValue_of_none hauthored hextension, generatedValue_eq_generate hitems,
        generate_of_authoredExample hschema hallOf, Draft.result_pure]

/-! ### What is overlooked -/

/-- Only the kind of the schema and the value that it generates matter, and the
examples with names do not. -/
lemma addParameter_exchange {s' : Schema} (generates : g.options.generates = true)
    (notBody : p.location ≠ .body) (reference : p.reference = none) (schema : p.schema = some s)
    (kind : s'.kind = s.kind) (generated : g.generatedValue s' = g.generatedValue s)
    (examples : List (String × Json)) (namedExamples : Option Json) :
    g.addParameter examples { p with namedExamples, schema := some s' } =
      g.addParameter examples p := by
  have hvalue : g.parameterValue { p with namedExamples, schema := some s' } s' =
      g.parameterValue p s := by
    simp only [parameterValue, extensionExample, Parameter.extension, kind, generated]
  have hplace : ∀ value, g.place { p with namedExamples, schema := some s' } s' value examples =
      g.place p s value examples := by
    intro value
    rw [place, place, kind]
    rfl
  rw [addParameter_of_schema generates notBody reference schema,
    addParameter_of_schema (p := { p with namedExamples, schema := some s' }) generates notBody
      reference rfl, hvalue, funext hplace]

/-- For an array with items nothing counts but the items. -/
lemma generatedValue_withAuthored (isArray : s.isArray = true) (items : s.items.isSome)
    (authored : Option Json) (reference : Option String) :
    g.generatedValue { s with authored, reference } = g.generatedValue s := by
  obtain ⟨item, items⟩ := Option.isSome_iff_exists.1 items
  rw [generatedValue_of_items isArray items]
  exact generatedValue_of_items (s := { s with authored, reference }) isArray items

/-- A composition does not look at its reference. -/
lemma generate_withReference {branches : List Schema} (authored : s.authored = none)
    (allOf : s.allOf = some branches) (reference : Option String) :
    g.generate { s with reference } = g.generate s := by
  have hmodel : Schema.model g.definitions { s with reference } = s.model g.definitions := by
    rw [Schema.model_of_composed allOf]
    exact Schema.model_of_composed (s := { s with reference }) allOf
  have hresolved : g.resolver.resolveSchema { s with reference } = g.resolver.resolveSchema s :=
    congrArg g.resolver.resolve hmodel
  have hcount : Schema.count { s with reference } = s.count := by
    rw [Schema.count_eq, Schema.count_eq]
    rfl
  obtain ⟨depth, hdepth⟩ := g.exists_depth s.count
  rw [generate, generate, hcount, hdepth, exampleWithin, step_of_composed authored allOf,
    step_of_composed (s := { s with reference }) authored allOf, mergedProperties,
    mergedProperties, hresolved]
  rfl

lemma generatedValue_withReference (authored : s.authored = none) (allOf : s.allOf.isSome)
    (reference : Option String) :
    g.generatedValue { s with reference } = g.generatedValue s := by
  by_cases hitems : s.isArray = true ∧ s.items.isSome
  · exact generatedValue_withAuthored hitems.1 hitems.2 s.authored reference
  · have hitems : s.isArray = true → s.items = none := by simpa using hitems
    obtain ⟨branches, allOf⟩ := Option.isSome_iff_exists.1 allOf
    rw [generatedValue_eq_generate hitems, ← generate_withReference authored allOf reference]
    exact generatedValue_eq_generate (s := { s with reference }) hitems

/-! ### Parameters in a request -/

/-- An authored example that is not overlooked is placed in the request, whatever stands in the
request before. What is authored where it is overlooked makes no difference: the examples with
names, what stands on an array with items or is referenced by it, and the reference of a
composition; and what stands on the schema makes none after a text of the extension. -/
theorem authored_placed (generates : g.options.generates = true) (notBody : p.location ≠ .body)
    (reference : p.reference = none) (schema : p.schema = some s)
    (examples : List (String × Json)) :
    (∀ value, g.authoredFor p s = some value → p.authored.isSome ∨ ¬ Overlooked p s →
      (g.addParameter examples p).result = some (g.place p s value examples)) ∧
    (∀ namedExamples,
      (g.addParameter examples { p with namedExamples }).result =
        (g.addParameter examples p).result) ∧
    (∀ text, p.authored = none → p.extension "x-example" = some (.str text) →
      (g.addParameter examples p).result =
        some (g.place p s (convert text s.kind).value examples)) ∧
    (s.isArray = true → s.items.isSome → ∀ authored reference,
      (g.addParameter examples { p with schema := some { s with authored, reference } }).result =
        (g.addParameter examples p).result) ∧
    (s.authored = none → s.allOf.isSome → ∀ reference,
      (g.addParameter examples { p with schema := some { s with reference } }).result =
        (g.addParameter examples p).result) := by
  have hadd : (g.addParameter examples p).result =
      (g.parameterValue p s).result.map fun value => g.place p s value examples := by
    rw [addParameter_of_schema generates notBody reference schema, Draft.result_map]
  refine ⟨?wins, ?named, ?text, ?items, ?composition⟩
  case wins =>
    intro value authored seen
    rw [hadd, result_parameterValue_of_authoredFor authored seen, Option.map_some]
  case named =>
    intro namedExamples
    have h := addParameter_exchange generates notBody reference schema rfl rfl examples
      namedExamples
    rw [← schema] at h
    rw [h]
  case text =>
    intro text authored extension
    rw [hadd, result_parameterValue_of_text authored extension, Option.map_some]
  case items =>
    intro isArray items authored reference'
    exact congrArg Draft.result (addParameter_exchange generates notBody reference schema
      (by rfl) (generatedValue_withAuthored isArray items authored reference') examples
      p.namedExamples)
  case composition =>
    intro authored allOf reference'
    exact congrArg Draft.result (addParameter_exchange generates notBody reference schema
      (by rfl) (generatedValue_withReference authored allOf reference') examples p.namedExamples)

/-- A generator with a definition that has an example. -/
def catHouse : Generator where
  definitions := Definitions.empty.insert "Cat" { authored := some (.str "Tom & Tim") }
  options := { generates := true }

/-- A query parameter of the schema that is a reference to the definition. -/
def catQuery : Parameter :=
  { name := "cat", required := true, schema := some { reference := some "Cat" } }

theorem authored_placed_catQuery :
    catHouse.authoredFor catQuery { reference := some "Cat" } = some (.str "Tom & Tim") ∧
    ¬ Overlooked catQuery { reference := some "Cat" } ∧
    (catHouse.addParameter [("path", .str "/cats")] catQuery).result =
      some [("path", .str "/cats?cat=Tom+%26+Tim")] := by
  have authored : catHouse.authoredFor catQuery { reference := some "Cat" } =
      some (.str "Tom & Tim") := by cbv
  have seen : ¬ Overlooked catQuery { reference := some "Cat" } := by
    rintro (h | ⟨text, h⟩ | ⟨-, h, -⟩ | ⟨-, -, h⟩) <;> cases h
  obtain ⟨wins, -⟩ := authored_placed (g := catHouse) (p := catQuery) rfl (by decide) rfl rfl
    [("path", .str "/cats")]
  refine ⟨authored, seen, ?_⟩
  rw [wins _ authored (.inr seen)]
  rfl

/-- A query parameter with an example under a name. -/
def namedQuery : Parameter :=
  { name := "q", required := true, schema := some { type := some (.single "string") }
    namedExamples := some (.obj [("first", .obj [("value", .str "cat")])]) }

/-- The schema of an array with an example and items. -/
def tagList : Schema :=
  { type := some (.single "array"), items := some { type := some (.single "string") }
    authored := some (.arr [.str "new"]) }

/-- A query parameter of this schema. -/
def tagQuery : Parameter := { name := "tags", required := true, schema := some tagList }

/-- Neither the example with a name nor the one of the array is placed. -/
theorem authored_not_placed :
    catHouse.authoredFor namedQuery { type := some (.single "string") } = some (.str "cat") ∧
    (catHouse.addParameter [("path", .str "/p")] namedQuery).result =
      some [("path", .str "/p?q=string")] ∧
    (catHouse.addParameter [("path", .str "/p")] namedQuery).result ≠
      some [("path", .str "/p?q=cat")] ∧
    catHouse.authoredFor tagQuery tagList = some (.arr [.str "new"]) ∧
    (catHouse.addParameter [("path", .str "/p")] tagQuery).result =
      some [("path", .str "/p?tags=string")] ∧
    (catHouse.addParameter [("path", .str "/p")] tagQuery).result ≠
      some [("path", .str "/p?tags=%5B%22new%22%5D")] := by
  have hnamed : (catHouse.addParameter [("path", .str "/p")] namedQuery).result =
      some [("path", .str "/p?q=string")] := by rfl
  have htags : (catHouse.addParameter [("path", .str "/p")] tagQuery).result =
      some [("path", .str "/p?tags=string")] := by rfl
  refine ⟨by cbv, hnamed, ?_, by cbv, htags, ?_⟩
  · rw [hnamed]
    simp
  · rw [htags]
    simp

end Generator

end OpenApiDoc.Example
