import OpenApiDoc.Example.Request
import OpenApiDoc.Proofs.Entries
import OpenApiDoc.Proofs.Example.RowExamples
import OpenApiDoc.Proofs.Example.Spine

/-!
# Where examples are asked for

The example of a schema is asked for by itself, for a response and for a body, and each of these
looks for authored examples and follows a reference in its own way before anything is generated.
They give the same example of a schema that is no composition and reference at once. Of one that
is both, the generator makes the composition, but the responses and bodies follow the reference.
-/

namespace OpenApiDoc

/-- Only a schema says what the example of a response is: it is that of the first media type, and
nothing is authored beside it. -/
def Response.LeftTo (r : Response) (s : Schema) : Prop :=
  ∃ media, firstMedia r.content = some media ∧ media.authored = none ∧ media.schema = some s

/-- Only a schema says what the example of a body is. -/
structure Parameter.LeftTo (p : Parameter) (s : Schema) : Prop where
  schema : p.schema = some s
  authored : p.authored = none
  named : p.namedExamples = none
  extension : p.extension "x-examples" = none
  schemaExtension : s.extension "x-examples" = none

namespace Example.Generator

variable {g : Generator} {s : Schema} {r : Response} {p : Parameter}

/-! ### Definitions and references to them -/

/-- The generated example of a reference is that of the definition. -/
lemma result_generate_of_follows {reference : String} (follows : Follows s reference) :
    (g.generate s).result = (g.referenceExample (g.exampleWithin (g.depth 0)) {}
      (g.definitions.referenceName reference)).result := by
  have hstep : ∀ depth, g.exampleWithin (depth + 1) {} s =
      g.referenceExample (g.exampleWithin depth) {} (g.definitions.referenceName reference) :=
    fun depth => step_of_follows follows
  by_cases finished : (g.referenceExample (g.exampleWithin (g.depth 0)) {}
      (g.definitions.referenceName reference)).result.isSome
  · rw [← hstep] at finished ⊢
    rw [generate_eq finished]
  · obtain ⟨depth, hdepth⟩ : ∃ depth, g.depth s.count = depth + 1 :=
      Nat.exists_eq_add_one.2 (Nat.mul_pos (Nat.succ_pos _) (Nat.succ_pos _))
    have hgenerate : ¬ (g.generate s).result.isSome := by
      rw [generate, hdepth, hstep]
      intro h
      rw [referenceExample_eq h] at finished
      exact finished h
    rw [Option.not_isSome_iff_eq_none.1 finished, Option.not_isSome_iff_eq_none.1 hgenerate]

/-- The authored example of a reference is that of the definition. -/
lemma authoredExample_of_reference {reference : String} {target : Schema}
    (authored : s.authored = none) (refers : s.reference = some reference)
    (get : g.definitions.get? (g.definitions.referenceName reference) = some target) :
    g.authoredExample s = target.authored := by
  simp [authoredExample, authored, refers, Definitions.lookup?, get]

/-- A schema that is only a reference has the example of the definition. -/
lemma result_schemaExample_of_follows {reference : String} {target : Schema}
    (follows : Follows s reference)
    (get : g.definitions.get? (g.definitions.referenceName reference) = some target) :
    (g.schemaExample s).result =
      (g.definitionExample (g.definitions.referenceName reference)).result := by
  have hauthored := authoredExample_of_reference follows.generated follows.refers get
  simp only [schemaExample, definitionExample, hauthored, get]
  cases target.authored with
  | some value => rfl
  | none =>
    cases g.options.generates with
    | false => rfl
    | true => simp [result_generate_of_follows follows]

/-! ### Responses and bodies -/

lemma responseExample_of_authored {value : Json} (left : r.LeftTo s)
    (authored : s.authored = some value) : g.responseExample r = pure (some value) := by
  obtain ⟨media, first, plain, schema⟩ := left
  simp only [responseExample, first, plain, schema, authored]

lemma responseExample_of_unauthored (left : r.LeftTo s) (authored : s.authored = none) :
    g.responseExample r = g.referencedExample s := by
  obtain ⟨media, first, plain, schema⟩ := left
  simp only [responseExample, first, plain, schema, authored]

/-- A body has the example of a response with the same schema. -/
lemma bodyExample_eq_responseExample (left : r.LeftTo s) (left' : p.LeftTo s) :
    g.bodyExample p = g.responseExample r := by
  have hbody : authoredBody p = s.authored := by
    simp [authoredBody, left'.schema, left'.authored, left'.named, left'.extension,
      left'.schemaExtension]
  rw [bodyExample, hbody]
  cases authored : s.authored with
  | some value => rw [responseExample_of_authored left authored]
  | none => simp only [left'.schema, responseExample_of_unauthored left authored]

lemma responseExample_of_reference {reference : String} (left : r.LeftTo s)
    (authored : s.authored = none) (refers : s.reference = some reference) :
    g.responseExample r = g.definitionExample (g.definitions.referenceName reference) := by
  rw [responseExample_of_unauthored left authored]
  simp only [referencedExample, refers]

/-- A schema has the example of a response with this schema, unless it is a composition and a
reference at once and the example is generated. -/
lemma result_schemaExample_eq_responseExample (left : r.LeftTo s)
    (present : ∀ reference, s.reference = some reference →
      (g.definitions.get? (g.definitions.referenceName reference)).isSome)
    (h : s.Apart ∨ (g.authoredExample s).isSome ∨ g.options.generates = false) :
    (g.schemaExample s).result = (g.responseExample r).result := by
  cases authored : s.authored with
  | some value =>
    simp [responseExample_of_authored left authored, schemaExample, authoredExample, authored]
  | none =>
    cases refers : s.reference with
    | none =>
      rw [responseExample_of_unauthored left authored]
      simp [schemaExample, authoredExample, referencedExample, authored, refers]
    | some reference =>
      rw [responseExample_of_reference left authored refers]
      obtain ⟨target, get⟩ := Option.isSome_iff_exists.1 (present reference refers)
      by_cases allOf : s.allOf = none
      · exact result_schemaExample_of_follows ⟨authored, allOf, refers⟩ get
      -- What is authored does not depend on the form of the schema, and else nothing
      -- is generated.
      have hauthored := authoredExample_of_reference authored refers get
      rw [hauthored] at h
      cases value : target.authored with
      | some value => simp [schemaExample, definitionExample, get, value, hauthored]
      | none =>
        have hgenerates : g.options.generates = false := by
          simpa [Schema.Apart, allOf, refers, value] using h
        simp [schemaExample, definitionExample, get, value, hgenerates, hauthored]

lemma result_schemaExample_of_authored (authored : s.authored.isSome) :
    (g.schemaExample s).result = (g.generate s).result.map some := by
  obtain ⟨value, authored⟩ := Option.isSome_iff_exists.1 authored
  obtain ⟨depth, hdepth⟩ := g.exists_depth s.count
  rw [generate, hdepth, exampleWithin, step_of_authored authored]
  simp [schemaExample, authoredExample, authored]

/-! ### What is reported for a response -/

/-- A response comes to a result: its example under its code, or nothing. -/
def Reports (g : Generator) (entry : String × Response)
    (result : Option (String × Json)) : Prop :=
  ∃ value, (g.responseExample entry.2).result = some value ∧ result = value.map (Prod.mk entry.1)

variable {responses : List (String × Response)} {results : List (Option (String × Json))}
  {code : String}

/-- Nothing but the example of a response keeps the examples of an operation from being made. -/
lemma isSome_responseExamples_iff (o : Operation) :
    (g.responseExamples o).result.isSome ↔
      ∀ entry ∈ o.responses, (g.responseExample entry.2).result.isSome := by
  simp [responseExamples, Draft.isSome_mapM]

/-- Every response of an operation comes to a result, and the examples among them
are reported. -/
lemma exists_reports {o : Operation} {examples : List (String × Json)}
    (h : (g.responseExamples o).result = some examples) :
    ∃ results, List.Forall₂ g.Reports o.responses results ∧ examples = results.filterMap id := by
  simp only [responseExamples, Draft.result_bind, Option.bind_eq_some_iff] at h
  obtain ⟨results, hresults, h⟩ := h
  refine ⟨results, (Draft.forall₂_of_mapM hresults).imp fun entry result hresult => ?_,
    (Option.some.inj h).symm⟩
  rw [Draft.result_bind, Option.bind_eq_some_iff] at hresult
  obtain ⟨value, hvalue, hresult⟩ := hresult
  exact ⟨value, hvalue, (Option.some.inj hresult).symm⟩

lemma mem_keys_of_reports (h : List.Forall₂ g.Reports responses results)
    (hcode : code ∈ Entries.keys (results.filterMap id)) : code ∈ Entries.keys responses := by
  induction h with
  | nil => cases hcode
  | cons hentry _ ih =>
    obtain ⟨value, -, rfl⟩ := hentry
    cases value with
    | none => exact List.mem_cons_of_mem _ (ih hcode)
    | some value =>
      rcases List.mem_cons.1 hcode with rfl | hcode
      · exact List.mem_cons_self
      · exact List.mem_cons_of_mem _ (ih hcode)

/-- Under the code of a response stands its example. -/
lemma get?_of_reports (h : List.Forall₂ g.Reports responses results)
    (distinct : (Entries.keys responses).Nodup) (hmem : (code, r) ∈ responses) :
    (g.responseExample r).result = some (Entries.get? code (results.filterMap id)) := by
  induction h with
  | nil => cases hmem
  | @cons entry _ rest _ hentry hrest ih =>
    obtain ⟨hnew, distinct⟩ := List.nodup_cons.1 distinct
    obtain ⟨value, hvalue, rfl⟩ := hentry
    rcases List.mem_cons.1 hmem with rfl | hmem
    · cases value with
      | some value => simp [hvalue, Entries.get?_cons]
      | none =>
        -- No other response has the code, so nothing is reported under it.
        have hnone := Entries.get?_eq_none.2 fun hcode => hnew (mem_keys_of_reports hrest hcode)
        exact hvalue.trans (congrArg some hnone.symm)
    · have hne : entry.1 ≠ code := by
        rintro rfl
        exact hnew (List.mem_map.2 ⟨_, hmem, rfl⟩)
      rw [ih distinct hmem]
      cases value <;> simp [Entries.get?_cons, hne]

/-! ### All of them -/

/-- The example of a response that is left to a schema is what the operation reports for it, once
all its responses have come to a result, and a body that is left to the schema has the same
example. By itself the schema has it too, and if examples are generated, it is the generated one:
unless the schema is a composition and a reference at once and nothing is authored. Responses and
bodies then have the example of the definition. -/
theorem entryPoints_agree (left : r.LeftTo s) (left' : p.LeftTo s)
    (present : ∀ reference, s.reference = some reference →
      (g.definitions.get? (g.definitions.referenceName reference)).isSome) :
    (g.bodyExample p).result = (g.responseExample r).result ∧
    (∀ o code, (Entries.keys o.responses).Nodup → (code, r) ∈ o.responses →
      ((g.responseExamples o).result.isSome ↔
        ∀ entry ∈ o.responses, (g.responseExample entry.2).result.isSome) ∧
      ∀ examples, (g.responseExamples o).result = some examples →
        (g.responseExample r).result = some (Entries.get? code examples)) ∧
    (s.Apart ∨ (g.authoredExample s).isSome ∨ g.options.generates = false →
      (g.schemaExample s).result = (g.responseExample r).result) ∧
    (g.options.generates = true → s.Apart ∨ s.authored.isSome →
      (g.schemaExample s).result = (g.generate s).result.map some) ∧
    ∀ reference, s.authored = none → s.reference = some reference →
      (g.responseExample r).result =
        (g.definitionExample (g.definitions.referenceName reference)).result := by
  refine ⟨?body, ?reported, ?schema, ?generated, ?definition⟩
  case body => rw [bodyExample_eq_responseExample left left']
  case reported =>
    intro o code distinct hmem
    refine ⟨isSome_responseExamples_iff o, ?_⟩
    intro examples h
    obtain ⟨results, hreports, rfl⟩ := exists_reports h
    exact get?_of_reports hreports distinct hmem
  case schema => exact result_schemaExample_eq_responseExample left present
  case generated =>
    intro generates h
    rcases h with apart | authored
    · rw [schemaExample_eq generates apart, Draft.result_map]
    · exact result_schemaExample_of_authored authored
  case definition =>
    intro reference authored refers
    rw [responseExample_of_reference left authored refers]

/-- A definition of an object with a text. -/
def petShop : Generator where
  definitions := Definitions.empty.insert "Pet"
    { properties := some [("id", { type := some (.single "string") })] }
  options := { generates := true }

/-- A reference to the definition. -/
def plainPet : Schema := { reference := some "Pet" }

/-- A composition of an object, which is a reference to the definition as well. -/
def sizedPet : Schema :=
  { reference := some "Pet"
    allOf := some [{ properties := some [("size", { type := some (.single "string") })] }] }

/-- A response of a schema. -/
def answering (s : Schema) : Response :=
  { content := [("application/json", { schema := some s })] }

/-- An operation with one response, which is of a schema. -/
def asking (s : Schema) : Operation :=
  { method := .get, path := "/pet", responses := [("200", answering s)] }

/-- A body of a schema. -/
def carrying (s : Schema) : Parameter :=
  { name := "Body", written := some .body, schema := some s }

lemma leftTo_answering (s : Schema) : (answering s).LeftTo s := ⟨_, rfl, rfl, rfl⟩

lemma leftTo_carrying (h : s.extension "x-examples" = none) : (carrying s).LeftTo s :=
  ⟨rfl, rfl, rfl, rfl, h⟩

theorem entryPoints_agree_pet :
    (petShop.schemaExample plainPet).result = some (some (.obj [("id", .str "string")])) ∧
    (petShop.bodyExample (carrying plainPet)).result =
      some (some (.obj [("id", .str "string")])) ∧
    ∃ examples, (petShop.responseExamples (asking plainPet)).result = some examples ∧
      Entries.get? "200" examples = some (.obj [("id", .str "string")]) := by
  have hvalue :
      (petShop.generate plainPet).result = some (.obj [("id", .str "string")]) := by cbv
  have hpresent :
      (petShop.definitions.get? (petShop.definitions.referenceName "Pet")).isSome := by
    decide
  have h := entryPoints_agree (g := petShop) (leftTo_answering plainPet) (leftTo_carrying rfl)
    (by
      rintro _ ⟨⟩
      exact hpresent)
  obtain ⟨hbody, hreported, hschema, hgenerated, -⟩ := h
  have apart : plainPet.Apart := .inl rfl
  have hexample := hgenerated rfl (.inl apart)
  rw [hvalue] at hexample
  have hresponse := (hschema (.inl apart)).symm.trans hexample
  obtain ⟨hends, hexamples⟩ := hreported (asking plainPet) "200" (List.nodup_singleton _)
    List.mem_cons_self
  obtain ⟨examples, hrun⟩ := Option.isSome_iff_exists.1 <| hends.2 <|
    List.forall_mem_singleton.2 (Option.isSome_of_eq_some hresponse)
  refine ⟨hexample, hbody.trans hresponse, examples, hrun, ?_⟩
  exact Option.some.inj ((hexamples examples hrun).symm.trans hresponse)

/-- By itself the composition has the example of its object, in a response that of the
definition. -/
theorem sizedPet_disagrees :
    (petShop.schemaExample sizedPet).result = some (some (.obj [("size", .str "string")])) ∧
    (petShop.generate sizedPet).result = some (.obj [("size", .str "string")]) ∧
    (petShop.responseExample (answering sizedPet)).result =
      some (some (.obj [("id", .str "string")])) ∧
    (petShop.schemaExample sizedPet).result ≠
      (petShop.responseExample (answering sizedPet)).result := by
  have hschema : (petShop.schemaExample sizedPet).result =
      some (some (.obj [("size", .str "string")])) := by cbv
  have hresponse : (petShop.responseExample (answering sizedPet)).result =
      some (some (.obj [("id", .str "string")])) := by cbv
  refine ⟨hschema, by cbv, hresponse, ?_⟩
  rw [hschema, hresponse]
  simp

end Example.Generator

end OpenApiDoc
