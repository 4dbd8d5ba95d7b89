import Mathlib.Logic.Relation
import OpenApiDoc.Proofs.Document.Preparation
import OpenApiDoc.Proofs.Document.Reading

/-!
# How far references are followed

The parts of an operation may reference reusable parts, and a reusable part may be a reference
itself. Loading follows each reference of an operation once. So what is still a reference in a
loaded operation, and designates a reusable part, is a reusable part itself; and a request body
is found unless it lies behind two references. Where no reusable part is such a reference,
nothing in a loaded operation is.
-/

namespace OpenApiDoc

/-! ### What a reference designates -/

/-- The part of a section that a reference designates. -/
def Reference.designated? {α : Type} (self : Option String) (sectionName : String)
    (entries : List (String × α)) (reference : Option String) : Option α :=
  reference.bind fun reference =>
    (componentName? self sectionName reference).bind fun name => Entries.get? name entries

namespace Reusables

variable {reusables : Reusables} {self : Option String}

/-- The parameter that a parameter references. -/
def nextParameter (reusables : Reusables) (self : Option String) (p : Parameter) :
    Option Parameter :=
  Reference.designated? self "parameters" reusables.parameters p.reference

/-- The request body that a request body references. -/
def nextRequestBody (reusables : Reusables) (self : Option String) (b : RequestBody) :
    Option RequestBody :=
  Reference.designated? self "requestBodies" reusables.requestBodies b.reference

/-- The response that a response references. -/
def nextResponse (reusables : Reusables) (self : Option String) (r : Response) :
    Option Response :=
  Reference.designated? self "responses" reusables.responses r.reference

/-- No reusable part references another one. -/
structure Direct (reusables : Reusables) (address : Option String) : Prop where
  parameters : ∀ name p, Entries.get? name reusables.parameters = some p →
    reusables.nextParameter address p = none
  requestBodies : ∀ name b, Entries.get? name reusables.requestBodies = some b →
    reusables.nextRequestBody address b = none
  responses : ∀ name r, Entries.get? name reusables.responses = some r →
    reusables.nextResponse address r = none

/-- Parts that are no references at all reference no other. -/
lemma direct_of_no_reference (address : Option String)
    (parameters : ∀ e ∈ reusables.parameters, e.2.reference = none)
    (requestBodies : ∀ e ∈ reusables.requestBodies, e.2.reference = none)
    (responses : ∀ e ∈ reusables.responses, e.2.reference = none) :
    reusables.Direct address where
  parameters name p get := by
    rw [nextParameter, parameters (name, p) (Entries.mem_of_get? get)]
    rfl
  requestBodies name b get := by
    rw [nextRequestBody, requestBodies (name, b) (Entries.mem_of_get? get)]
    rfl
  responses name r get := by
    rw [nextResponse, responses (name, r) (Entries.mem_of_get? get)]
    rfl

/-- A request body is behind another one, by any number of references, and is no such reference
itself. -/
def BodyBehind (reusables : Reusables) (self : Option String) (b b' : RequestBody) : Prop :=
  Relation.ReflTransGen (fun c c' => reusables.nextRequestBody self c = some c') b b' ∧
    reusables.nextRequestBody self b' = none

end Reusables

lemma Reference.exists_get?_of_designated? {α : Type} {self : Option String}
    {sectionName : String} {entries : List (String × α)} {reference : Option String} {found : α}
    (h : designated? self sectionName entries reference = some found) :
    ∃ name, Entries.get? name entries = some found := by
  simp only [designated?, Option.bind_eq_some_iff] at h
  obtain ⟨_, -, name, -, hfound⟩ := h
  exact ⟨name, hfound⟩

namespace Document

variable {reusables : Reusables} {self : Option String} {raw : RawOperation}

/-! ### One step -/

lemma value_followParameter (p : Parameter) :
    (followParameter reusables self p).value = (reusables.nextParameter self p).getD p := by
  rw [followParameter, Reusables.nextParameter, Reference.designated?]
  rcases p.reference with _ | reference
  · rfl
  · dsimp only [Option.bind_some]
    split <;> simp [*]

lemma value_followRequestBody (b : RequestBody) :
    (followRequestBody reusables self b).value = (reusables.nextRequestBody self b).getD b := by
  rw [followRequestBody, Reusables.nextRequestBody, Reference.designated?]
  rcases b.reference with _ | reference
  · rfl
  · dsimp only [Option.bind_some]
    split <;> simp [*]

lemma value_followResponse (code : String) (r : Response) :
    (followResponse reusables self code r).value = (reusables.nextResponse self r).getD r := by
  rw [followResponse, Reusables.nextResponse, Reference.designated?]
  rcases r.reference with _ | reference
  · rfl
  · dsimp only [Option.bind_some]
    split <;> simp [*]

/-- The parameter of a request body is that of the body that it references, if that has
content. -/
lemma value_bodyParameters (b : RequestBody) :
    (bodyParameters reusables self (some b)).value =
      if ((reusables.nextRequestBody self b).getD b).content.isEmpty then []
      else [((reusables.nextRequestBody self b).getD b).parameter] := by
  rw [bodyParameters, Noted.value_bind, value_followRequestBody]
  split <;> rfl

/-! ### Prepared operations -/

/-- The request body whose content makes the parameter is the one that is written, if it
references none, or a reusable one. -/
lemma mem_value_bodyParameters {written : Option RequestBody} {p : Parameter}
    (h : p ∈ (bodyParameters reusables self written).value) :
    ∃ b, p = b.parameter ∧ ((written = some b ∧ reusables.nextRequestBody self b = none) ∨
      ∃ name, Entries.get? name reusables.requestBodies = some b) := by
  rcases written with _ | b
  · cases h
  rw [value_bodyParameters] at h
  split at h
  · cases h
  · refine ⟨_, List.mem_singleton.1 h, ?_⟩
    rcases hnext : reusables.nextRequestBody self b with _ | c
    · exact .inl ⟨rfl, hnext⟩
    · exact .inr (Reference.exists_get?_of_designated? hnext)

lemma mem_parameters_prepare {p : Parameter} :
    p ∈ (prepare reusables self raw).value.parameters ↔
      p ∈ notOverridden (raw.shared.map fun q => (followParameter reusables self q).value)
          (raw.operation.parameters.map fun q => (followParameter reusables self q).value) ∨
        p ∈ raw.operation.parameters.map (fun q => (followParameter reusables self q).value) ∨
        p ∈ (bodyParameters reusables self raw.operation.requestBody).value := by
  simp only [prepare, Noted.value_bind, Noted.value_mapM, Noted.value_pure, List.mem_append,
    or_assoc]

/-- A parameter of a prepared operation that still references a parameter is a reusable one, or
that of a request body. -/
lemma stored_of_mem_parameters {p : Parameter}
    (h : p ∈ (prepare reusables self raw).value.parameters)
    (next : (reusables.nextParameter self p).isSome) :
    (∃ name, Entries.get? name reusables.parameters = some p) ∨
      ∃ b, p = b.parameter ∧
        ((raw.operation.requestBody = some b ∧ reusables.nextRequestBody self b = none) ∨
          ∃ name, Entries.get? name reusables.requestBodies = some b) := by
  have hfollowed : ∀ qs : List Parameter,
      p ∈ qs.map (fun q => (followParameter reusables self q).value) →
      ∃ name, Entries.get? name reusables.parameters = some p := by
    intro qs hp
    obtain ⟨q, -, rfl⟩ := List.mem_map.1 hp
    rw [value_followParameter] at next ⊢
    rcases hq : reusables.nextParameter self q with _ | found
    · simp [hq] at next
    · exact Reference.exists_get?_of_designated? hq
  rcases mem_parameters_prepare.1 h with hshared | hown | hbody
  · exact .inl (hfollowed raw.shared (List.mem_filter.1 hshared).1)
  · exact .inl (hfollowed raw.operation.parameters hown)
  · exact .inr (mem_value_bodyParameters hbody)

/-- A response of a prepared operation that still references a response is a reusable one. -/
lemma stored_of_mem_responses {entry : String × Response}
    (h : entry ∈ (prepare reusables self raw).value.responses)
    (next : (reusables.nextResponse self entry.2).isSome) :
    ∃ name, Entries.get? name reusables.responses = some entry.2 := by
  simp only [prepare, Noted.value_bind, Noted.value_mapM, Noted.value_pure, List.mem_map] at h
  obtain ⟨written, -, rfl⟩ := h
  dsimp only at next ⊢
  rw [value_followResponse] at next ⊢
  rcases hnext : reusables.nextResponse self written.2 with _ | found
  · simp [hnext] at next
  · exact Reference.exists_get?_of_designated? hnext

/-- A request body with content makes a parameter unless it is behind a reference from a reusable
one. -/
lemma mem_parameters_of_bodyBehind {b b' : RequestBody}
    (written : raw.operation.requestBody = some b) (behind : reusables.BodyBehind self b b')
    (content : b'.content ≠ []) :
    b'.parameter ∈ (prepare reusables self raw).value.parameters ∨
      ∃ c, reusables.nextRequestBody self b = some c ∧
        (reusables.nextRequestBody self c).isSome := by
  obtain ⟨hbehind, hlast⟩ := behind
  have hmade : (reusables.nextRequestBody self b).getD b = b' →
      b'.parameter ∈ (prepare reusables self raw).value.parameters := by
    intro hfollowed
    rw [mem_parameters_prepare, written, value_bodyParameters, hfollowed]
    simp [content]
  rcases hbehind.cases_head with rfl | ⟨c, hc, hrest⟩
  · exact .inl (hmade (by rw [hlast, Option.getD_none]))
  · rcases hrest.cases_head with rfl | ⟨d, hd, -⟩
    · exact .inl (hmade (by rw [hc, Option.getD_some]))
    · exact .inr ⟨c, hc, by rw [hd, Option.isSome_some]⟩

/-- What is left of the references of an operation. -/
structure FollowedOnce (reusables : Reusables) (address : Option String) (o : Operation) :
    Prop where
  /-- A parameter that still references one is a reusable parameter, or it was made of a request
  body that references no other, or of a reusable one. -/
  parameters : ∀ p ∈ o.parameters, (reusables.nextParameter address p).isSome →
    (∃ name, Entries.get? name reusables.parameters = some p) ∨
      ∃ b, p = b.parameter ∧
        ((o.requestBody = some b ∧ reusables.nextRequestBody address b = none) ∨
          ∃ name, Entries.get? name reusables.requestBodies = some b)
  /-- A response that still references one is a reusable response. -/
  responses : ∀ entry ∈ o.responses, (reusables.nextResponse address entry.2).isSome →
    ∃ name, Entries.get? name reusables.responses = some entry.2
  /-- A request body with content makes a parameter, unless the operation gets to it by a
  reusable one that references another. -/
  requestBody : ∀ b b', o.requestBody = some b → reusables.BodyBehind address b b' →
    b'.content ≠ [] → b'.parameter ∈ o.parameters ∨
      ∃ c, reusables.nextRequestBody address b = some c ∧
        (reusables.nextRequestBody address c).isSome

/-- Nothing in an operation references a reusable part any more, and its request body makes a
parameter. -/
structure Resolved (reusables : Reusables) (address : Option String) (o : Operation) : Prop where
  /-- The parameter of a request body keeps the reference of the body, which leads to no request
  body. -/
  parameters : ∀ p ∈ o.parameters, reusables.nextParameter address p = none ∨
    ∃ b, p = b.parameter ∧ reusables.nextRequestBody address b = none
  responses : ∀ entry ∈ o.responses, reusables.nextResponse address entry.2 = none
  requestBody : ∀ b b', o.requestBody = some b → reusables.BodyBehind address b b' →
    b'.content ≠ [] → b'.parameter ∈ o.parameters

/-- Where no reusable part references another one, following references once resolves them. -/
lemma FollowedOnce.resolved {o : Operation} (h : FollowedOnce reusables self o)
    (direct : reusables.Direct self) : Resolved reusables self o where
  parameters p hp := by
    rcases hnext : reusables.nextParameter self p with _ | q
    · exact .inl rfl
    · rcases h.parameters p hp (by rw [hnext, Option.isSome_some]) with
        ⟨name, hstored⟩ | ⟨b, rfl, ⟨-, hb⟩ | ⟨name, hstored⟩⟩
      · rw [direct.parameters name p hstored] at hnext
        cases hnext
      · exact .inr ⟨b, rfl, hb⟩
      · exact .inr ⟨b, rfl, direct.requestBodies name b hstored⟩
  responses entry hentry := by
    rcases hnext : reusables.nextResponse self entry.2 with _ | r
    · rfl
    · obtain ⟨name, hstored⟩ := h.responses entry hentry (by rw [hnext, Option.isSome_some])
      rw [direct.responses name entry.2 hstored] at hnext
      cases hnext
  requestBody b b' hb hbehind hcontent := by
    rcases h.requestBody b b' hb hbehind hcontent with hmade | ⟨c, hc, hnext⟩
    · exact hmade
    · obtain ⟨name, hstored⟩ := Reference.exists_get?_of_designated? hc
      rw [direct.requestBodies name c hstored] at hnext
      cases hnext

lemma followedOnce_prepare (raw : RawOperation) :
    FollowedOnce reusables self (prepare reusables self raw).value where
  parameters _ hp := stored_of_mem_parameters hp
  responses _ hentry := stored_of_mem_responses hentry
  requestBody _ _ := mem_parameters_of_bodyBehind

/-! ### Loaded documents -/

/-- The operations of a loaded document are prepared with its reusable parts. -/
lemma exists_prepare_of_load {document : Json} {loaded : Noted Document}
    (h : load document = .ok loaded) :
    ∃ reusables, decodeReusables (unified document) = .ok reusables ∧
      ∀ o ∈ loaded.value.operations, ∃ raw,
        o = (prepare reusables loaded.value.definitions.self raw).value := by
  obtain ⟨definitions, reusables, raw, -, hreusables, -, heq⟩ := exists_of_load h
  refine ⟨reusables, hreusables, fun o ho => ?_⟩
  rw [heq] at ho ⊢
  obtain ⟨r, -, rfl⟩ := List.mem_map.1 ho
  exact ⟨r, rfl⟩

/-- Every reference in an operation of a loaded document has been followed once. So all of them
are resolved where no reusable part references another one. -/
theorem load_follows_once {document : Json} {loaded : Noted Document}
    (h : load document = .ok loaded) :
    ∃ reusables, decodeReusables (unified document) = .ok reusables ∧
      (∀ o ∈ loaded.value.operations, FollowedOnce reusables loaded.value.definitions.self o) ∧
      (reusables.Direct loaded.value.definitions.self →
        ∀ o ∈ loaded.value.operations, Resolved reusables loaded.value.definitions.self o) := by
  obtain ⟨reusables, hreusables, hprepared⟩ := exists_prepare_of_load h
  have hfollowed : ∀ o ∈ loaded.value.operations,
      FollowedOnce reusables loaded.value.definitions.self o := by
    intro o ho
    obtain ⟨raw, rfl⟩ := hprepared o ho
    exact followedOnce_prepare raw
  exact ⟨reusables, hreusables, hfollowed, fun direct o ho => (hfollowed o ho).resolved direct⟩

/-- A document whose operation references a reusable parameter, request body and response, next
to which there is another one of each kind. -/
def referring (parameter requestBody response : Json) : Json :=
  .obj [
    ("paths", .obj [("/pets", .obj [("post", .obj [
      ("parameters", .arr [.obj [("$ref", .str "#/components/parameters/Short")]]),
      ("requestBody", .obj [("$ref", .str "#/components/requestBodies/Short")]),
      ("responses", .obj [("200", .obj [("$ref", .str "#/components/responses/Short")])])])])]),
    ("components", .obj [
      ("parameters", .obj [
        ("Short", parameter), ("Limit", .obj [("name", .str "limit"), ("in", .str "query")])]),
      ("requestBodies", .obj [
        ("Short", requestBody),
        ("Pet", .obj [("content", .obj [("application/json", .obj [])])])]),
      ("responses", .obj [
        ("Short", response), ("Done", .obj [("description", .str "Done.")])])])]

/-- The referenced parts are no references. -/
def plainly : Json :=
  referring (.obj [("name", .str "page")]) (.obj [("content", .obj [("text/plain", .obj [])])])
    (.obj [("description", .str "A page.")])

/-- The referenced parts reference the others. -/
def chained : Json :=
  referring (.obj [("$ref", .str "#/components/parameters/Limit")])
    (.obj [("$ref", .str "#/components/requestBodies/Pet")])
    (.obj [("$ref", .str "#/components/responses/Done")])

lemma unified_plainly : unified plainly = plainly := by
  have plain : withoutBooleanSchemas plainly = plainly := by
    simp [plainly, referring, withoutBooleanSchemas, Json.modify, Json.mapEntries,
      Entries.modify, plainParts, plainPartMembers, plainPartItems]
  rw [unified, plain]
  rfl

lemma unified_chained : unified chained = chained := by
  have plain : withoutBooleanSchemas chained = chained := by
    simp [chained, referring, withoutBooleanSchemas, Json.modify, Json.mapEntries,
      Entries.modify, plainParts, plainPartMembers, plainPartItems]
  rw [unified, plain]
  rfl

theorem load_follows_once_plainly :
    ∃ loaded reusables, load plainly = .ok loaded ∧
      decodeReusables (unified plainly) = .ok reusables ∧
      (∀ o ∈ loaded.value.operations, FollowedOnce reusables loaded.value.definitions.self o) ∧
      ∀ o ∈ loaded.value.operations, Resolved reusables loaded.value.definitions.self o := by
  have hload : ∃ loaded, load plainly = .ok loaded := by
    rw [show load plainly = ofUnified (unified plainly) from rfl, unified_plainly]
    exact ⟨_, rfl⟩
  have hdirect : ∃ reusables, decodeReusables (unified plainly) = .ok reusables ∧
      ∀ address, reusables.Direct address := by
    rw [unified_plainly]
    refine ⟨_, rfl, fun address => Reusables.direct_of_no_reference address ?_ ?_ ?_⟩ <;> decide
  obtain ⟨loaded, hload⟩ := hload
  obtain ⟨reusables, hreusables, direct⟩ := hdirect
  obtain ⟨reusables', hreusables', hfollowed, hresolved⟩ := load_follows_once hload
  obtain rfl : reusables' = reusables := Except.ok.inj (hreusables'.symm.trans hreusables)
  exact ⟨loaded, reusables', hload, hreusables, hfollowed, hresolved (direct _)⟩

/-- The parameter and the response are left as references to parts that are none, and the request
body is lost. -/
theorem chained_left :
    ∃ loaded reusables o, load chained = .ok loaded ∧
      decodeReusables (unified chained) = .ok reusables ∧ loaded.value.operations = [o] ∧
      (∃ p ∈ o.parameters, ∃ c,
        reusables.nextParameter loaded.value.definitions.self p = some c ∧
        reusables.nextParameter loaded.value.definitions.self c = none) ∧
      (∃ entry ∈ o.responses, ∃ c,
        reusables.nextResponse loaded.value.definitions.self entry.2 = some c ∧
        reusables.nextResponse loaded.value.definitions.self c = none) ∧
      (∃ b b', o.requestBody = some b ∧
        reusables.BodyBehind loaded.value.definitions.self b b' ∧ b'.content ≠ []) ∧
      ∀ p ∈ o.parameters, p.isBody = false := by
  rw [show load chained = ofUnified (unified chained) from rfl, unified_chained]
  refine ⟨_, _, _, rfl, rfl, rfl, ?_, ?_, ?_, ?_⟩
  · exact ⟨_, List.mem_cons_self, _, rfl, rfl⟩
  · exact ⟨_, List.mem_cons_self, _, rfl, rfl⟩
  · refine ⟨_, _, rfl, ⟨.head rfl (.head rfl .refl), rfl⟩, ?_⟩
    simp
  · decide

end Document

end OpenApiDoc
