import OpenApiDoc.Document
import OpenApiDoc.Proofs.Entries
import OpenApiDoc.Proofs.Operation.Order

/-!
# Preparing operations

References are followed, and the parameters of a path are added, on decoded operations. This does
not depend on the order in which a parameter keeps its unknown members: the same operations, with
the same reusable parts, are prepared to the same operations.
-/

namespace OpenApiDoc

/-- The value of a computation over a list is made of the values for its members. -/
@[simp] lemma Noted.value_mapM {α β : Type} (f : α → Noted β) (list : List α) :
    (list.mapM f).value = list.map fun a => (f a).value := by
  induction list with
  | nil => rfl
  | cons a rest ih => simp [List.mapM_cons, ih]

/-- Two operations are the same but for the order of members in their parameters. -/
structure Operation.Same (o o' : Operation) : Prop where
  body : o.toOperationBody.Same o'.toOperationBody
  method : o.method = o'.method
  path : o.path = o'.path

/-- Reusable parts are the same but for the order of members in their parameters. -/
structure Reusables.Same (r r' : Reusables) : Prop where
  parameters : Entries.Related Parameter.Same r.parameters r'.parameters
  requestBodies : r.requestBodies = r'.requestBodies
  responses : r.responses = r'.responses

namespace Document

variable {reusables reusables' : Reusables} {self : Option String} {p p' : Parameter}

/-- Two operations are the same, and so are the parameters that their paths share. -/
structure RawOperation.Same (raw raw' : RawOperation) : Prop where
  shared : List.Forall₂ Parameter.Same raw.shared raw'.shared
  operation : raw.operation.Same raw'.operation

lemma followParameter_same (hreusables : reusables.Same reusables') (h : p.Same p') :
    (followParameter reusables self p).value.Same
      (followParameter reusables' self p').value := by
  have hreference : p.reference = p'.reference := h.congr fun _ => rfl
  rw [followParameter, followParameter, hreference]
  cases p'.reference with
  | none => exact h
  | some reference =>
    dsimp only
    cases Reference.componentName? self "parameters" reference with
    | none => exact h
    | some name =>
      have hfound := hreusables.parameters.get? name
      simp only [Option.bind_some]
      generalize Entries.get? name reusables.parameters = found at hfound ⊢
      generalize Entries.get? name reusables'.parameters = found' at hfound ⊢
      cases hfound with
      | none => exact h
      | some hsame => exact hsame

lemma followRequestBody_congr (hreusables : reusables.Same reusables') (b : RequestBody) :
    followRequestBody reusables self b = followRequestBody reusables' self b := by
  simp only [followRequestBody, hreusables.requestBodies]

lemma followResponse_congr (hreusables : reusables.Same reusables') (code : String)
    (r : Response) :
    followResponse reusables self code r = followResponse reusables' self code r := by
  simp only [followResponse, hreusables.responses]

lemma bodyParameters_congr (hreusables : reusables.Same reusables') (b : Option RequestBody) :
    bodyParameters reusables self b = bodyParameters reusables' self b := by
  cases b with
  | none => rfl
  | some body => rw [bodyParameters, bodyParameters, followRequestBody_congr hreusables]

lemma followParameters_same (hreusables : reusables.Same reusables') {ps ps' : List Parameter}
    (h : List.Forall₂ Parameter.Same ps ps') :
    List.Forall₂ Parameter.Same (ps.map fun p => (followParameter reusables self p).value)
      (ps'.map fun p => (followParameter reusables' self p).value) := by
  rw [List.forall₂_map_left_iff, List.forall₂_map_right_iff]
  exact h.imp fun _ _ => followParameter_same hreusables

/-- Which parameters an operation overrides depends on their names and locations. -/
lemma notOverridden_same {shared shared' own own' : List Parameter}
    (hshared : List.Forall₂ Parameter.Same shared shared')
    (hown : List.Forall₂ Parameter.Same own own') :
    List.Forall₂ Parameter.Same (notOverridden shared own) (notOverridden shared' own') := by
  refine List.rel_filter (fun s s' hs => ?_) hshared
  have hname : s.name = s'.name := hs.congr fun _ => rfl
  have hlocation : s.location = s'.location := hs.congr fun _ => rfl
  have hany : own.any (fun o => o.name == s.name && decide (o.location = s.location)) =
      own'.any fun o => o.name == s.name && decide (o.location = s.location) := by
    induction hown with
    | nil => rfl
    | cons ho _ ih =>
      rw [List.any_cons, List.any_cons, ih, ho.congr (f := Parameter.name) fun _ => rfl,
        ho.congr (f := Parameter.location) fun _ => rfl]
  dsimp only
  rw [hany, hname, hlocation]

/-- The same operations are prepared to the same operations. -/
theorem prepare_same {raw raw' : RawOperation} (hreusables : reusables.Same reusables')
    (h : raw.Same raw') :
    (prepare reusables self raw).value.Same (prepare reusables' self raw').value := by
  obtain ⟨hshared, hbody, hmethod, hpath⟩ := h
  have hrequest : raw.operation.requestBody = raw'.operation.requestBody :=
    hbody.congr (f := OperationBody.requestBody) fun _ => rfl
  have hresponses : raw.operation.responses = raw'.operation.responses :=
    hbody.congr (f := OperationBody.responses) fun _ => rfl
  have hmade : List.Forall₂ Parameter.Same
      (bodyParameters reusables self raw.operation.requestBody).value
      (bodyParameters reusables' self raw'.operation.requestBody).value := by
    rw [bodyParameters_congr hreusables, hrequest]
    exact List.forall₂_same.2 fun p _ => .refl p
  simp only [prepare, Noted.value_bind, Noted.value_mapM, Noted.value_pure,
    followResponse_congr hreusables, hresponses]
  refine ⟨⟨?_, ?_⟩, hmethod, hpath⟩
  · generalize raw'.operation.responses.map _ = responses
    exact hbody.congr (f := fun o => { o.withParameters [] with responses }) fun _ => rfl
  · refine List.rel_append (List.rel_append ?_ ?_) hmade
    · exact notOverridden_same (followParameters_same hreusables hshared)
        (followParameters_same hreusables hbody.parameters)
    · exact followParameters_same hreusables hbody.parameters

end Document

end OpenApiDoc
