import OpenApiDoc.Proofs.Document.Dialects
import OpenApiDoc.Proofs.Document.Places

/-!
# Where lifted schemas stem from

Lifting moves the schema of a parameter or a response that is written the older way. What the
loader reads at a path of the lifted document stems from some path of the document before: the
same path, but for the steps into a schema that was moved. Nothing else changes, so a schema that
was no parameter itself is the very value that was written.
-/

namespace OpenApiDoc.Document

open Json (Step Path)

/-- The document is read so: what stands at the first path of the lifted document is read as
this, and stems from what stands at the second path of the document as written. -/
inductive ReadFrom (d : Json) : Place → Path → Path → Prop
  | document : ReadFrom d .document [] []
  | step {a b : Place} {p q : Path} {s : Step} (stem : ReadFrom d a p q) (leads : Leads a s b)
      (written : (d.follow? (q ++ [s])).isSome = true) : ReadFrom d b (p ++ [s]) (q ++ [s])
  /-- A parameter without a schema stands for its schema. -/
  | inlineSchema {p q : Path} (stem : ReadFrom d (.parameter true) p q)
      (unwritten : d.follow? (q ++ [.key "schema"]) = none) :
      ReadFrom d .inlineSchema (p ++ [.key "schema"]) q
  /-- A response without content stands for its content. -/
  | ownContent {p q : Path} (stem : ReadFrom d (.response true) p q)
      (unwritten : d.follow? (q ++ [.key "content"]) = none) :
      ReadFrom d .ownContent (p ++ [.key "content"]) q
  | ownMedia {p q : Path} (mime : String) (stem : ReadFrom d .ownContent p q) :
      ReadFrom d (.ownMedia mime) (p ++ [.key mime]) q
  | ownSchema {p q : Path} {mime : String} (stem : ReadFrom d (.ownMedia mime) p q)
      (written : (d.follow? (q ++ [.key "schema"])).isSome = true) :
      ReadFrom d (.schema false) (p ++ [.key "schema"]) (q ++ [.key "schema"])

namespace Place

/-- What lifting makes of a value that is read so. -/
def lift : Place → Json → Option Json
  | .document, v => some (lifted v)
  | .components, v => some (v.modify "parameters" (.mapValues liftParameter))
  | .parameters, v => some (v.mapValues liftParameter)
  | .sharedParameters, v =>
    some ((liftParameterList v).modify "responses" (.mapValues liftResponse))
  | .ownParameters true, v => some (liftParameterList v)
  | .parameter true, v => some (liftParameter v)
  | .inlineSchema, v => (liftParameter v).get? "schema"
  | .responses true, v => some (v.mapValues liftResponse)
  | .codes true, v => some (v.mapValues liftResponse)
  | .response true, v => some (liftResponse v)
  | .ownContent, v => (liftResponse v).get? "content"
  | .ownMedia mime, v => ((liftResponse v).get? "content").bind (Json.get? mime)
  | .paths, v => some (v.mapValues liftPathItem)
  | .pathItem, v => some (liftPathItem v)
  | .operation, v => some (inOperation liftParameterList (.mapValues liftResponse) v)
  | _, v => some v

/-- What the loader takes a value for that is written the older way. -/
def modern : Place → Place
  | .inlineSchema => .schema false
  | .ownContent => .content
  | .ownMedia _ => .media
  | a => a

/-- Whether a value is read so only after it was moved. -/
def IsMoved (a : Place) : Prop := a.modern ≠ a

end Place

variable {a b : Place} {s : Step} {p q : Path} {v w x y : Json} {members : List (String × Json)}

/-- No step leads to a value that is moved. -/
lemma Leads.modern_eq (leads : Leads a s b) : b.modern = b := by
  cases leads <;> rfl

lemma ReadFrom.isSome_follow? {d : Json} (h : ReadFrom d a p q) :
    (d.follow? q).isSome = true := by
  induction h with
  | document => rfl
  | step _ _ written _ | ownSchema _ written _ => exact written
  | inlineSchema _ _ ih | ownContent _ _ ih | ownMedia _ _ ih => exact ih

lemma ReadFrom.reads {d : Json} (h : ReadFrom d a p q) : Reads p a.modern := by
  induction h with
  | document => exact .nil
  | @step a b p q s stem leads written ih =>
    rw [leads.modern_eq]
    by_cases settled : a.IsMoved
    · cases leads with
      | inlineItems => exact ih.concat (.items false)
      | _ => exact absurd rfl settled
    · rw [not_not.1 settled] at ih
      exact ih.concat leads
  | inlineSchema _ _ ih => exact ih.concat (.parameterSchema true)
  | ownContent _ _ ih => exact ih.concat (.responseContent true)
  | ownMedia mime _ ih => exact ih.concat (.media mime)
  | ownSchema _ _ ih => exact ih.concat .mediaSchema

/-- What is not moved, stems from where it is read. -/
lemma Route.readFrom {d : Json} (route : Reads p a) (written : (d.follow? p).isSome = true) :
    ReadFrom d a p p := by
  induction route with
  | nil => exact .document
  | @concat p s b c route leads ih =>
    obtain ⟨x, hx⟩ := Option.isSome_iff_exists.1 written
    obtain ⟨y, hy, -⟩ := Json.follow?_concat_eq_some.1 hx
    exact .step (ih (by rw [hy, Option.isSome_some])) leads written

/-! ### What is moved -/

lemma liftParameter_of_schema (h : v.get? "schema" = some x) : liftParameter v = v := by
  cases v with
  | obj members =>
    have hhas : Entries.has "schema" members = true := Option.isSome_iff_exists.2 ⟨x, h⟩
    rw [liftParameter, Json.mapEntries, liftKeywords, hhas, Bool.true_or, Bool.true_or,
      if_pos rfl]
  | _ => cases h

lemma liftResponse_of_content (h : v.get? "content" = some x) : liftResponse v = v := by
  cases v with
  | obj members =>
    have hhas : Entries.has "content" members = true := Option.isSome_iff_exists.2 ⟨x, h⟩
    rw [liftResponse, Json.mapEntries, liftContent, hhas, Bool.true_or, if_pos rfl]
  | _ => cases h

/-- The schema of a parameter that is written the older way has the inline keywords of the
parameter. -/
lemma get?_inlineSchema (wellKeyed : v.WellKeyed) (unwritten : v.get? "schema" = none)
    (h : (liftParameter v).get? "schema" = some x) :
    (∃ members, x = .obj members) ∧
      ∀ key, x.get? key = if key ∈ inlineKeywords then v.get? key else none := by
  cases v with
  | obj members =>
    have nodup : (Entries.keys members).Nodup := wellKeyed.1
    cases hinline : holdsInline members with
    | false =>
      rw [liftParameter, Json.mapEntries, liftKeywords_of_not_holdsInline nodup hinline] at h
      rw [h] at unwritten
      cases unwritten
    | true =>
      obtain ⟨found, left, hlift, hfound, hleft, hschema⟩ :=
        liftKeywords_of_holdsInline nodup hinline
      have hunleft : Entries.get? "schema" left = none :=
        Entries.get?_eq_none.2 fun hmem =>
          Entries.not_mem_keys_filter hschema ((hleft.map Prod.fst).mem_iff.1 hmem)
      rw [liftParameter, Json.mapEntries, hlift, Json.get?_obj, Entries.get?_append,
        hunleft] at h
      cases h
      refine ⟨⟨found, rfl⟩, fun key => ?_⟩
      have nodup' := (Entries.nodup_keys_perm hfound).2 (Entries.nodup_keys_filter _ nodup)
      rw [Json.get?_obj, Entries.get?_perm hfound nodup',
        Entries.get?_filter (p := fun key => inlineKeywords.contains key)]
      simp only [List.contains_iff_mem, Json.get?_obj]
  | _ => cases h

/-- The content of a response that is written the older way has its schema in
every media type. -/
lemma get?_ownSchema (wellKeyed : v.WellKeyed) (unwritten : v.get? "content" = none)
    {mime : String} (h : (liftResponse v).get? "content" = some x)
    (hmime : x.get? mime = some y) :
    (∃ members, y = .obj members) ∧ y.get? "schema" = v.get? "schema" := by
  cases v with
  | obj members =>
    have nodup : (Entries.keys members).Nodup := wellKeyed.1
    cases hown : holdsOwnContent members with
    | false =>
      rw [liftResponse, Json.mapEntries, liftContent_of_not_holdsOwnContent hown] at h
      rw [h] at unwritten
      cases unwritten
    | true =>
      obtain ⟨left, hlift, hleft, hcontent⟩ := liftContent_of_holdsOwnContent nodup hown
      have hunleft : Entries.get? "content" left = none :=
        Entries.get?_eq_none.2 fun hmem =>
          Entries.not_mem_keys_filter hcontent ((hleft.map Prod.fst).mem_iff.1 hmem)
      rw [liftResponse, Json.mapEntries, hlift, Json.get?_obj, Entries.get?_append, hunleft] at h
      cases h
      have hmem := Entries.mem_of_get? hmime
      rw [Json.get?_obj]
      generalize Entries.get? "schema" members = schema at hmem ⊢
      rw [mediaTypes.eq_def] at hmem
      split at hmem
      · obtain ⟨sample, -, heq⟩ := List.mem_map.1 hmem
        cases heq
        cases schema <;> simp [Entries.get?_cons]
      · cases schema with
        | none => cases hmem
        | some x =>
          obtain ⟨rfl, rfl⟩ : mime = "*/*" ∧ y = .obj [("schema", x)] := by simpa using hmem
          simp [Entries.get?_cons]
  | _ => cases h

/-! ### Steps into a lifted value -/

lemma get?_inOperation (parameters responses : Json → Json) (key : String) (operation : Json) :
    (inOperation parameters responses operation).get? key = (operation.get? key).map fun v =>
      if key = "parameters" then parameters v
      else if key = "responses" then responses v else v := by
  cases operation with
  | obj members =>
    rw [inOperation_obj, Json.get?_obj, Json.get?_obj, Entries.get?_map (f := fun key v =>
      if key = "parameters" then parameters v else if key = "responses" then responses v else v)]
  | _ => rfl

/-- A step into a lifted value leads to what lifting makes of what the step leads to in the value
itself, unless it leads to what is moved. -/
lemma child?_lift (leads : Leads a s b) (settled : ¬a.IsMoved) (hlift : a.lift v = some x)
    (kept : (a = .parameter true ∧ s = .key "schema") ∨
        (a = .response true ∧ s = .key "content") →
      (v.child? s).isSome = true) : x.child? s = (v.child? s).bind b.lift := by
  have hmap :
      ∀ {f : Json → Json}, x.child? s = (v.child? s).map f → (∀ u, b.lift u = some (f u)) →
      x.child? s = (v.child? s).bind b.lift := by
    intro f hchild hf
    rw [hchild, Option.map_eq_bind, funext hf]
    rfl
  have hsame : x.child? s = v.child? s → (∀ u, b.lift u = some u) →
      x.child? s = (v.child? s).bind b.lift := fun hchild hf => by
    rw [hchild, funext hf, Option.bind_fun_some]
  cases leads with
  | components | definitions | parameters | responses | paths =>
    cases hlift
    exact hmap (by simp [get?_lifted]) fun _ => rfl
  | newSchemas | newRequestBodies | newResponses =>
    cases hlift
    exact hsame (by simp [Json.get?_modify]) fun _ => rfl
  | newParameters =>
    cases hlift
    exact hmap (by simp [Json.get?_modify]) fun _ => rfl
  | parameter name | path name named =>
    cases hlift
    exact hmap (by simp [Json.get?_mapValues]) fun _ => rfl
  | sharedParameter i =>
    cases hlift
    exact hmap (by simp [liftParameterList]) fun _ => rfl
  | ownParameter lifted i =>
    cases lifted with
    | true =>
      cases hlift
      exact hmap (by simp [liftParameterList]) fun _ => rfl
    | false =>
      cases hlift
      exact hsame rfl fun _ => rfl
  | response lifted name | code lifted name named =>
    cases lifted with
    | true =>
      cases hlift
      exact hmap (by simp [Json.get?_mapValues]) fun _ => rfl
    | false =>
      cases hlift
      exact hsame rfl fun _ => rfl
  | parameterSchema lifted =>
    cases lifted with
    | true =>
      obtain ⟨u, hu⟩ := Option.isSome_iff_exists.1 (kept (.inl ⟨rfl, rfl⟩))
      rw [Json.child?_key] at hu
      cases hlift
      exact hsame (by rw [liftParameter_of_schema hu]) fun _ => rfl
    | false =>
      cases hlift
      exact hsame rfl fun _ => rfl
  | responseContent lifted =>
    cases lifted with
    | true =>
      obtain ⟨u, hu⟩ := Option.isSome_iff_exists.1 (kept (.inr ⟨rfl, rfl⟩))
      rw [Json.child?_key] at hu
      cases hlift
      exact hsame (by rw [liftResponse_of_content hu]) fun _ => rfl
    | false =>
      cases hlift
      exact hsame rfl fun _ => rfl
  | listedContent lifted =>
    cases lifted with
    | true =>
      cases hlift
      exact hsame (by simp [liftResponse]) fun _ => rfl
    | false =>
      cases hlift
      exact hsame rfl fun _ => rfl
  | inlineItems => exact absurd (by simp [Place.IsMoved, Place.modern]) settled
  | shared =>
    cases hlift
    exact hmap (by simp [get?_liftPathItem]) fun _ => rfl
  | operation method known =>
    have hmethod : method ≠ "parameters" := by
      rintro rfl
      simp [Method.all, Method.key] at known
    cases hlift
    exact hmap (by simp [get?_liftPathItem, hmethod]) fun _ => rfl
  | ownParameters | operationBody | codes =>
    cases hlift
    exact hmap (by simp [get?_inOperation]) fun _ => rfl
  | listedParameters | listedBody | listedCodes =>
    cases hlift
    exact hsame (by simp [inOperation]) fun _ => rfl
  | schema | properties | items | allOf | additional | branch | requestBody | requestContent
  | media | mediaSchema | listedSchema =>
    cases hlift
    exact hsame rfl fun _ => rfl

/-! ### Values of a lifted document -/

lemma ReadFrom.unwritten_of_inlineSchema {d : Json} (h : ReadFrom d .inlineSchema p q) :
    d.follow? (q ++ [.key "schema"]) = none := by
  cases h with
  | step _ leads _ => cases leads
  | inlineSchema _ unwritten => exact unwritten

lemma ReadFrom.unwritten_of_ownMedia {d : Json} {mime : String}
    (h : ReadFrom d (.ownMedia mime) p q) : d.follow? (q ++ [.key "content"]) = none := by
  cases h with
  | step _ leads _ => cases leads
  | ownMedia _ stem =>
    cases stem with
    | step _ leads _ => cases leads
    | ownContent _ unwritten => exact unwritten

/-- What the loader reads in a lifted document is what lifting makes of the value
it stems from. -/
theorem ReadFrom.lift_eq {d : Json} (wellKeyed : d.WellKeyed) (h : ReadFrom d a p q)
    (hread : (lifted d).follow? p = some x) : ∃ v, d.follow? q = some v ∧ a.lift v = some x := by
  induction h generalizing x with
  | document => exact ⟨d, rfl, hread⟩
  | @step a b p q s stem leads written ih =>
    obtain ⟨y, hy, hchild⟩ := Json.follow?_concat_eq_some.1 hread
    obtain ⟨v, hv, hlift⟩ := ih hy
    obtain ⟨u, hu⟩ := Option.isSome_iff_exists.1 written
    refine ⟨u, hu, ?_⟩
    rw [Json.follow?_concat_of_eq hv] at hu
    by_cases settled : a.IsMoved
    · cases leads with
      | inlineItems =>
        have unwritten := stem.unwritten_of_inlineSchema
        rw [Json.follow?_concat_key hv] at unwritten
        rw [Json.child?_key] at hchild hu
        rw [(get?_inlineSchema (wellKeyed.follow? hv) unwritten hlift).2, if_pos (by decide)]
          at hchild
        exact hu.symm.trans hchild
      | _ => exact absurd rfl settled
    · rw [child?_lift leads settled hlift fun _ => by rw [hu, Option.isSome_some], hu,
        Option.bind_some] at hchild
      exact hchild
  | inlineSchema stem unwritten ih =>
    obtain ⟨y, hy, hchild⟩ := Json.follow?_concat_eq_some.1 hread
    obtain ⟨v, hv, hlift⟩ := ih hy
    cases hlift
    rw [Json.child?_key] at hchild
    exact ⟨v, hv, hchild⟩
  | ownContent stem unwritten ih =>
    obtain ⟨y, hy, hchild⟩ := Json.follow?_concat_eq_some.1 hread
    obtain ⟨v, hv, hlift⟩ := ih hy
    cases hlift
    rw [Json.child?_key] at hchild
    exact ⟨v, hv, hchild⟩
  | ownMedia mime stem ih =>
    obtain ⟨y, hy, hchild⟩ := Json.follow?_concat_eq_some.1 hread
    obtain ⟨v, hv, hlift⟩ := ih hy
    rw [Json.child?_key] at hchild
    exact ⟨v, hv, Option.bind_eq_some_iff.2 ⟨y, hlift, hchild⟩⟩
  | @ownSchema p q mime stem written ih =>
    obtain ⟨y, hy, hchild⟩ := Json.follow?_concat_eq_some.1 hread
    obtain ⟨v, hv, hlift⟩ := ih hy
    obtain ⟨z, hz, hmime⟩ := Option.bind_eq_some_iff.1 hlift
    have unwritten := stem.unwritten_of_ownMedia
    rw [Json.follow?_concat_key hv] at unwritten
    refine ⟨x, ?_, rfl⟩
    rw [Json.follow?_concat_key hv,
      ← (get?_ownSchema (wellKeyed.follow? hv) unwritten hz hmime).2, ← Json.child?_key]
    exact hchild

/-- What is not moved, is there after lifting. -/
theorem Route.exists_lift_eq {d : Json} (route : Reads p a) (hv : d.follow? p = some v) :
    ∃ x, (lifted d).follow? p = some x ∧ a.lift v = some x := by
  have settled : ∀ {p a}, Reads p a → ¬a.IsMoved := by
    intro p a route
    cases route with
    | nil => exact not_not.2 rfl
    | concat _ leads => exact not_not.2 leads.modern_eq
  induction route generalizing v with
  | nil =>
    cases hv
    exact ⟨_, rfl, rfl⟩
  | @concat p s a b route leads ih =>
    obtain ⟨w, hw, hchild⟩ := Json.follow?_concat_eq_some.1 hv
    obtain ⟨y, hy, hlift⟩ := ih hw
    obtain ⟨x, hx⟩ : ∃ x, b.lift v = some x := by
      cases leads with
      | ownParameter lifted | parameterSchema lifted | response lifted | code lifted
        | responseContent lifted | listedContent lifted => cases lifted <;> exact ⟨_, rfl⟩
      | _ => exact ⟨_, rfl⟩
    refine ⟨x, ?_, hx⟩
    rw [Json.follow?_concat_of_eq hy, child?_lift leads (settled route) hlift
      fun _ => by rw [hchild, Option.isSome_some], hchild, Option.bind_some, hx]

/-- Whatever the loader reads in a lifted document, stems from the document before. -/
theorem exists_readFrom {d : Json} (wellKeyed : d.WellKeyed) (route : Reads p a)
    (hread : (lifted d).follow? p = some x) : ∃ b q, ReadFrom d b p q ∧ b.modern = a := by
  induction route generalizing x with
  | nil => exact ⟨.document, [], .document, rfl⟩
  | @concat p s a c route leads ih =>
    obtain ⟨y, hy, hchild⟩ := Json.follow?_concat_eq_some.1 hread
    obtain ⟨b, q, stem, rfl⟩ := ih hy
    obtain ⟨v, hv, hlift⟩ := stem.lift_eq wellKeyed hy
    have hwritten : ∀ {s u}, v.child? s = some u → (d.follow? (q ++ [s])).isSome = true := by
      intro s u hu
      rw [Json.follow?_concat_of_eq hv, hu, Option.isSome_some]
    have hunwritten : ∀ {key}, v.get? key = none → d.follow? (q ++ [.key key]) = none := by
      intro key hkey
      rw [Json.follow?_concat_key hv, hkey]
    have hc := leads.modern_eq
    by_cases settled : b.IsMoved
    · have wellKeyedValue := wellKeyed.follow? hv
      cases b with
      | inlineSchema =>
        have unwritten := stem.unwritten_of_inlineSchema
        rw [Json.follow?_concat_key hv] at unwritten
        have hkeys := (get?_inlineSchema wellKeyedValue unwritten hlift).2
        cases leads with
        | items =>
          rw [Json.child?_key, hkeys, if_pos (by decide), ← Json.child?_key] at hchild
          exact ⟨_, _, .step stem .inlineItems (hwritten hchild), rfl⟩
        | properties | allOf | additional =>
          rw [Json.child?_key, hkeys, if_neg (by decide)] at hchild
          cases hchild
      | ownContent =>
        cases leads with
        | media mime => exact ⟨_, _, .ownMedia mime stem, rfl⟩
      | ownMedia mime =>
        have unwritten := stem.unwritten_of_ownMedia
        rw [Json.follow?_concat_key hv] at unwritten
        obtain ⟨z, hz, hmime⟩ := Option.bind_eq_some_iff.1 hlift
        obtain ⟨⟨members, rfl⟩, hschema⟩ := get?_ownSchema wellKeyedValue unwritten hz hmime
        cases leads with
        | mediaSchema =>
          rw [Json.child?_key, hschema, ← Json.child?_key] at hchild
          exact ⟨_, _, .ownSchema stem (hwritten hchild), rfl⟩
        | listedSchema => cases hchild
      | _ => exact absurd rfl settled
    · have hb : b.modern = b := not_not.1 settled
      rw [hb] at leads
      by_cases kept : (b = .parameter true ∧ s = .key "schema") ∨
          (b = .response true ∧ s = .key "content") → (v.child? s).isSome = true
      · rw [child?_lift leads settled hlift kept] at hchild
        obtain ⟨u, hu, -⟩ := Option.bind_eq_some_iff.1 hchild
        exact ⟨c, _, .step stem leads (hwritten hu), hc⟩
      · obtain ⟨hmoved, hnone⟩ := Classical.not_imp.1 kept
        rw [Option.not_isSome_iff_eq_none] at hnone
        rcases hmoved with ⟨rfl, rfl⟩ | ⟨rfl, rfl⟩
        · cases leads
          rw [Json.child?_key] at hnone
          exact ⟨_, _, .inlineSchema stem (hunwritten hnone), rfl⟩
        · cases leads
          rw [Json.child?_key] at hnone
          exact ⟨_, _, .ownContent stem (hunwritten hnone), rfl⟩

end OpenApiDoc.Document
