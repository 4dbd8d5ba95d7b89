import Mathlib
import OpenApiDoc.Proofs.Document.Dialects
import OpenApiDoc.Proofs.Document.Following

/-!
# Parameters that a path shares

The parameters of an operation are those that its path shares among its operations, then its
own and then the one that its request body makes. A shared parameter is left out where the
operation has one of the same name and location. Both are compared after references are
followed, and a reference that leads nowhere has an empty name and the location that is
implied. So one such reference of an operation takes the place of every such reference that its
path shares, though they need not be the same; where the parameters of an operation have names,
only named ones are left out.
-/

namespace OpenApiDoc.Document

/-! ### Written operations -/

/-- An operation as a document writes it, with the item of its path. -/
structure WrittenOperation where
  path : String
  item : Json
  method : Method
  value : Json

/-- The operations of a path item by the methods that it has. -/
def itemOperations (path : String) (item : Json) (methods : List Method) :
    List WrittenOperation :=
  methods.filterMap fun method => (item.get? method.key).map fun value =>
    ⟨path, item, method, value⟩

/-- The operations of all paths but vendor extensions and items that are no object. -/
def pathOperations (items : List (String × Json)) : List WrittenOperation :=
  (items.filter fun m => !isExtensionKey m.1 && m.2.entries?.isSome).flatMap fun m =>
    itemOperations m.1 m.2 Method.all

/-- The operations of a document in the unified shape, in order. -/
def writtenOperations (document : Json) : List WrittenOperation :=
  pathOperations (membersAt document ["paths"])

/-- The parameters that a path item shares among its operations. -/
def sharedParameters (item : Json) : Except DecodeFault (List Parameter) :=
  match item.get? "parameters" with
  | none => .ok []
  | some value => Decoder.list Parameter.decode value

/-- An operation is decoded, with the parameters that its path shares. -/
def WrittenOperation.ReadAs (written : WrittenOperation) (raw : RawOperation) : Prop :=
  sharedParameters written.item = .ok raw.shared ∧
    ∃ body, OperationBody.decode written.value = .ok body ∧
      raw.operation = { body with method := written.method, path := written.path }

variable {path : String} {item : Json} {shared : List Parameter} {raws : List RawOperation}

lemma forall₂_of_decodeMethods {methods : List Method}
    (hshared : sharedParameters item = .ok shared)
    (h : decodeMethods path item shared methods = .ok raws) :
    List.Forall₂ WrittenOperation.ReadAs (itemOperations path item methods) raws := by
  induction methods generalizing raws with
  | nil =>
    cases h
    exact .nil
  | cons method methods ih =>
    rw [decodeMethods] at h
    rw [itemOperations, List.filterMap_cons]
    cases hvalue : item.get? method.key with
    | none =>
      rw [hvalue] at h
      exact ih h
    | some value =>
      rw [hvalue] at h
      simp only [do_eq_ok, part_eq_ok] at h
      obtain ⟨body, hbody, more, hmore, h⟩ := h
      cases h
      exact .cons ⟨hshared, body, hbody, rfl⟩ (ih hmore)

lemma forall₂_of_decodePathItem (h : decodePathItem path item = .ok raws) :
    List.Forall₂ WrittenOperation.ReadAs (itemOperations path item Method.all) raws := by
  rw [decodePathItem] at h
  cases hparameters : item.get? "parameters" with
  | none =>
    rw [hparameters] at h
    exact forall₂_of_decodeMethods (by rw [sharedParameters, hparameters]) h
  | some value =>
    rw [hparameters] at h
    simp only [do_eq_ok, part_eq_ok] at h
    obtain ⟨shared, hshared, hmethods⟩ := h
    exact forall₂_of_decodeMethods
      (by rw [sharedParameters, hparameters]; exact hshared) hmethods

lemma forall₂_of_decodePaths {items : List (String × Json)} (h : decodePaths items = .ok raws) :
    List.Forall₂ WrittenOperation.ReadAs (pathOperations items) raws := by
  induction items generalizing raws with
  | nil =>
    cases h
    exact .nil
  | cons m rest ih =>
    obtain ⟨path, item⟩ := m
    rw [decodePaths_cons] at h
    rw [pathOperations, List.filter_cons]
    by_cases hread : (!isExtensionKey path && item.entries?.isSome) = true
    · rw [if_pos hread] at h ⊢
      simp only [do_eq_ok] at h
      obtain ⟨operations, hoperations, more, hmore, h⟩ := h
      cases h
      exact List.rel_append (forall₂_of_decodePathItem hoperations) (ih hmore)
    · rw [if_neg hread] at h ⊢
      exact ih h

/-! ### Merged parameters -/

/-- A parameter, or the reusable one that it references. -/
def followed (reusables : Reusables) (address : Option String) (p : Parameter) : Parameter :=
  (reusables.nextParameter address p).getD p

/-- The parameter that the request body makes, which is the one that it references if there is
such a one: none without content. -/
def followedBody (reusables : Reusables) (address : Option String) (b : Option RequestBody) :
    List Parameter :=
  (((b.map fun b => (reusables.nextRequestBody address b).getD b).filter
    fun b => !b.content.isEmpty).map RequestBody.parameter).toList

/-- One of the parameters has the name and the location of the other. -/
def Overrides (own : List Parameter) (p : Parameter) : Prop :=
  ∃ q ∈ own, q.name = p.name ∧ q.location = p.location

instance (own : List Parameter) (p : Parameter) : Decidable (Overrides own p) :=
  inferInstanceAs (Decidable (∃ q ∈ own, q.name = p.name ∧ q.location = p.location))

variable {reusables : Reusables} {address : Option String} {p : Parameter}

lemma notOverridden_eq (shared own : List Parameter) :
    notOverridden shared own = shared.filter fun p => ¬ Overrides own p := by
  refine List.filter_congr fun p _ => ?_
  rw [Bool.eq_iff_iff]
  simp [Overrides]

lemma value_bodyParameters_eq (b : Option RequestBody) :
    (bodyParameters reusables address b).value = followedBody reusables address b := by
  rcases b with _ | b
  · rfl
  · rw [value_bodyParameters, followedBody, Option.map_some, Option.filter_some]
    split <;> simp [*]

/-- The parameters of an operation are made of the shared ones, its own and its request body. -/
structure MergedParameters (reusables : Reusables) (address : Option String)
    (shared : List Parameter) (body : OperationBody) (merged : List Parameter) : Prop where
  /-- The shared ones that are not overridden come first, then the own ones and the
  body's, each in order. -/
  eq : merged =
    ((shared.map (followed reusables address)).filter fun p =>
      ¬ Overrides (body.parameters.map (followed reusables address)) p) ++
    body.parameters.map (followed reusables address) ++
    followedBody reusables address body.requestBody
  /-- If all own ones have names, then so has every shared one that is overridden. -/
  named : (∀ q ∈ body.parameters, (followed reusables address q).name ≠ "") →
    ∀ p ∈ shared, Overrides (body.parameters.map (followed reusables address))
      (followed reusables address p) → (followed reusables address p).name ≠ ""
  /-- If all own ones have names, then a reference that leads to no parameter and has no
  name beside it is kept. -/
  unresolved : (∀ q ∈ body.parameters, (followed reusables address q).name ≠ "") →
    ∀ p ∈ shared, p.reference.isSome → reusables.nextParameter address p = none → p.name = "" →
      p ∈ merged

/-- What overrides a parameter shares its name with it. -/
lemma name_ne_empty_of_overrides {own : List Parameter} (named : ∀ q ∈ own, q.name ≠ "")
    (h : Overrides own p) : p.name ≠ "" := by
  obtain ⟨q, hq, hname, -⟩ := h
  rw [← hname]
  exact named q hq

lemma mergedParameters_prepare (raw : RawOperation) :
    MergedParameters reusables address raw.shared raw.operation.toOperationBody
      (prepare reusables address raw).value.parameters := by
  have eq : (prepare reusables address raw).value.parameters =
      ((raw.shared.map (followed reusables address)).filter fun p =>
        ¬ Overrides (raw.operation.parameters.map (followed reusables address)) p) ++
      raw.operation.parameters.map (followed reusables address) ++
      followedBody reusables address raw.operation.requestBody := by
    simp only [prepare, Noted.value_bind, Noted.value_mapM, Noted.value_pure, notOverridden_eq,
      value_bodyParameters_eq, value_followParameter]
    rfl
  have named : (∀ q ∈ raw.operation.parameters, (followed reusables address q).name ≠ "") →
      ∀ p, Overrides (raw.operation.parameters.map (followed reusables address)) p →
        p.name ≠ "" := by
    intro named p
    exact name_ne_empty_of_overrides (List.forall_mem_map.2 named)
  refine ⟨eq, fun h p _ => named h _, fun h p hp _ next unnamed => ?_⟩
  have hfollowed : followed reusables address p = p := by rw [followed, next, Option.getD_none]
  have hshared : p ∈ raw.shared.map (followed reusables address) :=
    List.mem_map.2 ⟨p, hp, hfollowed⟩
  rw [eq, List.append_assoc]
  refine List.mem_append_left _ (List.mem_filter.2 ⟨hshared, ?_⟩)
  rw [decide_eq_true_eq]
  exact fun overridden => named h p overridden unnamed

/-! ### Loaded documents -/

/-- The operations of a loaded document are those that are written in it, in order, each with the
parameters that its path shares, its own and the one of its request body. A shared parameter is
left out only where the operation has one of its name and location; in an operation whose
parameters all have names, it has a name then, so that a reference without a name is kept. -/
theorem load_merges_parameters {document : Json} {loaded : Noted Document}
    (h : load document = .ok loaded) :
    ∃ reusables, decodeReusables (unified document) = .ok reusables ∧
      List.Forall₂ (fun written o => o.path = written.path ∧ o.method = written.method ∧
          ∃ shared body, sharedParameters written.item = .ok shared ∧
            OperationBody.decode written.value = .ok body ∧
            MergedParameters reusables loaded.value.definitions.self shared body o.parameters)
        (writtenOperations (unified document)) loaded.value.operations := by
  obtain ⟨definitions, reusables, raws, -, hreusables, hraws, heq⟩ := exists_of_load h
  rw [← membersAt_one] at hraws
  refine ⟨reusables, hreusables, ?_⟩
  rw [heq, List.forall₂_map_right_iff]
  refine (forall₂_of_decodePaths hraws).imp ?_
  rintro written ⟨shared, operation⟩ ⟨hshared, body, hbody, rfl⟩
  exact ⟨rfl, rfl, shared, body, hshared, hbody, mergedParameters_prepare
    ⟨shared, { body with method := written.method, path := written.path }⟩⟩

/-- A document with one operation, whose path shares parameters. -/
def sharing (shared own : List Json) : Json :=
  .obj [("paths", .obj [("/pets", .obj [
    ("parameters", .arr shared),
    ("post", .obj [
      ("parameters", .arr own),
      ("requestBody", .obj [("content", .obj [("application/json", .obj [])])]),
      ("responses", .obj [])])])])]

/-- A reference to a parameter that is none. -/
def missing (name : String) : Json := .obj [("$ref", .str ("#/components/parameters/" ++ name))]

/-- A parameter of the query. -/
def inQuery (name : String) : Json := .obj [("name", .str name), ("in", .str "query")]

/-- The path shares a reference to nothing and two parameters, and the operation has one of these
too. -/
def paged : Json := sharing [missing "Filter", inQuery "limit", inQuery "page"] [inQuery "limit"]

/-- The path and the operation have a reference to nothing each. -/
def unresolving : Json := sharing [missing "Filter"] [missing "Owner"]

lemma unified_paged : unified paged = paged := by
  have plain : withoutBooleanSchemas paged = paged := by
    simp [paged, sharing, missing, inQuery, withoutBooleanSchemas, Json.modify, Json.mapEntries,
      Entries.modify, plainParts, plainPartMembers, plainPartItems]
  rw [unified, plain]
  rfl

lemma unified_unresolving : unified unresolving = unresolving := by
  have plain : withoutBooleanSchemas unresolving = unresolving := by
    simp [unresolving, sharing, missing, withoutBooleanSchemas, Json.modify, Json.mapEntries,
      Entries.modify, plainParts, plainPartMembers, plainPartItems]
  rw [unified, plain]
  rfl

theorem load_merges_parameters_paged :
    ∃ loaded reusables, load paged = .ok loaded ∧
      decodeReusables (unified paged) = .ok reusables ∧
      List.Forall₂ (fun written o => o.path = written.path ∧ o.method = written.method ∧
          ∃ shared body, sharedParameters written.item = .ok shared ∧
            OperationBody.decode written.value = .ok body ∧
            MergedParameters reusables loaded.value.definitions.self shared body o.parameters)
        (writtenOperations (unified paged)) loaded.value.operations ∧
      loaded.value.operations.map (fun o => o.parameters.map fun p => p.name) =
        [["", "page", "limit", "Body"]] := by
  have hload : ∃ loaded, load paged = .ok loaded ∧
      loaded.value.operations.map (fun o => o.parameters.map fun p => p.name) =
        [["", "page", "limit", "Body"]] := by
    rw [show load paged = ofUnified (unified paged) from rfl, unified_paged]
    exact ⟨_, rfl, by cbv⟩
  obtain ⟨loaded, hload, hnames⟩ := hload
  obtain ⟨reusables, hreusables, hmerged⟩ := load_merges_parameters hload
  exact ⟨loaded, reusables, hload, hreusables, hmerged, hnames⟩

/-- The shared reference leads to no parameter, and the operation loses it. -/
theorem shared_reference_lost :
    ∃ loaded reusables written p, load unresolving = .ok loaded ∧
      decodeReusables (unified unresolving) = .ok reusables ∧
      writtenOperations (unified unresolving) = [written] ∧
      sharedParameters written.item = .ok [p] ∧
      p.reference = some "#/components/parameters/Filter" ∧
      reusables.nextParameter loaded.value.definitions.self p = none ∧
      loaded.value.operations.map (fun o => o.parameters.map fun p => p.reference) =
        [[some "#/components/parameters/Owner", none]] := by
  rw [show load unresolving = ofUnified (unified unresolving) from rfl, unified_unresolving]
  exact ⟨_, _, _, _, rfl, rfl, rfl, rfl, rfl, rfl, by cbv⟩

end OpenApiDoc.Document
