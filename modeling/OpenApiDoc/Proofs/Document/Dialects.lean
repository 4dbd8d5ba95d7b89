import OpenApiDoc.Proofs.Document.Modern
import OpenApiDoc.Proofs.Document.Preparation

/-!
# Both dialects load alike

A document of the older dialect and its modern form load to the same definitions and the same
operations, or both fail to load. A part may be decoded at another location then, so which fault
is reported may differ.

Reusable parts stand in one of two sections in each document, and the two are read into one
table. Lifting then does to the parts of the old document what the modern form has done already,
and leaves the parts of the modern one as they are.
-/

namespace OpenApiDoc.Document

variable {α β : Type} {R : α → β → Prop} {decode : Decoder α} {decode' : Decoder β}

/-! ### Sections -/

lemma part_alike {value value' : Json} {location location' : String}
    (h : Alike R (decode value) (decode' value')) :
    Alike R (part decode location value) (part decode' location' value') := by
  rw [part, part]
  generalize decode value = x at h ⊢
  generalize decode' value' = y at h ⊢
  cases h with
  | failed e e' => exact .failed _ _
  | done h => exact .done h

lemma sectionEntries_alike {entries entries' : List (String × Json)}
    {location location' : String}
    (h : Entries.Related (fun v v' => Alike R (decode v) (decode' v')) entries entries') :
    Alike (Entries.Related R) (sectionEntries decode location entries)
      (sectionEntries decode' location' entries') := by
  induction h with
  | nil => exact .done .nil
  | cons hentry _ ih =>
    rw [sectionEntries, sectionEntries]
    refine (part_alike hentry.2).bind fun a b hab => ih.bind fun rest rest' hrest => ?_
    exact .done (.cons ⟨hentry.1, hab⟩ hrest)

/-- The members at a path of a document; none if there is no object. -/
def membersAt (document : Json) (path : List String) : List (String × Json) :=
  ((document.at? path).bind Json.entries?).getD []

lemma decodeSection_of_empty {document : Json} {path : List String}
    (h : membersAt document path = []) : decodeSection decode document path = .ok [] :=
  congrArg (sectionEntries decode _) h

/-- Parts that stand in the old section of one document and in the new section of another are
read into one table, if they are decoded alike. -/
lemma decodeSections_moved {R : α → α → Prop} {document document' : Json} {old new : List String}
    (hnew : membersAt document new = []) (hold : membersAt document' old = [])
    (h : Entries.Related (fun v v' => Alike R (decode v) (decode v')) (membersAt document old)
      (membersAt document' new)) :
    Alike (Entries.Related R) (decodeSections decode document [new, old])
      (decodeSections decode document' [new, old]) := by
  have hmoved : Alike (Entries.Related R) (decodeSection decode document old)
      (decodeSection decode document' new) := sectionEntries_alike h
  simp only [decodeSections, List.mapM_cons, List.mapM_nil, decodeSection_of_empty hnew,
    decodeSection_of_empty hold]
  generalize decodeSection decode document old = x at hmoved ⊢
  generalize decodeSection decode document' new = y at hmoved ⊢
  cases hmoved with
  | failed e e' => exact .failed e e'
  | @done a b hab =>
    refine .done (Entries.Related.ofList ?_)
    simpa only [List.flatten_cons, List.flatten_nil, List.nil_append, List.append_nil] using hab

/-! ### Path items -/

lemma decodeMethods_alike {item item' : Json} {shared shared' : List Parameter} (path : String)
    (hshared : List.Forall₂ Parameter.Same shared shared') (methods : List Method)
    (h : ∀ method ∈ methods, Option.Rel
      (fun v v' => Alike OperationBody.Same (OperationBody.decode v) (OperationBody.decode v'))
      (item.get? method.key) (item'.get? method.key)) :
    Alike (List.Forall₂ RawOperation.Same) (decodeMethods path item shared methods)
      (decodeMethods path item' shared' methods) := by
  induction methods with
  | nil => exact .done .nil
  | cons method methods ih =>
    obtain ⟨hmethod, hrest⟩ := List.forall_mem_cons.1 h
    rw [decodeMethods, decodeMethods]
    generalize item.get? method.key = found at hmethod ⊢
    generalize item'.get? method.key = found' at hmethod ⊢
    cases hmethod with
    | none => exact ih hrest
    | some hvalue =>
      refine (part_alike hvalue).bind fun body body' hbody =>
        (ih hrest).bind fun rest rest' hr => ?_
      exact .done (.cons ⟨hshared, hbody, rfl, rfl⟩ hr)

lemma decodePathItem_alike {item item' : Json} (path : String)
    (hshared : Option.Rel (fun v v' => Alike (List.Forall₂ Parameter.Same)
      (Decoder.list Parameter.decode v) (Decoder.list Parameter.decode v'))
      (item.get? "parameters") (item'.get? "parameters"))
    (h : ∀ method ∈ Method.all, Option.Rel
      (fun v v' => Alike OperationBody.Same (OperationBody.decode v) (OperationBody.decode v'))
      (item.get? method.key) (item'.get? method.key)) :
    Alike (List.Forall₂ RawOperation.Same) (decodePathItem path item)
      (decodePathItem path item') := by
  rw [decodePathItem, decodePathItem]
  generalize item.get? "parameters" = found at hshared ⊢
  generalize item'.get? "parameters" = found' at hshared ⊢
  cases hshared with
  | none => exact decodeMethods_alike path .nil Method.all h
  | some hvalue =>
    exact (part_alike hvalue).bind fun _ _ hs => decodeMethods_alike path hs Method.all h

lemma decodePaths_alike {items items' : List (String × Json)}
    (h : Entries.Related (fun item item' => item.entries?.isNone = item'.entries?.isNone ∧
      ∀ path, Alike (List.Forall₂ RawOperation.Same) (decodePathItem path item)
        (decodePathItem path item')) items items') :
    Alike (List.Forall₂ RawOperation.Same) (decodePaths items) (decodePaths items') := by
  induction h with
  | nil => exact .done .nil
  | @cons entry entry' _ _ hentry _ ih =>
    obtain ⟨path, item⟩ := entry
    obtain ⟨path', item'⟩ := entry'
    obtain ⟨rfl, hobject, hitem⟩ := hentry
    dsimp only at hobject hitem
    rw [decodePaths, decodePaths, hobject]
    split
    · exact ih
    · refine (hitem path).bind fun operations operations' ho => ih.bind fun more more' hm => ?_
      exact .done (List.rel_append ho hm)

/-- A path item with its parameters and responses lifted. -/
def liftPathItem (item : Json) : Json :=
  (item.mapEntries (List.map liftPathMember)).mapValues
    (.modify "responses" (.mapValues liftResponse))

lemma get?_liftPathItem (key : String) (item : Json) :
    (liftPathItem item).get? key = (item.get? key).map fun v =>
      if key = "parameters" then
        (liftParameterList v).modify "responses" (.mapValues liftResponse)
      else inOperation liftParameterList (.mapValues liftResponse) v := by
  have hmember : liftPathMember = fun member => (member.1,
      if member.1 = "parameters" then liftParameterList member.2
      else member.2.modify "parameters" liftParameterList) := by
    funext member
    rw [liftPathMember]
    split <;> rfl
  rw [liftPathItem, hmember, Json.get?_mapValues, Json.get?_mapEntries_map
    (f := fun key v => if key = "parameters" then liftParameterList v
      else v.modify "parameters" liftParameterList), Option.map_map]
  congr 1
  funext v
  rw [Function.comp_apply]
  split <;> rfl

lemma get?_modernPathItem (key : String) (item : Json) :
    (modernPathItem item).get? key = (item.get? key).map fun v =>
      if key = "parameters" then v.mapItems modernParameter
      else if (Method.all.map Method.key).contains key then modernOperation v else v := by
  have hmember : modernPathMember = fun member => (member.1,
      if member.1 = "parameters" then member.2.mapItems modernParameter
      else if (Method.all.map Method.key).contains member.1 then modernOperation member.2
      else member.2) := by
    funext member
    rw [modernPathMember]
    split
    · rfl
    · split <;> rfl
  rw [modernPathItem, hmember, Json.get?_mapEntries_map
    (f := fun key v => if key = "parameters" then v.mapItems modernParameter
      else if (Method.all.map Method.key).contains key then modernOperation v else v)]

/-- Only a list is read as a list, so a change within objects makes no difference. -/
lemma list_modify (key : String) (f : Json → Json) (value : Json) :
    Decoder.list decode (value.modify key f) = Decoder.list decode value := by
  cases value <;> rfl

/-- A path item is decoded like its modern form. -/
lemma decode_liftPathItem {item : Json} (path : String) (hitem : item.WellKeyed) :
    Alike (List.Forall₂ RawOperation.Same) (decodePathItem path (liftPathItem item))
      (decodePathItem path (liftPathItem (modernPathItem item))) := by
  refine decodePathItem_alike path ?_ fun method hmethod => ?_
  · simp only [get?_liftPathItem, get?_modernPathItem, if_true, Option.map_map]
    cases hget : item.get? "parameters" with
    | none => exact .none
    | some v =>
      refine .some ?_
      simp only [Function.comp_apply, list_modify]
      exact decode_liftParameterList (hitem.get? hget)
  · have hkey : method.key ≠ "parameters" := by cases method <;> decide
    have hmem : (Method.all.map Method.key).contains method.key = true :=
      List.contains_iff_mem.2 (List.mem_map_of_mem hmethod)
    simp only [get?_liftPathItem, get?_modernPathItem, if_neg hkey, if_pos hmem, Option.map_map]
    cases hget : item.get? method.key with
    | none => exact .none
    | some v => exact .some (decode_liftOperation (hitem.get? hget))

/-! ### The parts of both documents -/

variable {members : List (String × Json)}

/-- A document with its parameters and responses lifted. -/
def lifted (document : Json) : Json := withLiftedResponses (withLiftedParameters document)

lemma get?_lifted (key : String) (D : Json) :
    (lifted D).get? key = (D.get? key).map fun v =>
      if key = "parameters" then v.mapValues liftParameter
      else if key = "components" then v.modify "parameters" (.mapValues liftParameter)
      else if key = "responses" then v.mapValues liftResponse
      else if key = "paths" then v.mapValues liftPathItem
      else v := by
  have hpaths : ∀ v : Json, (v.mapValues (.mapEntries (List.map liftPathMember))).mapValues
      (.mapValues (.modify "responses" (.mapValues liftResponse))) = v.mapValues liftPathItem :=
    Json.mapValues_mapValues _ _
  simp only [lifted, withLiftedResponses, withLiftedParameters, Json.get?_modify]
  by_cases h₁ : key = "parameters"
  · simp [h₁]
  by_cases h₂ : key = "components"
  · simp [h₂]
  by_cases h₃ : key = "responses"
  · simp [h₃]
  by_cases h₄ : key = "paths"
  · simp [h₄, Function.comp_def, hpaths]
  · simp [h₁, h₂, h₃, h₄]

lemma get?_toList_map {f : Json → Json} (key k : String) (value : Option Json) :
    Entries.get? k (value.toList.map fun v => (key, f v)) =
      if key = k then value.map f else none := by
  cases value with
  | none => simp
  | some v => simp [Entries.get?_cons]

lemma get?_modernComponents (key : String) :
    Entries.get? key (modernComponents members) =
      if key = "schemas" then Entries.get? "definitions" members
      else if key = "parameters" then
        (Entries.get? "parameters" members).map (Json.mapValues modernParameter)
      else if key = "responses" then
        (Entries.get? "responses" members).map (Json.mapValues modernResponse)
      else none := by
  rw [modernComponents, Entries.get?_append, Entries.get?_append,
    get?_toList_map (f := fun v => v), get?_toList_map, get?_toList_map]
  by_cases h₁ : key = "schemas"
  · simp [h₁]
  by_cases h₂ : key = "parameters"
  · simp [h₂]
  by_cases h₃ : key = "responses"
  · simp [h₃]
  · simp [h₁, h₂, h₃, Ne.symm h₁, Ne.symm h₂, Ne.symm h₃]

lemma get?_modern (old : Entries.get? "components" members = none) (key : String) :
    (modern (.obj members)).get? key =
      if key = "components" then some (.obj (modernComponents members))
      else if key = "definitions" ∨ key = "parameters" ∨ key = "responses" then none
      else (Entries.get? key members).map fun v =>
        if key = "paths" then v.mapValues modernPathItem else v := by
  rw [modern, Json.get?_obj, Entries.get?_append, Entries.get?_modify, Entries.get?_filter
    (p := fun key => !sectionKeys.contains key)]
  by_cases hcomponents : key = "components"
  · simp [hcomponents, old, Entries.get?_cons]
  · have hlast : Entries.get? key [("components", Json.obj (modernComponents members))] = none :=
      if_neg (Ne.symm hcomponents)
    rw [hlast, Option.or_none, if_neg hcomponents]
    by_cases hmoved : key = "definitions" ∨ key = "parameters" ∨ key = "responses"
    · rcases hmoved with rfl | rfl | rfl <;> simp [sectionKeys]
    · by_cases hpaths : key = "paths" <;> simp [sectionKeys, hmoved, hpaths]

/-! ### Sections of both documents -/

lemma membersAt_one (document : Json) (key : String) :
    membersAt document [key] = ((document.get? key).bind Json.entries?).getD [] := by
  rw [membersAt, Json.at?]
  cases document.get? key <;> rfl

lemma membersAt_two (document : Json) (key key' : String) :
    membersAt document [key, key'] =
      (((document.get? key).bind fun v => v.get? key').bind Json.entries?).getD [] := by
  rw [membersAt, Json.at?]
  cases document.get? key with
  | none => rfl
  | some v => exact membersAt_one v key'

lemma members_mapValues (f : Json → Json) (value : Option Json) :
    ((value.map (Json.mapValues f)).bind Json.entries?).getD [] =
      Entries.mapValues f ((value.bind Json.entries?).getD []) := by
  cases value with
  | none => rfl
  | some v => cases v <;> rfl

/-- There are no new sections in an old document. -/
lemma membersAt_lifted_new (old : Entries.get? "components" members = none) (key : String) :
    membersAt (lifted (.obj members)) ["components", key] = [] := by
  rw [membersAt_two, get?_lifted, Json.get?_obj, old]
  rfl

/-- There are no old sections in a modern document. -/
lemma membersAt_modern_old (old : Entries.get? "components" members = none) {key : String}
    (h : key = "definitions" ∨ key = "parameters" ∨ key = "responses") :
    membersAt (lifted (modern (.obj members))) [key] = [] := by
  rw [membersAt_one, get?_lifted, get?_modern old, if_pos h]
  rcases h with rfl | rfl | rfl <;> rfl

lemma membersAt_modern_new (old : Entries.get? "components" members = none) (key : String) :
    membersAt (lifted (modern (.obj members))) ["components", key] =
      (((Entries.get? key (modernComponents members)).map fun v =>
        if key = "parameters" then v.mapValues liftParameter else v).bind
          Json.entries?).getD [] := by
  rw [membersAt_two, get?_lifted, get?_modern old]
  by_cases h : key = "parameters" <;> simp [h, Json.get?_modify]

lemma decodeDefinitions_modern (old : Entries.get? "components" members = none) :
    Alike Eq (decodeDefinitions (lifted (.obj members)))
      (decodeDefinitions (lifted (modern (.obj members)))) := by
  have hself :
      selfAddress (lifted (modern (.obj members))) = selfAddress (lifted (.obj members)) := by
    simp [selfAddress, get?_lifted, get?_modern old]
  have hmoved : membersAt (lifted (modern (.obj members))) ["components", "schemas"] =
      membersAt (lifted (.obj members)) ["definitions"] := by
    rw [membersAt_modern_new old, membersAt_one, get?_lifted]
    simp [get?_modernComponents]
  rw [decodeDefinitions, decodeDefinitions, hself]
  refine (decodeSections_moved (R := Eq) (membersAt_lifted_new old _)
    (membersAt_modern_old old (.inl rfl)) ?_).bind fun entries entries' h => ?_
  · rw [hmoved]
    exact List.forall₂_same.2 fun entry _ => ⟨rfl, .refl (fun _ => rfl) _⟩
  · rw [Entries.related_eq.1 h]
    exact .done rfl

lemma wellKeyed_of_mem_membersAt {D : Json} (wellKeyed : D.WellKeyed) {path : List String}
    {m : String × Json} (hm : m ∈ membersAt D path) : m.2.WellKeyed := by
  induction path generalizing D with
  | nil => exact wellKeyed.of_mem_entries? hm
  | cons key rest ih =>
    cases hget : D.get? key with
    | none => simp [membersAt, Json.at?, hget] at hm
    | some v =>
      refine ih (wellKeyed.get? hget) ?_
      simpa [membersAt, Json.at?, hget] using hm

lemma decodeParameters_modern (wellKeyed : (Json.obj members).WellKeyed)
    (old : Entries.get? "components" members = none) :
    Alike (Entries.Related Parameter.Same)
      (decodeSections Parameter.decode (lifted (.obj members))
        [["components", "parameters"], ["parameters"]])
      (decodeSections Parameter.decode (lifted (modern (.obj members)))
        [["components", "parameters"], ["parameters"]]) := by
  refine decodeSections_moved (membersAt_lifted_new old _)
    (membersAt_modern_old old (.inr (.inl rfl))) ?_
  have hold : membersAt (lifted (.obj members)) ["parameters"] =
      Entries.mapValues liftParameter (membersAt (.obj members) ["parameters"]) := by
    simp [membersAt_one, get?_lifted, members_mapValues]
  have hnew : membersAt (lifted (modern (.obj members))) ["components", "parameters"] =
      Entries.mapValues (liftParameter ∘ modernParameter)
        (membersAt (.obj members) ["parameters"]) := by
    simp [membersAt_modern_new old, membersAt_one, get?_modernComponents, ← members_mapValues,
      Function.comp_def, Json.mapValues_mapValues]
  rw [hold, hnew, Entries.related_mapValues]
  intro m hm
  have hwell := wellKeyed_of_mem_membersAt wellKeyed hm
  rw [Function.comp_apply, liftParameter_modern hwell]
  exact decode_liftParameter hwell

lemma decodeResponses_modern (wellKeyed : (Json.obj members).WellKeyed)
    (old : Entries.get? "components" members = none) :
    Alike (Entries.Related Eq)
      (decodeSections Response.decode (lifted (.obj members))
        [["components", "responses"], ["responses"]])
      (decodeSections Response.decode (lifted (modern (.obj members)))
        [["components", "responses"], ["responses"]]) := by
  refine decodeSections_moved (membersAt_lifted_new old _)
    (membersAt_modern_old old (.inr (.inr rfl))) ?_
  have hold : membersAt (lifted (.obj members)) ["responses"] =
      Entries.mapValues liftResponse (membersAt (.obj members) ["responses"]) := by
    simp [membersAt_one, get?_lifted, members_mapValues]
  have hnew : membersAt (lifted (modern (.obj members))) ["components", "responses"] =
      Entries.mapValues modernResponse (membersAt (.obj members) ["responses"]) := by
    simp [membersAt_modern_new old, membersAt_one, get?_modernComponents, ← members_mapValues,
      Function.comp_def]
  rw [hold, hnew, Entries.related_mapValues]
  exact fun m hm => decode_liftResponse (wellKeyed_of_mem_membersAt wellKeyed hm)

lemma decodeReusables_modern (wellKeyed : (Json.obj members).WellKeyed)
    (old : Entries.get? "components" members = none) :
    Alike Reusables.Same (decodeReusables (lifted (.obj members)))
      (decodeReusables (lifted (modern (.obj members)))) := by
  have hbodies : decodeSections RequestBody.decode (lifted (.obj members))
      [["components", "requestBodies"]] = decodeSections RequestBody.decode
        (lifted (modern (.obj members))) [["components", "requestBodies"]] := by
    have hnone :
        membersAt (lifted (modern (.obj members))) ["components", "requestBodies"] = [] := by
      simp [membersAt_modern_new old, get?_modernComponents]
    simp only [decodeSections, List.mapM_cons, List.mapM_nil, decodeSection_of_empty hnone,
      decodeSection_of_empty (membersAt_lifted_new old _)]
  rw [decodeReusables, decodeReusables, hbodies]
  refine (decodeParameters_modern wellKeyed old).bind fun parameters parameters' hp => ?_
  refine (Alike.refl (R := Eq) (fun _ => rfl) _).bind ?_
  rintro bodies _ rfl
  refine (decodeResponses_modern wellKeyed old).bind fun responses responses' hr => ?_
  exact .done ⟨hp, rfl, Entries.related_eq.1 hr⟩

lemma decodePaths_modern (wellKeyed : (Json.obj members).WellKeyed)
    (old : Entries.get? "components" members = none) :
    Alike (List.Forall₂ RawOperation.Same)
      (decodePaths (membersAt (lifted (.obj members)) ["paths"]))
      (decodePaths (membersAt (lifted (modern (.obj members))) ["paths"])) := by
  refine decodePaths_alike ?_
  have hold : membersAt (lifted (.obj members)) ["paths"] =
      Entries.mapValues liftPathItem (membersAt (.obj members) ["paths"]) := by
    simp [membersAt_one, get?_lifted, members_mapValues]
  have hnew : membersAt (lifted (modern (.obj members))) ["paths"] =
      Entries.mapValues (liftPathItem ∘ modernPathItem)
        (membersAt (.obj members) ["paths"]) := by
    simp [get?_lifted, get?_modern old, membersAt_one, ← members_mapValues,
      Function.comp_def, Json.mapValues_mapValues]
  rw [hold, hnew, Entries.related_mapValues]
  intro m hm
  refine ⟨?_, fun path => decode_liftPathItem path (wellKeyed_of_mem_membersAt wellKeyed hm)⟩
  simp [liftPathItem, modernPathItem, Json.entries?_mapEntries, Json.entries?_mapValues]

/-! ### Loading -/

/-- Two documents have the same definitions and the same operations; the unknown members of a
parameter are a map, so their order does not count. -/
structure Same (d d' : Document) : Prop where
  definitions : d.definitions = d'.definitions
  operations : List.Forall₂ Operation.Same d.operations d'.operations

/-- Documents whose definitions, reusable parts and paths are decoded alike are read alike. -/
lemma ofUnified_alike {D D' : Json}
    (hdefinitions : Alike Eq (decodeDefinitions D) (decodeDefinitions D'))
    (hreusables : Alike Reusables.Same (decodeReusables D) (decodeReusables D'))
    (hpaths : Alike (List.Forall₂ RawOperation.Same) (decodePaths (membersAt D ["paths"]))
      (decodePaths (membersAt D' ["paths"]))) :
    Alike (fun d d' : Noted Document => d.value.Same d'.value) (ofUnified D) (ofUnified D') := by
  rw [membersAt_one, membersAt_one] at hpaths
  rw [ofUnified, ofUnified]
  refine hdefinitions.bind ?_
  rintro definitions _ rfl
  refine hreusables.bind fun reusables reusables' hr => hpaths.bind fun raw raw' hraw => ?_
  constructor
  constructor
  · simp only [Noted.value_bind, Noted.value_pure]
  · simp only [Noted.value_bind, Noted.value_mapM, Noted.value_pure, List.forall₂_map_left_iff,
      List.forall₂_map_right_iff]
    exact hraw.imp fun _ _ => prepare_same hr

lemma load_of_plain {D : Json} (object : D.entries?.isSome = true)
    (plain : withoutConst (withoutBooleanSchemas D) = D) : load D = ofUnified (lifted D) := by
  cases D with
  | obj members => rw [load, unified, plain, lifted]
  | _ => cases object

/-- A document of the older dialect and its modern form both fail to load, or they load
to the same definitions and operations, if there are no Boolean schemas and no
constants to be rewritten. -/
theorem load_modern {D : Json} (wellKeyed : D.WellKeyed) (old : D.get? "components" = none)
    (plain : withoutConst (withoutBooleanSchemas D) = D)
    (modernPlain : withoutConst (withoutBooleanSchemas (modern D)) = modern D) :
    Alike (fun d d' : Noted Document => d.value.Same d'.value) (load D) (load (modern D)) := by
  cases D with
  | obj members =>
    have object : (modern (.obj members)).entries?.isSome = true := by
      rw [modern, Json.entries?, Option.isSome_some]
    rw [load_of_plain rfl plain, load_of_plain object modernPlain]
    exact ofUnified_alike (decodeDefinitions_modern old) (decodeReusables_modern wellKeyed old)
      (decodePaths_modern wellKeyed old)
  | _ => exact .failed _ _

/-- A document of the older dialect: a parameter, a response and an operation with one of each of
its own, which the modern form writes differently. -/
def petStore : Json :=
  .obj [
    ("swagger", .str "2.0"),
    ("definitions", .obj [("Pet", .obj [
      ("type", .str "object"),
      ("properties", .obj [("name", .obj [("type", .str "string")])])])]),
    ("parameters", .obj [("Limit", .obj [
      ("name", .str "limit"), ("in", .str "query"), ("type", .str "integer"),
      ("x-unit", .str "pets"), ("format", .str "int32")])]),
    ("responses", .obj [("Pets", .obj [
      ("description", .str "The pets."),
      ("schema", .obj [("$ref", .str "#/definitions/Pet")]),
      ("examples", .obj [("application/json", .obj [("name", .str "Rex")])])])]),
    ("paths", .obj [("/pets", .obj [
      ("parameters", .arr [.obj [("$ref", .str "#/parameters/Limit")]]),
      ("get", .obj [
        ("parameters", .arr [.obj [
          ("name", .str "tag"), ("in", .str "query"), ("type", .str "string")]]),
        ("responses", .obj [
          ("200", .obj [("$ref", .str "#/responses/Pets")]),
          ("404", .obj [
            ("description", .str "None."), ("schema", .obj [("type", .str "string")])])])])])])]

/-- The document loads, with the shared parameter followed and put first, and so does its modern
form. -/
theorem load_modern_petStore :
    (load petStore).toOption.map (fun d => d.value.operations.map fun o =>
      o.parameters.map Parameter.name) = some [["limit", "tag"]] ∧
    Alike (fun d d' : Noted Document => d.value.Same d'.value) (load petStore)
      (load (modern petStore)) := by
  have wellKeyed : petStore.WellKeyed := by
    simp [petStore, Json.WellKeyed, Json.WellKeyedEntries, Json.WellKeyedItems, Entries.keys]
  have booleans : withoutBooleanSchemas petStore = petStore := by
    simp [petStore, withoutBooleanSchemas, Json.modify, Json.mapEntries, Entries.modify,
      Json.mapValues, Entries.mapValues, plainParts, plainPartMembers, plainPartItems,
      plainSchema, plainMembers, plainKeyword, plainValues]
  have modernBooleans : withoutBooleanSchemas (modern petStore) = modern petStore := by
    simp [petStore, modern, modernPathItem, modernPathMember, modernOperation, modernComponents,
      sectionKeys, contentKeys, modernParameter, modernResponse, holdsInline, holdsOwnContent,
      mediaTypes, inlineKeywords, Method.all, Method.key, Entries.has, Entries.get?, Json.str?,
      Json.entries?, Json.mapItems, withoutBooleanSchemas, Json.modify, Json.mapEntries,
      Entries.modify, Json.mapValues, Entries.mapValues, plainParts, plainPartMembers,
      plainPartItems, plainSchema, plainMembers, plainKeyword, plainValues]
  have plain : withoutConst (withoutBooleanSchemas petStore) = petStore := by
    rw [booleans]
    rfl
  have modernPlain :
      withoutConst (withoutBooleanSchemas (modern petStore)) = modern petStore := by
    rw [modernBooleans]
    rfl
  constructor
  · rw [load_of_plain rfl plain]
    rfl
  · exact load_modern wellKeyed rfl plain modernPlain

end OpenApiDoc.Document
