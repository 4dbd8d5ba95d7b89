import OpenApiDoc.Proofs.Document.Dialects
import OpenApiDoc.Proofs.Document.Reading

/-!
# The parts of a document in the order of loading

A document in the unified shape is a sequence of parts, each decoded by itself. The first part
with a fault is why the document is not read. Where no part has one, every part for a method
makes one operation and every named schema makes its definition, and there are no others.

A reading is compared with a list of parts by `InOrder`. Readings one after the other go through
the two lists one after the other, so the functions of the loader are taken up one by one.
-/

namespace OpenApiDoc

/-- The fault that a decoder finds in a value. -/
def Decoder.fault? {α : Type} (decode : Decoder α) (v : Json) : Option DecodeFault :=
  match decode v with
  | .ok _ => none
  | .error fault => some fault

namespace Document

variable {α β : Type} {D : Json}

/-! ### Parts -/

/-- What a part of a document is decoded as. -/
inductive PartKind where
  | definition (name : String)
  | parameter
  | requestBody
  | response
  /-- The parameters that a path shares among its operations. -/
  | sharedParameters
  | operation (path : String) (method : Method)

/-- The fault in a value of a part of this kind. -/
def PartKind.fault? : PartKind → Json → Option DecodeFault
  | .definition _, v => Decoder.fault? Schema.decode v
  | .parameter, v => Decoder.fault? Parameter.decode v
  | .requestBody, v => Decoder.fault? RequestBody.decode v
  | .response, v => Decoder.fault? Response.decode v
  | .sharedParameters, v => Decoder.fault? (Decoder.list Parameter.decode) v
  | .operation _ _, v => Decoder.fault? OperationBody.decode v

/-- A part of a document before it is decoded, with the location under which it is reported. -/
structure RawPart where
  kind : PartKind
  location : String
  value : Json

namespace RawPart

/-- The fault in a part. -/
def fault? (p : RawPart) : Option DecodeFault := p.kind.fault? p.value

/-- The name and the schema of a definition. -/
def definition? (p : RawPart) : Option (String × Json) :=
  match p.kind with
  | .definition name => some (name, p.value)
  | _ => none

/-- The path, the method and the value of an operation. -/
def operation? (p : RawPart) : Option (String × Method × Json) :=
  match p.kind with
  | .operation path method => some (path, method, p.value)
  | _ => none

end RawPart

/-- The entries of a section as parts at a location. -/
def entryParts (kind : String → PartKind) (location : String) (members : List (String × Json)) :
    List RawPart :=
  members.map fun m => ⟨kind m.1, location ++ "." ++ m.1, m.2⟩

/-- The parts in the sections at some paths of keys. -/
def sectionParts (kind : String → PartKind) (document : Json) (paths : List (List String)) :
    List RawPart :=
  paths.flatMap fun path => entryParts kind (".".intercalate path) (membersAt document path)

/-- The operations of a path item, by the methods that it has. -/
def methodParts (path : String) (item : Json) (methods : List Method) : List RawPart :=
  methods.filterMap fun method => (item.get? method.key).map fun value =>
    ⟨.operation path method, "paths." ++ path ++ "." ++ method.key, value⟩

/-- The parts of a path item: the shared parameters, then the operations. -/
def itemParts (path : String) (item : Json) : List RawPart :=
  ((item.get? "parameters").map fun value =>
    ⟨.sharedParameters, "paths." ++ path ++ ".parameters", value⟩).toList ++
  methodParts path item Method.all

/-- The parts of all paths but vendor extensions and items that are no object. -/
def pathParts (items : List (String × Json)) : List RawPart :=
  (items.filter fun m => !isExtensionKey m.1 && m.2.entries?.isSome).flatMap fun m =>
    itemParts m.1 m.2

/-- The reusable parts. -/
def reusableParts (document : Json) : List RawPart :=
  sectionParts (fun _ => .parameter) document [["components", "parameters"], ["parameters"]] ++
  (sectionParts (fun _ => .requestBody) document [["components", "requestBodies"]] ++
  sectionParts (fun _ => .response) document [["components", "responses"], ["responses"]])

/-- The parts of a document in the unified shape, in the order in which they are decoded. -/
def parts (document : Json) : List RawPart :=
  sectionParts .definition document [["components", "schemas"], ["definitions"]] ++
  (reusableParts document ++ pathParts (membersAt document ["paths"]))

/-! ### Reading parts in order -/

/-- The fault of the first part that has one, reported at the location of that part. -/
def firstFault? (parts : List RawPart) : Option LoadFault :=
  parts.findSome? fun p => p.fault?.map (.undecodable p.location)

lemma firstFault?_append (ps qs : List RawPart) :
    firstFault? (ps ++ qs) = (firstFault? ps).or (firstFault? qs) := List.findSome?_append

lemma firstFault?_eq_none {ps : List RawPart} :
    firstFault? ps = none ↔ ∀ p ∈ ps, p.fault? = none := by
  simp [firstFault?]

lemma firstFault?_eq_some {ps : List RawPart} {fault : LoadFault} :
    firstFault? ps = some fault ↔ ∃ before p after found, ps = before ++ p :: after ∧
      (∀ q ∈ before, q.fault? = none) ∧ p.fault? = some found ∧
      fault = .undecodable p.location found := by
  simp only [firstFault?, List.findSome?_eq_some_iff, Option.map_eq_some_iff,
    Option.map_eq_none_iff]
  constructor
  · rintro ⟨before, p, after, heq, ⟨found, hp, rfl⟩, clear⟩
    exact ⟨before, p, after, found, heq, clear, hp, rfl⟩
  · rintro ⟨before, p, after, found, heq, clear, hp, rfl⟩
    exact ⟨before, p, after, heq, ⟨found, hp, rfl⟩, clear⟩

/-- A reading goes through some parts in order: it fails with the first fault, and where there is
none, it gives a value with a property. -/
inductive InOrder (ps : List RawPart) (P : α → Prop) : Except LoadFault α → Prop where
  | failed {fault : LoadFault} (first : firstFault? ps = some fault) :
      InOrder ps P (.error fault)
  | done {a : α} (clear : firstFault? ps = none) (holds : P a) : InOrder ps P (.ok a)

namespace InOrder

variable {ps qs : List RawPart} {P : α → Prop} {Q : β → Prop} {x : Except LoadFault α}

lemma bind {f : α → Except LoadFault β} (h : InOrder ps P x)
    (hf : ∀ a, P a → InOrder qs Q (f a)) : InOrder (ps ++ qs) Q (x >>= f) := by
  cases h with
  | failed first =>
    apply InOrder.failed
    rw [firstFault?_append, first, Option.some_or]
  | @done a clear holds =>
    change InOrder (ps ++ qs) Q (f a)
    have happend : firstFault? (ps ++ qs) = firstFault? qs := by
      rw [firstFault?_append, clear, Option.none_or]
    have hrest := hf a holds
    generalize f a = y at hrest ⊢
    cases hrest with
    | failed first => exact .failed (happend.trans first)
    | done clear holds => exact .done (happend.trans clear) holds

/-- After a reading its value is put into another form. -/
lemma pure {f : α → β} (h : InOrder ps P x) (hf : ∀ a, P a → Q (f a)) :
    InOrder ps Q (do Pure.pure (f (← x))) := by
  cases h with
  | failed first => exact .failed first
  | done clear holds => exact .done clear (hf _ holds)

lemma eq_error_iff (h : InOrder ps P x) {fault : LoadFault} :
    x = .error fault ↔ firstFault? ps = some fault := by
  cases h with
  | failed first => simp [first]
  | done clear => simp [clear]

lemma isOk_iff (h : InOrder ps P x) : (∃ a, x = .ok a) ↔ firstFault? ps = none := by
  cases h with
  | failed first => simp [first]
  | done clear => simp [clear]

lemma holds (h : InOrder ps P x) {a : α} (hx : x = .ok a) : P a := by
  subst hx
  cases h with
  | done _ holds => exact holds

end InOrder

lemma inOrder_part {decode : Decoder α} {kind : PartKind} {location : String} {v : Json}
    (hkind : kind.fault? v = decode.fault? v) :
    InOrder [⟨kind, location, v⟩] (fun a => decode v = .ok a) (part decode location v) := by
  have hfault : firstFault? [⟨kind, location, v⟩] =
      (decode.fault? v).map (.undecodable location) := by
    rw [← hkind]
    simp [firstFault?, RawPart.fault?]
  rw [part]
  rw [Decoder.fault?] at hfault
  cases hdecode : decode v with
  | ok a => exact .done (by rw [hfault, hdecode]; rfl) rfl
  | error fault => exact .failed (by rw [hfault, hdecode]; rfl)

/-! ### Sections -/

section Sections

variable {decode : Decoder α} {kind : String → PartKind}

/-- Entries are decoded one by one, under their names. -/
def Decoded (decode : Decoder α) : List (String × Json) → List (String × α) → Prop :=
  Entries.Related fun v a => decode v = .ok a

lemma inOrder_sectionEntries (hkind : ∀ name v, (kind name).fault? v = decode.fault? v)
    (location : String) (members : List (String × Json)) :
    InOrder (entryParts kind location members) (Decoded decode members)
      (sectionEntries decode location members) := by
  induction members with
  | nil => exact .done rfl .nil
  | cons m rest ih =>
    rw [sectionEntries]
    apply (inOrder_part (hkind m.1 m.2)).bind
    intro decoded hdecoded
    apply ih.pure
    intro more hmore
    exact .cons ⟨rfl, hdecoded⟩ hmore

lemma inOrder_sections (hkind : ∀ name v, (kind name).fault? v = decode.fault? v)
    (paths : List (List String)) :
    InOrder (sectionParts kind D paths)
      (fun found => Decoded decode (paths.flatMap (membersAt D)) found.flatten)
      (paths.mapM (decodeSection decode D)) := by
  induction paths with
  | nil => exact .done rfl .nil
  | cons path rest ih =>
    rw [List.mapM_cons]
    apply (inOrder_sectionEntries hkind (".".intercalate path) (membersAt D path)).bind
    intro first hfirst
    apply ih.pure
    intro more hmore
    exact List.rel_append hfirst hmore

/-- A table holds what the entries are decoded to: every name in the place where it occurs first,
with the last value. -/
lemma inOrder_decodeSections (decode : Decoder α)
    (hkind : ∀ name v, (kind name).fault? v = decode.fault? v) (paths : List (List String)) :
    InOrder (sectionParts kind D paths)
      (fun found => ∃ all, Decoded decode (paths.flatMap (membersAt D)) all ∧
        found = Entries.ofList all)
      (decodeSections decode D paths) := by
  rw [decodeSections]
  apply (inOrder_sections hkind paths).pure
  intro found hfound
  exact ⟨found.flatten, hfound, rfl⟩

end Sections

/-! ### Path items -/

/-- An operation is decoded from a value, under a path and a method. -/
def RawOperation.DecodedFrom (part : String × Method × Json) (raw : RawOperation) : Prop :=
  ∃ body, OperationBody.decode part.2.2 = .ok body ∧
    raw.operation = { body with path := part.1, method := part.2.1 }

/-- There is one operation for each part that is one, in order. -/
def Operations (ps : List RawPart) (raws : List RawOperation) : Prop :=
  List.Forall₂ RawOperation.DecodedFrom (ps.filterMap RawPart.operation?) raws

lemma Operations.append {ps qs : List RawPart} {raws more : List RawOperation}
    (h : Operations ps raws) (h' : Operations qs more) :
    Operations (ps ++ qs) (raws ++ more) := by
  rw [Operations, List.filterMap_append]
  exact List.rel_append h h'

lemma inOrder_decodeMethods (path : String) (item : Json) (shared : List Parameter)
    (methods : List Method) :
    InOrder (methodParts path item methods) (Operations (methodParts path item methods))
      (decodeMethods path item shared methods) := by
  induction methods with
  | nil => exact .done rfl .nil
  | cons method methods ih =>
    rw [decodeMethods, methodParts, List.filterMap_cons]
    cases item.get? method.key with
    | none => exact ih
    | some value =>
      apply (inOrder_part rfl).bind
      intro body hbody
      apply ih.pure
      intro more hmore
      exact .cons ⟨body, hbody, rfl⟩ hmore

lemma inOrder_decodePathItem (path : String) (item : Json) :
    InOrder (itemParts path item) (Operations (itemParts path item))
      (decodePathItem path item) := by
  rw [decodePathItem, itemParts]
  cases item.get? "parameters" with
  | none => exact inOrder_decodeMethods path item [] Method.all
  | some value =>
    apply (inOrder_part rfl).bind
    intro shared _
    exact inOrder_decodeMethods path item shared Method.all

lemma inOrder_decodePaths (items : List (String × Json)) :
    InOrder (pathParts items) (Operations (pathParts items)) (decodePaths items) := by
  induction items with
  | nil => exact .done rfl .nil
  | cons m rest ih =>
    obtain ⟨path, item⟩ := m
    rw [decodePaths_cons, pathParts, List.filter_cons]
    by_cases hread : (!isExtensionKey path && item.entries?.isSome) = true
    · rw [if_pos hread, if_pos hread]
      apply (inOrder_decodePathItem path item).bind
      intro operations hoperations
      apply ih.pure
      intro more hmore
      exact hoperations.append hmore
    · rw [if_neg hread, if_neg hread]
      exact ih

/-! ### Documents -/

/-- The operation that a part makes: its references are followed, so that parameters and
responses may change, and nothing else is. -/
structure MadeFrom (part : String × Method × Json) (o : Operation) : Prop where
  path : o.path = part.1
  method : o.method = part.2.1
  body : ∃ body, OperationBody.decode part.2.2 = .ok body ∧
    o.toOperationBody = { body with parameters := o.parameters, responses := o.responses } ∧
    Entries.keys o.responses = Entries.keys body.responses

/-- A document is made of parts: one operation for each part that is one, in
order, and the definitions by their distinct names in the order of first
occurrence, each from its last schema. -/
structure MadeOf (ps : List RawPart) (d : Document) : Prop where
  operations : List.Forall₂ MadeFrom (ps.filterMap RawPart.operation?) d.operations
  names : d.definitions.names = (Entries.keys (ps.filterMap RawPart.definition?)).eraseDups
  schemas : ∀ name, Option.Rel (fun v s => Schema.decode v = .ok s)
    (Entries.get? name (ps.filterMap RawPart.definition?).reverse) (d.definitions.get? name)

/-! ### Which parts a document has -/

lemma filterMap_sectionParts_eq_nil {f : RawPart → Option β} {kind : String → PartKind}
    (hkind : ∀ name location v, f ⟨kind name, location, v⟩ = none) (paths : List (List String)) :
    (sectionParts kind D paths).filterMap f = [] := by
  rw [List.filterMap_eq_nil_iff]
  intro p hp
  simp only [sectionParts, entryParts, List.mem_flatMap, List.mem_map] at hp
  obtain ⟨path, -, m, -, rfl⟩ := hp
  exact hkind _ _ _

/-- Reusable parts are neither definitions nor operations. -/
lemma filterMap_reusableParts_eq_nil {f : RawPart → Option β}
    (parameter : ∀ location v, f ⟨.parameter, location, v⟩ = none)
    (requestBody : ∀ location v, f ⟨.requestBody, location, v⟩ = none)
    (response : ∀ location v, f ⟨.response, location, v⟩ = none) (D : Json) :
    (reusableParts D).filterMap f = [] := by
  rw [reusableParts, List.filterMap_append, List.filterMap_append,
    filterMap_sectionParts_eq_nil fun _ => parameter,
    filterMap_sectionParts_eq_nil fun _ => requestBody,
    filterMap_sectionParts_eq_nil fun _ => response]
  rfl

lemma filterMap_definition?_pathParts (items : List (String × Json)) :
    (pathParts items).filterMap RawPart.definition? = [] := by
  rw [List.filterMap_eq_nil_iff]
  intro p hp
  simp only [pathParts, itemParts, methodParts, List.mem_flatMap, List.mem_append,
    Option.mem_toList, Option.map_eq_some_iff, List.mem_filterMap] at hp
  obtain ⟨m, -, ⟨v, -, rfl⟩ | ⟨method, -, v, -, rfl⟩⟩ := hp <;> rfl

/-- The operations of a document are parts of its paths. -/
lemma operations_parts (D : Json) : (parts D).filterMap RawPart.operation? =
    (pathParts (membersAt D ["paths"])).filterMap RawPart.operation? := by
  rw [parts, List.filterMap_append, List.filterMap_append,
    filterMap_sectionParts_eq_nil fun _ _ _ => rfl,
    filterMap_reusableParts_eq_nil (fun _ _ => rfl) (fun _ _ => rfl) fun _ _ => rfl]
  rfl

lemma filterMap_definition?_entryParts (location : String) (members : List (String × Json)) :
    (entryParts .definition location members).filterMap RawPart.definition? = members := by
  induction members with
  | nil => rfl
  | cons m rest ih => exact congrArg (m :: ·) ih

/-- The definitions of a document are the entries of its two sections of schemas. -/
lemma definitions_parts (D : Json) : (parts D).filterMap RawPart.definition? =
    [["components", "schemas"], ["definitions"]].flatMap (membersAt D) := by
  rw [parts, List.filterMap_append, List.filterMap_append, filterMap_definition?_pathParts,
    filterMap_reusableParts_eq_nil (fun _ _ => rfl) (fun _ _ => rfl) fun _ _ => rfl]
  simp [sectionParts, filterMap_definition?_entryParts]

/-! ### Loading -/

lemma inOrder_decodeDefinitions (D : Json) :
    InOrder (sectionParts .definition D [["components", "schemas"], ["definitions"]])
      (fun definitions => ∃ all,
        Decoded Schema.decode ((parts D).filterMap RawPart.definition?) all ∧
        definitions.entries = Entries.ofList all)
      (decodeDefinitions D) := by
  rw [decodeDefinitions, definitions_parts]
  apply InOrder.pure (inOrder_decodeSections Schema.decode (fun _ _ => rfl) _)
  rintro _ ⟨all, hall, rfl⟩
  exact ⟨all, hall, Entries.ofList_eq_self (Entries.nodup_keys_ofList all)⟩

lemma inOrder_decodeReusables (D : Json) :
    InOrder (reusableParts D) (fun _ => True) (decodeReusables D) := by
  rw [decodeReusables, reusableParts]
  apply InOrder.bind (inOrder_decodeSections Parameter.decode (fun _ _ => rfl) _)
  intro parameters _
  apply InOrder.bind (inOrder_decodeSections RequestBody.decode (fun _ _ => rfl) _)
  intro requestBodies _
  apply InOrder.pure (inOrder_decodeSections Response.decode (fun _ _ => rfl) _)
  exact fun _ _ => trivial

/-- Following the references of an operation leaves the rest of it as decoded. -/
lemma madeFrom_prepare {part : String × Method × Json} {raw : RawOperation}
    (reusables : Reusables) (self : Option String) (h : raw.DecodedFrom part) :
    MadeFrom part (prepare reusables self raw).value := by
  obtain ⟨shared, operation⟩ := raw
  obtain ⟨body, hbody, rfl⟩ := h
  refine ⟨rfl, rfl, body, hbody, rfl, ?_⟩
  simp [prepare, Entries.keys, Function.comp_def]

lemma inOrder_ofUnified (D : Json) :
    InOrder (parts D) (fun d => MadeOf (parts D) d.value) (ofUnified D) := by
  rw [ofUnified, ← membersAt_one, parts]
  apply (inOrder_decodeDefinitions D).bind
  rintro definitions ⟨all, hall, hentries⟩
  apply (inOrder_decodeReusables D).bind
  intro reusables _
  apply (inOrder_decodePaths (membersAt D ["paths"])).pure
  intro raws hraws
  rw [← parts]
  constructor
  · rw [operations_parts]
    simp only [Noted.value_bind, Noted.value_mapM, Noted.value_pure, List.forall₂_map_right_iff]
    exact hraws.imp fun _ _ => madeFrom_prepare reusables definitions.self
  · show Entries.keys definitions.entries = _
    rw [hentries, Entries.keys_ofList, hall.keys_eq]
  · intro name
    show Option.Rel _ _ (Entries.get? name definitions.entries)
    rw [hentries, Entries.get?_ofList]
    exact hall.reverse.get? name

/-- Loading is exact. A document fails to load just with the fault of the first of its parts
that has one, at the location of that part; it loads just if no part has a fault, and then
it is made of its parts. -/
theorem load_exact (members : List (String × Json)) :
    (∀ fault, load (.obj members) = .error fault ↔
      ∃ before p after found, parts (unified (.obj members)) = before ++ p :: after ∧
        (∀ q ∈ before, q.fault? = none) ∧ p.fault? = some found ∧
        fault = .undecodable p.location found) ∧
    ((∃ loaded, load (.obj members) = .ok loaded) ↔
      ∀ p ∈ parts (unified (.obj members)), p.fault? = none) ∧
    ∀ loaded, load (.obj members) = .ok loaded →
      MadeOf (parts (unified (.obj members))) loaded.value := by
  have h : InOrder (parts (unified (.obj members)))
      (fun d => MadeOf (parts (unified (.obj members))) d.value) (load (.obj members)) :=
    inOrder_ofUnified (unified (.obj members))
  refine ⟨?_, ?_, ?_⟩
  · intro fault
    rw [h.eq_error_iff, firstFault?_eq_some]
  · rw [h.isOk_iff, firstFault?_eq_none]
  · intro loaded hloaded
    exact h.holds hloaded

end Document

end OpenApiDoc
