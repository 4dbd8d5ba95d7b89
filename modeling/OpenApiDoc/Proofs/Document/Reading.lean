import OpenApiDoc.Document
import OpenApiDoc.Proofs.Document.Modern
import OpenApiDoc.Proofs.Document.Places
import OpenApiDoc.Proofs.Document.Preparation

/-!
# What a document loads

A document loads only if each of its parts is decoded as what it is read as, so the places of a
document are where its parts really are decoded. The lemmas follow the decoders function by
function: each takes the success of one function for what that says of its parts.
-/

namespace OpenApiDoc

open Json (Step Path)

namespace Decoder

variable {α : Type} {decode : Decoder α} {v x : Json}

/-- The decoder reads a value. -/
def Accepts (decode : Decoder α) (v : Json) : Prop := ∃ a, decode v = .ok a

/-- The decoder reads every member of an object. -/
def AcceptsMembers (decode : Decoder α) (v : Json) : Prop :=
  ∀ name x, v.get? name = some x → decode.Accepts x

/-- The decoder reads every item of an array. -/
def AcceptsItems (decode : Decoder α) (v : Json) : Prop :=
  ∀ i x, v.child? (.index i) = some x → decode.Accepts x

lemma accepts_optional (h : (optional decode).Accepts v) : v = .null ∨ decode.Accepts v := by
  obtain ⟨found, h⟩ := h
  cases v with
  | null => exact .inl rfl
  | _ =>
    obtain ⟨a, ha, -⟩ := map_eq_ok.1 h
    exact .inr ⟨a, ha⟩

lemma accepts_of_mem_mapM {items : List Json} {found : List α}
    (h : items.mapM decode = .ok found) (hmem : x ∈ items) : decode.Accepts x := by
  induction items generalizing found with
  | nil => cases hmem
  | cons item rest ih =>
    simp only [List.mapM_cons, do_eq_ok] at h
    obtain ⟨a, ha, as, has, -⟩ := h
    rcases List.mem_cons.1 hmem with rfl | hrest
    · exact ⟨a, ha⟩
    · exact ih has hrest

lemma acceptsItems_list (h : (list decode).Accepts v) : decode.AcceptsItems v := by
  intro i x hx
  obtain ⟨found, h⟩ := h
  cases v with
  | arr items => exact accepts_of_mem_mapM h (List.mem_of_getElem? hx)
  | _ => cases hx

lemma accepts_of_mem_entriesOf {members : List (String × Json)} {m : String × Json}
    {found : List (String × α)} (h : entriesOf decode members = .ok found) (hmem : m ∈ members) :
    decode.Accepts m.2 := by
  induction members generalizing found with
  | nil => cases hmem
  | cons first rest ih =>
    simp only [entriesOf, bind_eq_ok, map_eq_ok] at h
    obtain ⟨a, ha, more, hmore, -⟩ := h
    rcases List.mem_cons.1 hmem with rfl | hrest
    · exact ⟨a, ha⟩
    · exact ih hmore hrest

lemma acceptsMembers_entries (h : (entries decode).Accepts v) : decode.AcceptsMembers v := by
  intro name x hx
  obtain ⟨found, h⟩ := h
  cases v with
  | obj members => exact accepts_of_mem_entriesOf h (Entries.mem_of_get? hx)
  | _ => cases hx

/-! ### Records -/

/-- A field of a record reads a value. -/
def RecordField.Reads (field : RecordField α) (v : Json) : Prop :=
  ∃ r r', field.assign v r = .ok r'

lemma reads_of_mem_members {fields : List (RecordField α)} (keep : String → Json → α → α)
    {members : List (String × Json)} {r r' : α} {key : String} {field : RecordField α}
    (h : members.foldlM (assignMember fields keep) r = .ok r') (hmem : (key, x) ∈ members)
    (hfield : fields.find? (·.name = key) = some field) : field.Reads x := by
  induction members generalizing r with
  | nil => cases hmem
  | cons m rest ih =>
    simp only [List.foldlM_cons, do_eq_ok] at h
    obtain ⟨s, hs, hrest⟩ := h
    rcases List.mem_cons.1 hmem with rfl | hmem
    · rw [assignMember, hfield] at hs
      exact ⟨r, s, hs⟩
    · exact ih hrest hmem

lemma reads_of_openRecord {name : String} (key : String) {fields : List (RecordField α)}
    {keep : String → Json → α → α} {initial : α} {field : RecordField α}
    (h : (openRecord name fields keep initial).Accepts v) (hx : v.get? key = some x)
    (hfield : fields.find? (·.name = key) = some field) : field.Reads x := by
  obtain ⟨found, h⟩ := h
  cases v with
  | obj members => exact reads_of_mem_members keep h (Entries.mem_of_get? hx) hfield
  | _ => cases hx

lemma reads_of_record_key {name : String} (key : String) {fields : List (RecordField α)}
    {initial : α} {field : RecordField α} (h : (record name fields initial).Accepts v)
    (hx : v.get? key = some x) (hfield : fields.find? (·.name = key) = some field) :
    field.Reads x := by
  obtain ⟨found, h⟩ := h
  cases v with
  | obj members =>
    -- Passing a member over is keeping the record as it is.
    exact reads_of_mem_members (fun _ _ r => r) h (Entries.mem_of_get? hx) hfield
  | _ => cases hx

lemma reads_of_assignItems {name : String} {arity index i : Nat} {fields : List (RecordField α)}
    {field : RecordField α} {items : List Json} {r : α} {found : α × Nat}
    (h : assignItems name arity index r fields items = .ok found) (hx : items[i]? = some x)
    (hfield : fields[i]? = some field) : field.Reads x := by
  induction fields generalizing index i items r with
  | nil => cases hfield
  | cons first fields ih =>
    cases items with
    | nil => cases hx
    | cons item items =>
      simp only [assignItems, bind_eq_ok] at h
      obtain ⟨s, hs, hrest⟩ := h
      cases i with
      | zero =>
        cases hx
        cases hfield
        exact ⟨r, s, hs⟩
      | succ i => exact ih hrest hx hfield

lemma reads_of_record_index {name : String} {i : Nat} {fields : List (RecordField α)}
    {initial : α} {field : RecordField α} (h : (record name fields initial).Accepts v)
    (hx : v.child? (.index i) = some x) (hfield : fields[i]? = some field) : field.Reads x := by
  obtain ⟨found, h⟩ := h
  cases v with
  | arr items =>
    simp only [record, bind_eq_ok] at h
    obtain ⟨left, hitems, -⟩ := h
    exact reads_of_assignItems hitems hx hfield
  | _ => cases hx

lemma accepts_of_neededField {β : Type} {name : String} {decode : Decoder β} {set : β → α → α}
    (h : (neededField name decode set).Reads v) : decode.Accepts v := by
  obtain ⟨r, r', h⟩ := h
  obtain ⟨b, hb, -⟩ := map_eq_ok.1 h
  exact ⟨b, hb⟩

lemma accepts_of_defaultField {β : Type} {name : String} {decode : Decoder β} {set : β → α → α}
    (h : (defaultField name decode set).Reads v) : decode.Accepts v := by
  obtain ⟨r, r', h⟩ := h
  obtain ⟨b, hb, -⟩ := map_eq_ok.1 h
  exact ⟨b, hb⟩

end Decoder

open Decoder

/-! ### Schemas -/

namespace Schema

variable {name : String} {v x : Json}

lemma accepts_keyword (h : Accepts Schema.decode v) (hx : v.get? name = some x) :
    ∃ k, keyword name x = .ok k := by
  obtain ⟨s, h⟩ := h
  cases v with
  | obj members =>
    rw [decode] at h
    obtain ⟨ks, hks, -⟩ := map_eq_ok.1 h
    have hmem := Entries.mem_of_get? hx
    clear hx h
    induction members generalizing ks with
    | nil => cases hmem
    | cons m rest ih =>
      simp only [keywords, bind_eq_ok, map_eq_ok] at hks
      obtain ⟨k, hk, more, hmore, -⟩ := hks
      rcases List.mem_cons.1 hmem with rfl | hrest
      · exact ⟨k, hk⟩
      · exact ih more hmore hrest
  | _ => cases hx

lemma accepts_properties (h : ∃ k, keyword "properties" v = .ok k) :
    AcceptsMembers Schema.decode v := by
  intro name x hx
  obtain ⟨k, h⟩ := h
  obtain ⟨found, hfound, -⟩ := map_eq_ok.1 ((keyword_properties v).symm.trans h)
  rcases accepts_optional ⟨found, hfound⟩ with rfl | hentries
  · cases hx
  · exact acceptsMembers_entries hentries name x hx

lemma accepts_allOf (h : ∃ k, keyword "allOf" v = .ok k) : AcceptsItems Schema.decode v := by
  intro i x hx
  obtain ⟨k, h⟩ := h
  obtain ⟨found, hfound, -⟩ := map_eq_ok.1 ((keyword_allOf v).symm.trans h)
  rcases accepts_optional ⟨found, hfound⟩ with rfl | hlist
  · cases hx
  · exact acceptsItems_list hlist i x hx

lemma accepts_items (h : ∃ k, keyword "items" v = .ok k) :
    v = .null ∨ Accepts Schema.decode v := by
  obtain ⟨k, h⟩ := h
  obtain ⟨found, hfound, -⟩ := map_eq_ok.1 ((keyword_items v).symm.trans h)
  exact accepts_optional ⟨found, hfound⟩

lemma accepts_additional (h : ∃ k, keyword "additionalProperties" v = .ok k) :
    v = .null ∨ v.isBool = true ∨ Accepts Schema.decode v := by
  obtain ⟨k, h⟩ := h
  obtain ⟨found, hfound, -⟩ := map_eq_ok.1 ((keyword_additional v).symm.trans h)
  cases v with
  | null => exact .inl rfl
  | bool b => exact .inr (.inl rfl)
  | obj members =>
    rw [formOf_obj, additionalForm?_obj] at hfound
    cases hschema : Schema.decode (.obj members) with
    | error e =>
      rw [hschema] at hfound
      cases hfound
    | ok schema => exact .inr (.inr ⟨schema, hschema⟩)
  | _ => cases hfound

end Schema

namespace Document

variable {a b : Place} {s : Step} {p : Path} {d v x : Json}

/-! ### Parts -/

lemma part_eq_ok {α : Type} {decode : Decoder α} {location : String} {found : α} :
    part decode location v = .ok found ↔ decode v = .ok found := by
  rw [part]
  cases decode v <;> simp

lemma acceptsMembers_section {α : Type} {decode : Decoder α} {path : List String}
    {found : List (String × α)} (h : decodeSection decode d path = .ok found)
    (hv : d.at? path = some v) : decode.AcceptsMembers v := by
  intro name x hx
  cases v with
  | obj members =>
    have hmem := Entries.mem_of_get? hx
    rw [decodeSection, hv] at h
    change sectionEntries decode _ members = .ok found at h
    clear hx hv
    induction members generalizing found with
    | nil => cases hmem
    | cons m rest ih =>
      simp only [sectionEntries, do_eq_ok, part_eq_ok] at h
      obtain ⟨decoded, hdecoded, more, hmore, -⟩ := h
      rcases List.mem_cons.1 hmem with rfl | hrest
      · exact ⟨decoded, hdecoded⟩
      · exact ih hrest hmore
  | _ => cases hx

lemma acceptsMembers_sections {α : Type} {decode : Decoder α} {paths : List (List String)}
    {path : List String} {found : List (String × α)}
    (h : decodeSections decode d paths = .ok found) (hpath : path ∈ paths)
    (hv : d.at? path = some v) : decode.AcceptsMembers v := by
  simp only [decodeSections, do_eq_ok] at h
  obtain ⟨parts, hparts, -⟩ := h
  induction paths generalizing parts with
  | nil => cases hpath
  | cons first rest ih =>
    simp only [List.mapM_cons, do_eq_ok] at hparts
    obtain ⟨part, hpart, more, hmore, -⟩ := hparts
    rcases List.mem_cons.1 hpath with rfl | hrest
    · exact acceptsMembers_section hpart hv
    · exact ih hrest more hmore

lemma accepts_method {path : String} {shared : List Parameter} {methods : List Method}
    {raw : List RawOperation} {method : Method}
    (h : decodeMethods path d shared methods = .ok raw) (hmethod : method ∈ methods)
    (hv : d.get? method.key = some v) : Accepts OperationBody.decode v := by
  induction methods generalizing raw with
  | nil => cases hmethod
  | cons first rest ih =>
    rw [decodeMethods] at h
    rcases List.mem_cons.1 hmethod with rfl | hrest
    · rw [hv] at h
      simp only [do_eq_ok, part_eq_ok] at h
      obtain ⟨body, hbody, -⟩ := h
      exact ⟨body, hbody⟩
    · cases hfirst : d.get? first.key with
      | none =>
        rw [hfirst] at h
        exact ih h hrest
      | some value =>
        rw [hfirst] at h
        simp only [do_eq_ok] at h
        obtain ⟨_, -, more, hmore, -⟩ := h
        exact ih hmore hrest

/-- A path is read unless it is a vendor extension or no object. -/
lemma decodePaths_cons (path : String) (item : Json) (rest : List (String × Json)) :
    decodePaths ((path, item) :: rest) =
      if !isExtensionKey path && item.entries?.isSome then do
        let operations ← decodePathItem path item
        let more ← decodePaths rest
        pure (operations ++ more)
      else decodePaths rest := by
  rw [decodePaths]
  cases isExtensionKey path <;> cases item.entries? <;> rfl

lemma accepts_path {items : List (String × Json)} {raw : List RawOperation} {path : String}
    (h : decodePaths items = .ok raw) (hmem : (path, v) ∈ items)
    (named : isExtensionKey path = false) (object : v.entries?.isSome = true) :
    ∃ raw, decodePathItem path v = .ok raw := by
  induction items generalizing raw with
  | nil => cases hmem
  | cons m rest ih =>
    rw [decodePaths_cons] at h
    rcases List.mem_cons.1 hmem with rfl | hrest
    · rw [if_pos (by simp [named, object])] at h
      simp only [do_eq_ok] at h
      obtain ⟨operations, hoperations, -⟩ := h
      exact ⟨operations, hoperations⟩
    · split at h
      · simp only [do_eq_ok] at h
        obtain ⟨_, -, more, hmore, -⟩ := h
        exact ih hmore hrest
      · exact ih h hrest

lemma accepts_code {members : List (String × Json)} {found : List (String × Response)}
    {code : String} (h : Response.decodeAll members = .ok found) (hmem : (code, v) ∈ members)
    (named : isExtensionKey code = false) : Accepts Response.decode v := by
  induction members generalizing found with
  | nil => cases hmem
  | cons m rest ih =>
    rw [Response.decodeAll.eq_def] at h
    dsimp only at h
    rcases List.mem_cons.1 hmem with rfl | hrest
    · rw [if_neg (by simp [named])] at h
      cases hdecode : Response.decode v with
      | error e =>
        rw [hdecode] at h
        cases h
      | ok response => exact ⟨response, hdecode⟩
    · split at h
      · exact ih h hrest
      · split at h
        · cases h
        · obtain ⟨more, hmore, -⟩ := map_eq_ok.1 h
          exact ih hmore hrest

/-! ### Places -/

/-- What the loader has found out about a value that is read so, once it loads. -/
def Place.Accepts : Place → Json → Prop
  | .document, v => ∃ found, ofUnified v = .ok found
  | .components, v =>
    (∀ x, v.get? "schemas" = some x → AcceptsMembers Schema.decode x) ∧
    (∀ x, v.get? "parameters" = some x → AcceptsMembers Parameter.decode x) ∧
    (∀ x, v.get? "requestBodies" = some x → AcceptsMembers RequestBody.decode x) ∧
    ∀ x, v.get? "responses" = some x → AcceptsMembers Response.decode x
  | .schemas, v => AcceptsMembers Schema.decode v
  | .schema orFlag, v =>
    v = .null ∨ (orFlag = true ∧ v.isBool = true) ∨ Decoder.Accepts Schema.decode v
  | .branches, v => AcceptsItems Schema.decode v
  | .parameters, v => AcceptsMembers Parameter.decode v
  | .sharedParameters, v | .ownParameters _, v => AcceptsItems Parameter.decode v
  | .parameter _, v => Decoder.Accepts Parameter.decode v
  | .requestBodies, v => AcceptsMembers RequestBody.decode v
  | .requestBody, v => v = .null ∨ Decoder.Accepts RequestBody.decode v
  | .responses _, v => AcceptsMembers Response.decode v
  | .codes _, v => Decoder.Accepts OperationBody.decodeResponses v
  | .response _, v => Decoder.Accepts Response.decode v
  | .content, v => AcceptsMembers MediaType.decode v
  | .media, v => Decoder.Accepts MediaType.decode v
  | .paths, v => ∀ path x, isExtensionKey path = false → v.get? path = some x →
    x.entries?.isSome = true → ∃ raw, decodePathItem path x = .ok raw
  | .pathItem, v => v.entries?.isSome = true → ∃ path raw, decodePathItem path v = .ok raw
  | .operation, v => Decoder.Accepts OperationBody.decode v
  | .inlineSchema, v =>
    ∀ x, v.get? "items" = some x → x = .null ∨ Decoder.Accepts Schema.decode x
  | .ownContent, _ | .ownMedia _, _ => True

lemma acceptsMembers_of_ofUnified (h : ∃ found, ofUnified d = .ok found) :
    (∀ path ∈ [["components", "schemas"], ["definitions"]], ∀ v, d.at? path = some v →
      AcceptsMembers Schema.decode v) ∧
    (∀ path ∈ [["components", "parameters"], ["parameters"]], ∀ v, d.at? path = some v →
      AcceptsMembers Parameter.decode v) ∧
    (∀ path ∈ [["components", "requestBodies"]], ∀ v, d.at? path = some v →
      AcceptsMembers RequestBody.decode v) ∧
    (∀ path ∈ [["components", "responses"], ["responses"]], ∀ v, d.at? path = some v →
      AcceptsMembers Response.decode v) ∧
    ∃ raw, decodePaths (((d.get? "paths").bind Json.entries?).getD []) = .ok raw := by
  obtain ⟨found, h⟩ := h
  simp only [ofUnified, do_eq_ok, decodeDefinitions, decodeReusables] at h
  obtain ⟨_, ⟨_, hschemas, -⟩, _, ⟨_, hparameters, _, hbodies, _, hresponses, -⟩, raw,
      hraw, -⟩ := h
  exact ⟨fun _ hpath _ hv => acceptsMembers_sections hschemas hpath hv,
    fun _ hpath _ hv => acceptsMembers_sections hparameters hpath hv,
    fun _ hpath _ hv => acceptsMembers_sections hbodies hpath hv,
    fun _ hpath _ hv => acceptsMembers_sections hresponses hpath hv, raw, hraw⟩

/-- A loaded document has the definitions that are decoded, and the operations that are prepared
with the reusable parts that are decoded. -/
lemma exists_of_load {loaded : Noted Document} (h : load d = .ok loaded) :
    ∃ definitions reusables raw, decodeDefinitions (unified d) = .ok definitions ∧
      decodeReusables (unified d) = .ok reusables ∧
      decodePaths ((((unified d).get? "paths").bind Json.entries?).getD []) = .ok raw ∧
      loaded.value =
        { definitions
          operations := raw.map fun r => (prepare reusables definitions.self r).value } := by
  cases d with
  | obj members =>
    simp only [load, ofUnified, do_eq_ok] at h
    obtain ⟨definitions, hdefinitions, reusables, hreusables, raw, hraw, h⟩ := h
    cases h
    refine ⟨definitions, reusables, raw, hdefinitions, hreusables, hraw, ?_⟩
    simp only [Noted.value_bind, Noted.value_mapM, Noted.value_pure]
  | _ => cases h

lemma accepts_keyword_of_schema {orFlag : Bool} {key : String}
    (h : (Place.schema orFlag).Accepts v) (hx : v.get? key = some x) :
    ∃ k, Schema.keyword key x = .ok k := by
  rcases h with rfl | ⟨-, hbool⟩ | h
  · cases hx
  · cases v <;> first | cases hx | cases hbool
  · exact Schema.accepts_keyword h hx

/-- What a step leads to is decoded, if what it starts from is. -/
lemma Leads.accepts (leads : Leads a s b) (h : a.Accepts v) (hchild : v.child? s = some x) :
    b.Accepts x := by
  cases leads with
  | components =>
    obtain ⟨hschemas, hparameters, hbodies, hresponses, -⟩ := acceptsMembers_of_ofUnified h
    rw [Json.child?_key] at hchild
    have hat : ∀ {key y}, x.get? key = some y → v.at? ["components", key] = some y := by
      intro key y hy
      simp [Json.at?, hchild, hy]
    exact ⟨fun y hy => hschemas _ (by decide) y (hat hy),
      fun y hy => hparameters _ (by decide) y (hat hy),
      fun y hy => hbodies _ (by decide) y (hat hy),
      fun y hy => hresponses _ (by decide) y (hat hy)⟩
  | definitions =>
    obtain ⟨hschemas, -⟩ := acceptsMembers_of_ofUnified h
    rw [Json.child?_key] at hchild
    exact hschemas ["definitions"] (by decide) x (by simp [Json.at?, hchild])
  | parameters =>
    obtain ⟨-, hparameters, -⟩ := acceptsMembers_of_ofUnified h
    rw [Json.child?_key] at hchild
    exact hparameters ["parameters"] (by decide) x (by simp [Json.at?, hchild])
  | responses =>
    obtain ⟨-, -, -, hresponses, -⟩ := acceptsMembers_of_ofUnified h
    rw [Json.child?_key] at hchild
    exact hresponses ["responses"] (by decide) x (by simp [Json.at?, hchild])
  | paths =>
    obtain ⟨-, -, -, -, raw, hraw⟩ := acceptsMembers_of_ofUnified h
    rw [Json.child?_key] at hchild
    intro path item named hitem object
    cases x with
    | obj items =>
      rw [hchild] at hraw
      exact accepts_path hraw (Entries.mem_of_get? hitem) named object
    | _ => cases hitem
  | newSchemas => exact h.1 x (by simpa using hchild)
  | newParameters => exact h.2.1 x (by simpa using hchild)
  | newRequestBodies => exact h.2.2.1 x (by simpa using hchild)
  | newResponses => exact h.2.2.2 x (by simpa using hchild)
  | schema name => exact .inr (.inr (h name x (by simpa using hchild)))
  | requestBody name => exact .inr (h name x (by simpa using hchild))
  | parameter name | response lifted name => exact h name x (by simpa using hchild)
  | media mime => exact h mime x (by simpa using hchild)
  | branch i => exact .inr (.inr (h i x hchild))
  | sharedParameter i | ownParameter lifted i => exact h i x hchild
  | properties orFlag =>
    rw [Json.child?_key] at hchild
    exact Schema.accepts_properties (accepts_keyword_of_schema h hchild)
  | items orFlag =>
    rw [Json.child?_key] at hchild
    exact (Schema.accepts_items (accepts_keyword_of_schema h hchild)).imp_right .inr
  | allOf orFlag =>
    rw [Json.child?_key] at hchild
    exact Schema.accepts_allOf (accepts_keyword_of_schema h hchild)
  | additional orFlag =>
    rw [Json.child?_key] at hchild
    exact (Schema.accepts_additional (accepts_keyword_of_schema h hchild)).imp_right
      fun h => h.imp_left fun hbool => ⟨rfl, hbool⟩
  | parameterSchema lifted =>
    rw [Json.child?_key] at hchild
    have hreads := reads_of_openRecord "schema" h hchild rfl
    exact (accepts_optional (accepts_of_neededField hreads)).imp_right .inr
  | inlineItems =>
    rw [Json.child?_key] at hchild
    exact (h x hchild).imp_right .inr
  | requestContent =>
    rw [Json.child?_key] at hchild
    rcases h with rfl | h
    · cases hchild
    · have hreads := reads_of_openRecord "content" h hchild rfl
      exact acceptsMembers_entries (accepts_of_defaultField hreads)
  | code lifted code named =>
    rw [Json.child?_key] at hchild
    obtain ⟨found, h⟩ := h
    cases v with
    | obj members =>
      rw [decodeResponses_obj] at h
      exact accepts_code h (Entries.mem_of_get? hchild) named
    | _ => cases hchild
  | responseContent lifted =>
    rw [Json.child?_key] at hchild
    have hreads := reads_of_record_key "content" h hchild rfl
    exact acceptsMembers_entries (accepts_of_defaultField hreads)
  | listedContent lifted =>
    have hreads := reads_of_record_index h hchild rfl
    exact acceptsMembers_entries (accepts_of_defaultField hreads)
  | mediaSchema =>
    rw [Json.child?_key] at hchild
    have hreads := reads_of_record_key "schema" h hchild rfl
    exact (accepts_optional (accepts_of_neededField hreads)).imp_right .inr
  | listedSchema =>
    have hreads := reads_of_record_index h hchild rfl
    exact (accepts_optional (accepts_of_neededField hreads)).imp_right .inr
  | path path named =>
    rw [Json.child?_key] at hchild
    intro object
    exact ⟨path, h path x named hchild object⟩
  | shared =>
    rw [Json.child?_key] at hchild
    obtain ⟨path, raw, hraw⟩ := h (by cases v <;> first | rfl | cases hchild)
    simp only [decodePathItem, hchild, do_eq_ok, part_eq_ok] at hraw
    obtain ⟨shared, hshared, -⟩ := hraw
    exact acceptsItems_list ⟨shared, hshared⟩
  | operation method known =>
    rw [Json.child?_key] at hchild
    obtain ⟨m, hm, rfl⟩ := List.mem_map.1 known
    obtain ⟨path, raw, hraw⟩ := h (by cases v <;> first | rfl | cases hchild)
    rw [decodePathItem] at hraw
    split at hraw <;>
      · simp only [do_eq_ok] at hraw
        obtain ⟨shared, -, hmethods⟩ := hraw
        exact accepts_method hmethods hm hchild
  | ownParameters =>
    rw [Json.child?_key] at hchild
    have hreads := reads_of_record_key "parameters" h hchild rfl
    exact acceptsItems_list (accepts_of_defaultField hreads)
  | operationBody =>
    rw [Json.child?_key] at hchild
    have hreads := reads_of_record_key "requestBody" h hchild rfl
    exact accepts_optional (accepts_of_neededField hreads)
  | codes =>
    rw [Json.child?_key] at hchild
    have hreads := reads_of_record_key "responses" h hchild rfl
    exact accepts_of_defaultField hreads
  | listedParameters =>
    have hreads := reads_of_record_index h hchild rfl
    exact acceptsItems_list (accepts_of_defaultField hreads)
  | listedBody =>
    have hreads := reads_of_record_index h hchild rfl
    exact accepts_optional (accepts_of_neededField hreads)
  | listedCodes =>
    have hreads := reads_of_record_index h hchild rfl
    exact accepts_of_defaultField hreads

/-- Every part of a document that loads is decoded as what it is read as. -/
theorem accepts_of_load {found : Noted Document} (h : load d = .ok found) (reads : Reads p a)
    (hx : (unified d).follow? p = some x) : a.Accepts x := by
  have hdocument : Place.document.Accepts (unified d) := by
    cases d with
    | obj members => exact ⟨found, h⟩
    | _ => cases h
  exact reads.holds hdocument Leads.accepts hx

end Document

end OpenApiDoc
