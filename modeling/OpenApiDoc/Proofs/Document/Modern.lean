import OpenApiDoc.Document
import OpenApiDoc.Proofs.Json
import OpenApiDoc.Proofs.Operation.Order

/-!
# The modern form of a document

A document of the older dialect keeps its reusable parts in sections of their own, the type of a
parameter among the members of the parameter, and the schema and the examples of a response among
the members of the response. `Document.modern` writes all of this the newer way: the parts under
`components`, the type of a parameter under `schema`, and schema and examples of a response as
media types under `content`. References are left as they are.

The passes that unify the dialects do the same to a parameter and to a response, but for the
order of members, so a part and its modern form are decoded alike.
-/

namespace OpenApiDoc.Document

variable {members : List (String × Json)} {value : Json}

/-! ### Parameters -/

/-- Whether the members of a parameter that is no body hold keywords of its schema: there is one
of them, and neither `schema` nor a reference. -/
def holdsInline (members : List (String × Json)) : Bool :=
  !Entries.has "schema" members && !Entries.has "$ref" members
    && !((Entries.get? "in" members).bind Json.str? == some "body")
    && members.any fun member => inlineKeywords.contains member.1

/-- A parameter with its inline keywords under `schema`. -/
def modernParameter : Json → Json
  | .obj members =>
    if holdsInline members then
      .obj ((members.filter fun member => !inlineKeywords.contains member.1) ++
        [("schema", .obj (members.filter fun member => inlineKeywords.contains member.1))])
    else .obj members
  | value => value

/-! ### Responses -/

/-- Whether the members of a response hold its schema or examples, and neither content nor a
reference. -/
def holdsOwnContent (members : List (String × Json)) : Bool :=
  !Entries.has "content" members && !Entries.has "$ref" members
    && (Entries.has "schema" members || Entries.has "examples" members)

/-- The members of a response that its content takes the place of. -/
def contentKeys : List String := ["schema", "examples"]

/-- The media types of a response: one for each example, each with the schema, or any type for a
schema without examples. -/
def mediaTypes (schema samples : Option Json) : List (String × Json) :=
  match samples.bind Json.entries? with
  | some (first :: rest) => (first :: rest).map fun (type, sample) =>
      (type, .obj ((schema.toList.map fun s => ("schema", s)) ++ [("example", sample)]))
  | _ => schema.toList.map fun s => ("*/*", .obj [("schema", s)])

/-- A response with its schema and examples as media types under `content`. -/
def modernResponse : Json → Json
  | .obj members =>
    if holdsOwnContent members then
      .obj ((members.filter fun member => !contentKeys.contains member.1) ++
        [("content",
          .obj (mediaTypes (Entries.get? "schema" members) (Entries.get? "examples" members)))])
    else .obj members
  | value => value

/-! ### Documents -/

/-- An operation with its parameters and responses in modern form. -/
def modernOperation (operation : Json) : Json :=
  (operation.modify "parameters" (.mapItems modernParameter)).modify "responses"
    (.mapValues modernResponse)

/-- A member of a path item in modern form. -/
def modernPathMember (member : String × Json) : String × Json :=
  if member.1 = "parameters" then (member.1, member.2.mapItems modernParameter)
  else if (Method.all.map Method.key).contains member.1 then (member.1, modernOperation member.2)
  else member

/-- A path item in modern form. -/
def modernPathItem : Json → Json := .mapEntries (List.map modernPathMember)

/-- The sections of the older dialect. -/
def sectionKeys : List String := ["definitions", "parameters", "responses"]

/-- The sections of reusable parts under `components`, as far as there are any. -/
def modernComponents (members : List (String × Json)) : List (String × Json) :=
  ((Entries.get? "definitions" members).toList.map fun v => ("schemas", v)) ++
    ((Entries.get? "parameters" members).toList.map fun v =>
      ("parameters", v.mapValues modernParameter)) ++
    ((Entries.get? "responses" members).toList.map fun v =>
      ("responses", v.mapValues modernResponse))

/-- A document in modern form. -/
def modern : Json → Json
  | .obj members =>
    .obj ((Entries.modify "paths" (.mapValues modernPathItem)
        (members.filter fun member => !sectionKeys.contains member.1)) ++
      [("components", .obj (modernComponents members))])
  | value => value

/-! ### Lifted parameters -/

/-- A key that no member has makes no difference to which members have one of the keys. -/
lemma contains_cons_of_not_mem {key : String} (keys : List String)
    (h : key ∉ Entries.keys members) :
    ∀ member ∈ members, (key :: keys).contains member.1 = keys.contains member.1 := by
  intro member hmember
  have hne : member.1 ≠ key := fun e => h (e ▸ List.mem_map_of_mem hmember)
  simp [hne]

/-- Taking keywords out of members splits them into those keywords and the rest,
in some order. -/
lemma takeKeywords_perm (keys : List String) (nodup : (Entries.keys members).Nodup) :
    (takeKeywords members keys).1.Perm (members.filter fun member => keys.contains member.1) ∧
      (takeKeywords members keys).2.Perm
        (members.filter fun member => !keys.contains member.1) := by
  induction keys generalizing members with
  | nil => simp [takeKeywords]
  | cons key keys ih =>
    rw [takeKeywords]
    cases hget : Entries.get? key members with
    | none =>
      have hcontains := contains_cons_of_not_mem keys (Entries.get?_eq_none.1 hget)
      obtain ⟨hfound, hleft⟩ := ih nodup
      refine ⟨hfound.trans (.of_eq ?_), hleft.trans (.of_eq ?_)⟩
      · exact List.filter_congr fun m hm => (hcontains m hm).symm
      · exact List.filter_congr fun m hm => by rw [hcontains m hm]
    | some value =>
      have hperm := Entries.eraseSwap_perm hget
      obtain ⟨hkey, nodup'⟩ := List.nodup_cons.1 ((Entries.nodup_keys_perm hperm).2 nodup)
      have hcontains := contains_cons_of_not_mem keys hkey
      obtain ⟨hfound, hleft⟩ := ih nodup'
      constructor
      · refine List.Perm.trans ?_ (hperm.filter _)
        rw [List.filter_cons_of_pos (by simp), List.filter_congr hcontains]
        exact hfound.cons _
      · refine List.Perm.trans ?_ (hperm.filter _)
        rw [List.filter_cons_of_neg (by simp)]
        refine hleft.trans (.of_eq ?_)
        exact List.filter_congr fun m hm => by rw [hcontains m hm]

lemma liftKeywords_of_not_holdsInline (nodup : (Entries.keys members).Nodup)
    (h : holdsInline members = false) : liftKeywords members = members := by
  rw [liftKeywords]
  split
  · rfl
  · next hguard =>
    have hany : members.any (fun member => inlineKeywords.contains member.1) = false := by
      rw [holdsInline, Bool.and_eq_false_iff] at h
      refine h.resolve_left ?_
      simpa [and_assoc] using hguard
    have hnone : members.filter (fun member => inlineKeywords.contains member.1) = [] :=
      List.filter_eq_nil_iff.2 (List.any_eq_false.1 hany)
    have hfound := (takeKeywords_perm inlineKeywords nodup).1
    rw [hnone, List.perm_nil] at hfound
    rcases htake : takeKeywords members inlineKeywords with ⟨found, left⟩
    rw [htake] at hfound
    cases hfound
    rfl

lemma liftKeywords_of_holdsInline (nodup : (Entries.keys members).Nodup)
    (h : holdsInline members = true) :
    ∃ found left, liftKeywords members = left ++ [("schema", .obj found)] ∧
      found.Perm (members.filter fun member => inlineKeywords.contains member.1) ∧
      left.Perm (members.filter fun member => !inlineKeywords.contains member.1) ∧
      "schema" ∉ Entries.keys members := by
  obtain ⟨hfound, hleft⟩ := takeKeywords_perm inlineKeywords nodup
  rcases htake : takeKeywords members inlineKeywords with ⟨found, left⟩
  rw [htake] at hfound hleft
  simp only [holdsInline, Bool.and_eq_true, Bool.not_eq_true'] at h
  obtain ⟨⟨⟨hschema, hreference⟩, hbody⟩, hany⟩ := h
  have hsome : found ≠ [] := by
    rintro rfl
    obtain ⟨m, hm, hinline⟩ := List.any_eq_true.1 hany
    have hmem := hfound.mem_iff.2 (List.mem_filter.2 ⟨hm, hinline⟩)
    cases hmem
  have hmembers : "schema" ∉ Entries.keys members := Entries.has_eq_false.1 hschema
  have hkeys : "schema" ∉ Entries.keys left := fun hmem =>
    Entries.not_mem_keys_filter hmembers ((hleft.map Prod.fst).mem_iff.1 hmem)
  refine ⟨found, left, ?_, hfound, hleft, hmembers⟩
  rw [liftKeywords, hschema, hreference, hbody, htake]
  obtain ⟨first, rest, rfl⟩ := List.exists_cons_of_ne_nil hsome
  exact Entries.insert_of_not_mem hkeys

/-- A parameter in modern form has nothing to be lifted. -/
lemma liftParameter_modern (hvalue : value.WellKeyed) :
    liftParameter (modernParameter value) = modernParameter value := by
  cases value with
  | obj members =>
    rw [modernParameter]
    cases h : holdsInline members with
    | true =>
      rw [if_pos rfl, liftParameter, Json.mapEntries, liftKeywords, if_pos]
      simp [Entries.has_eq_true, Entries.keys]
    | false =>
      rw [if_neg (by simp), liftParameter, Json.mapEntries,
        liftKeywords_of_not_holdsInline (by exact hvalue.1) h]
  | _ => rfl

/-- A parameter with its inline keywords lifted is decoded like its modern form. -/
theorem decode_liftParameter (hvalue : value.WellKeyed) :
    Alike Parameter.Same (Parameter.decode (liftParameter value))
      (Parameter.decode (modernParameter value)) := by
  cases value with
  | obj members =>
    have nodup : (Entries.keys members).Nodup := hvalue.1
    rw [modernParameter, liftParameter, Json.mapEntries]
    cases h : holdsInline members with
    | true =>
      obtain ⟨found, left, hlift, hfound, hleft, hschema⟩ := liftKeywords_of_holdsInline nodup h
      have hinline : ∀ m ∈ found, m.1 ∈ inlineKeywords := fun m hm =>
        List.contains_iff_mem.1 (List.mem_filter.1 (hfound.mem_iff.1 hm)).2
      have hmembers := Parameter.decode_perm (hleft.append_right [("schema", .obj found)])
        ((Entries.nodup_keys_perm (hleft.append_right _)).2 (Entries.nodup_keys_concat
          (Entries.nodup_keys_filter _ nodup) (Entries.not_mem_keys_filter hschema)))
      have hkeywords := Schema.decode_perm hfound
        ((Entries.nodup_keys_perm hfound).2 (Entries.nodup_keys_filter _ nodup)) hinline
      rw [hlift, if_pos rfl]
      exact hmembers.trans (fun _ _ _ => .trans) (Parameter.decode_schema _ hkeywords)
    | false =>
      rw [if_neg (by simp), liftKeywords_of_not_holdsInline nodup h]
      exact .refl .refl _
  | _ => exact .refl .refl _

/-! ### Lifted responses -/

lemma contentOf_eq_mediaTypes (schema samples : Option Json) :
    contentOf schema samples = mediaTypes schema samples := by
  rw [contentOf.eq_def, mediaTypes.eq_def]
  rcases samples.bind Json.entries? with _ | _ | ⟨first, rest⟩ <;> cases schema <;> rfl

lemma liftContent_of_not_holdsOwnContent (h : holdsOwnContent members = false) :
    liftContent members = members := by
  rw [liftContent]
  split
  · rfl
  · next hguard =>
    rw [holdsOwnContent, Bool.and_eq_false_iff] at h
    have hnone := h.resolve_left (by simpa using hguard)
    rw [if_pos (by simpa [Entries.has] using hnone)]

lemma liftContent_of_holdsOwnContent (nodup : (Entries.keys members).Nodup)
    (h : holdsOwnContent members = true) :
    ∃ left, liftContent members = left ++ [("content",
        .obj (mediaTypes (Entries.get? "schema" members) (Entries.get? "examples" members)))] ∧
      left.Perm (members.filter fun member => !contentKeys.contains member.1) ∧
      "content" ∉ Entries.keys members := by
  simp only [holdsOwnContent, Bool.and_eq_true, Bool.not_eq_true'] at h
  obtain ⟨⟨hcontent, hreference⟩, hown⟩ := h
  have hmembers : "content" ∉ Entries.keys members := Entries.has_eq_false.1 hcontent
  have hschema := Entries.eraseSwap_perm_filter "schema" nodup
  have hexamples := Entries.eraseSwap_perm_filter "examples"
    ((Entries.nodup_keys_perm hschema).2 (Entries.nodup_keys_filter _ nodup))
  have hleft : (Entries.eraseSwap "examples" (Entries.eraseSwap "schema" members)).Perm
      (members.filter fun member => !contentKeys.contains member.1) := by
    refine (hexamples.trans (hschema.filter _)).trans (.of_eq ?_)
    rw [List.filter_filter]
    refine List.filter_congr fun m _ => ?_
    by_cases h₁ : m.1 = "schema" <;> by_cases h₂ : m.1 = "examples" <;>
      simp [contentKeys, h₁, h₂]
  have hkeys : "content" ∉
      Entries.keys (Entries.eraseSwap "examples" (Entries.eraseSwap "schema" members)) :=
    fun hmem => Entries.not_mem_keys_filter hmembers ((hleft.map Prod.fst).mem_iff.1 hmem)
  refine ⟨_, ?_, hleft, hmembers⟩
  rw [liftContent, hcontent, hreference, if_neg (by simp), if_neg, contentOf_eq_mediaTypes]
  · exact Entries.insert_of_not_mem hkeys
  · simpa [Entries.has, ← Option.isSome_iff_ne_none, or_iff_not_imp_left] using hown

/-- A response in modern form has nothing to be lifted. -/
lemma liftResponse_modern (value : Json) :
    liftResponse (modernResponse value) = modernResponse value := by
  cases value with
  | obj members =>
    rw [modernResponse]
    cases h : holdsOwnContent members with
    | true =>
      rw [if_pos rfl, liftResponse, Json.mapEntries, liftContent, if_pos]
      simp [Entries.has_eq_true, Entries.keys]
    | false =>
      rw [if_neg (by simp), liftResponse, Json.mapEntries, liftContent_of_not_holdsOwnContent h]
  | _ => rfl

/-- A response with its content lifted is decoded like its modern form. -/
theorem decode_liftResponse (hvalue : value.WellKeyed) :
    Alike Eq (Response.decode (liftResponse value))
      (Response.decode (modernResponse value)) := by
  cases value with
  | obj members =>
    have nodup : (Entries.keys members).Nodup := hvalue.1
    rw [modernResponse, liftResponse, Json.mapEntries]
    cases h : holdsOwnContent members with
    | true =>
      obtain ⟨left, hlift, hleft, hcontent⟩ := liftContent_of_holdsOwnContent nodup h
      rw [hlift, if_pos rfl]
      exact Response.decode_perm (hleft.append_right _)
        ((Entries.nodup_keys_perm (hleft.append_right _)).2 (Entries.nodup_keys_concat
          (Entries.nodup_keys_filter _ nodup) (Entries.not_mem_keys_filter hcontent)))
    | false =>
      rw [if_neg (by simp), liftContent_of_not_holdsOwnContent h]
      exact .refl (fun _ => rfl) _
  | _ => exact .refl (fun _ => rfl) _

/-! ### Lifted operations -/

/-- An operation with its parameters and its responses changed. -/
def inOperation (parameters responses : Json → Json) (operation : Json) : Json :=
  (operation.modify "parameters" parameters).modify "responses" responses

lemma inOperation_obj (parameters responses : Json → Json) (members : List (String × Json)) :
    inOperation parameters responses (.obj members) =
      .obj (members.map fun member => (member.1,
        if member.1 = "parameters" then parameters member.2
        else if member.1 = "responses" then responses member.2 else member.2)) := by
  simp only [inOperation, Json.modify, Json.mapEntries, Entries.modify_eq_map, List.map_map]
  congr 1
  refine List.map_congr_left fun member _ => ?_
  by_cases h : member.1 = "parameters"
  · simp [h]
  · simp [h]

/-- A list of parameters is decoded like the list in modern form. -/
lemma decode_liftParameterList (hvalue : value.WellKeyed) :
    Alike (List.Forall₂ Parameter.Same) (Decoder.list Parameter.decode (liftParameterList value))
      (Decoder.list Parameter.decode
        (liftParameterList (value.mapItems modernParameter))) := by
  cases value with
  | arr items =>
    have hitems : List.Forall₂ (fun p q => Alike Parameter.Same (Parameter.decode p)
        (Parameter.decode q)) (items.map liftParameter)
          ((items.map modernParameter).map liftParameter) := by
      simp only [List.map_map, List.forall₂_map_left_iff, List.forall₂_map_right_iff,
        List.forall₂_same]
      intro item hitem
      have hwell := Json.wellKeyed_arr.1 hvalue item hitem
      rw [Function.comp_apply, liftParameter_modern hwell]
      exact decode_liftParameter hwell
    exact Alike.mapM hitems fun _ _ => id
  | _ => exact .failed _ _

lemma decodeAll_alike {entries entries' : List (String × Json)}
    (h : Entries.Related (fun v v' => Alike Eq (Response.decode v) (Response.decode v'))
      entries entries') :
    Alike Eq (Response.decodeAll entries) (Response.decodeAll entries') := by
  induction h with
  | nil => exact .done rfl
  | @cons entry entry' _ _ hentry _ ih =>
    obtain ⟨code, value⟩ := entry
    obtain ⟨code', value'⟩ := entry'
    obtain ⟨hcode, hvalue⟩ := hentry
    obtain rfl : code = code' := hcode
    rw [Response.decodeAll, Response.decodeAll]
    split
    · exact ih
    · dsimp only at hvalue
      generalize Response.decode value = x at hvalue ⊢
      generalize Response.decode value' = y at hvalue ⊢
      cases hvalue with
      | failed e e' => exact .failed _ _
      | done h =>
        subst h
        exact ih.map fun _ _ hrest => hrest ▸ rfl

lemma decodeResponses_obj (members : List (String × Json)) :
    OperationBody.decodeResponses (.obj members) = Response.decodeAll members := by
  have hany : ∀ members, Decoder.entriesOf Decoder.any members = .ok members := by
    intro members
    induction members with
    | nil => rfl
    | cons member rest ih => rw [Decoder.entriesOf, ih]; rfl
  simp only [OperationBody.decodeResponses, Decoder.optional, Decoder.entries, hany]
  rfl

/-- The responses of an operation are decoded like their modern form. -/
lemma decode_liftResponses (hvalue : value.WellKeyed) :
    Alike Eq (OperationBody.decodeResponses (value.mapValues liftResponse))
      (OperationBody.decodeResponses
        ((value.mapValues modernResponse).mapValues liftResponse)) := by
  cases value with
  | obj members =>
    rw [Json.mapValues_mapValues]
    simp only [Json.mapValues, Json.mapEntries, decodeResponses_obj]
    refine decodeAll_alike (Entries.related_mapValues.2 fun member hmember => ?_)
    rw [Function.comp_apply, liftResponse_modern]
    exact decode_liftResponse ((Json.wellKeyed_obj.1 hvalue).2 member hmember)
  | _ => exact .refl (fun _ => rfl) _

/-- An operation with its parameters and responses lifted is decoded like its modern form. -/
theorem decode_liftOperation (hvalue : value.WellKeyed) :
    Alike OperationBody.Same
      (OperationBody.decode (inOperation liftParameterList (.mapValues liftResponse) value))
      (OperationBody.decode (inOperation liftParameterList (.mapValues liftResponse)
        (modernOperation value))) := by
  cases value with
  | obj members =>
    have hmodern : modernOperation (.obj members) =
        inOperation (.mapItems modernParameter) (.mapValues modernResponse) (.obj members) := rfl
    rw [hmodern, inOperation_obj, inOperation_obj, inOperation_obj]
    refine OperationBody.decode_alike ?_
    simp only [List.map_map, List.forall₂_map_left_iff, List.forall₂_map_right_iff,
      List.forall₂_same, Function.comp_apply]
    intro member hmember
    have hwell := (Json.wellKeyed_obj.1 hvalue).2 member hmember
    refine ⟨rfl, fun (hkey : member.1 = _) => ?_, fun (hkey : member.1 = _) => ?_,
      fun (hparameters : member.1 ≠ _) (hresponses : member.1 ≠ _) => ?_⟩
    · simpa [hkey] using decode_liftParameterList hwell
    · simpa [hkey] using decode_liftResponses hwell
    · simp [hparameters, hresponses]
  | _ => exact .refl .refl _

end OpenApiDoc.Document
