import OpenApiDoc.Proofs.Decoding
import OpenApiDoc.Schema.Decoding

/-!
# Keywords of schemas

A schema is decoded keyword by keyword, and each keyword goes to a place of its own: a known
keyword to its field, any other one to its name among the unknown keywords. The keywords that
hold schemas are decoded by the decoder of schemas, as a value, a list or a map of them.
-/

namespace OpenApiDoc

open Decoder

namespace Keyword

/-- The name of a keyword. -/
def name : Keyword → String
  | .reference _ => "$ref"
  | .type _ => "type"
  | .format _ => "format"
  | .title _ => "title"
  | .description _ => "description"
  | .properties _ => "properties"
  | .additional _ => "additionalProperties"
  | .items _ => "items"
  | .enum _ => "enum"
  | .allOf _ => "allOf"
  | .discriminator _ => "discriminator"
  | .required _ => "required"
  | .default _ => "default"
  | .authored _ => "example"
  | .minimum _ => "minimum"
  | .maximum _ => "maximum"
  | .exclusiveMinimum _ => "exclusiveMinimum"
  | .exclusiveMaximum _ => "exclusiveMaximum"
  | .minLength _ => "minLength"
  | .maxLength _ => "maxLength"
  | .minItems _ => "minItems"
  | .maxItems _ => "maxItems"
  | .pattern _ => "pattern"
  | .readOnly _ => "readOnly"
  | .extra name _ => name

/-- Whether the keyword has a field of its own in a schema. -/
def IsKnown (k : Keyword) : Prop := ∀ name value, k ≠ .extra name value

/-- Two keywords of different names are fields of their own, so they may be added
in either order. -/
lemma addTo_comm (x y : Keyword) (hne : x.name ≠ y.name) (known : x.IsKnown) (s : Schema) :
    addTo (addTo s x) y = addTo (addTo s y) x := by
  cases x <;> cases y <;> first | rfl | exact absurd rfl hne | exact absurd rfl (known _ _)

end Keyword

namespace Schema

variable {name : String} {value : Json} {k : Keyword}

/-- The known keywords that hold no schemas. -/
def plainKeywords : List String :=
  ["$ref", "type", "format", "title", "description", "enum", "discriminator", "required",
    "default", "example", "minimum", "maximum", "exclusiveMinimum", "exclusiveMaximum",
    "minLength", "maxLength", "minItems", "maxItems", "pattern", "readOnly"]

/-- The keywords that have a field of their own in a schema. -/
def knownKeywords : List String :=
  plainKeywords ++ ["properties", "additionalProperties", "items", "allOf"]

section Forms

variable {α : Type} {read : Json → Option α} {v w : Json}

lemma formOf_obj (label : String) (members : List (String × Json)) :
    formOf label read (.obj members) =
      match read (.obj members) with
      | some form => .ok (some form)
      | none => .error (.noForm label) := rfl

/-- The form of a value depends on what is read from it alone. -/
lemma formOf_congr (label : String)
    (hnull : v = .null ↔ w = .null) (h : read v = read w) :
    formOf label read v = formOf label read w := by
  by_cases hv : v = .null
  · rw [hv, hnull.1 hv]
  · rw [formOf, formOf, h]
    · exact fun hw => hv (hnull.2 hw)
    · exact hv

end Forms

/-! ### Keywords with schemas -/

/-- The forms of `additionalProperties`. -/
def additionalForm? : Json → Option (AdditionalProperties Schema)
  | .bool allowed => some (.flag allowed)
  | value => (decode value).toOption.map .schema

lemma additionalForm?_obj (members : List (String × Json)) :
    additionalForm? (.obj members) = (decode (.obj members)).toOption.map .schema := rfl

lemma named_eq_entriesOf (members : List (String × Json)) :
    named members = entriesOf decode members := by
  induction members with
  | nil => rfl
  | cons m rest ih => rw [named, entriesOf, ih]

lemma branches_eq_mapM (items : List Json) : branches items = items.mapM decode := by
  induction items with
  | nil => rfl
  | cons item rest ih =>
    rw [branches, List.mapM_cons, ih]
    cases decode item with
    | error e => rfl
    | ok s => cases rest.mapM decode <;> rfl

lemma keyword_properties (value : Json) :
    keyword "properties" value = (optional (entries decode) value).map .properties := by
  cases value with
  | obj members =>
    change _ = ((entriesOf decode members).map some).map Keyword.properties
    simp only [keyword, nesting?, named_eq_entriesOf]
    cases entriesOf decode members <;> rfl
  | _ => rfl

lemma keyword_allOf (value : Json) :
    keyword "allOf" value = (optional (list decode) value).map .allOf := by
  cases value with
  | arr items =>
    change _ = ((items.mapM decode).map some).map Keyword.allOf
    simp only [keyword, nesting?, branches_eq_mapM]
    cases items.mapM decode <;> rfl
  | _ => rfl

lemma keyword_items (value : Json) :
    keyword "items" value = (optional decode value).map .items := by
  cases value with
  | obj members =>
    change _ = (((keywords members).map ofKeywords).map some).map Keyword.items
    simp only [keyword, nesting?]
    cases keywords members <;> rfl
  | _ => rfl

lemma keyword_additional (value : Json) :
    keyword "additionalProperties" value =
      (formOf "AdditionalProperties" additionalForm? value).map .additional := by
  cases value with
  | obj members =>
    rw [formOf_obj, additionalForm?_obj, decode]
    simp only [keyword, nesting?]
    cases keywords members <;> rfl
  | _ => rfl

lemma keyword_of_plain (h : nesting? name = none) (value : Json) :
    keyword name value = plainKeyword name value := by
  rw [keyword, h]

/-! ### Names -/

lemma name_of_plainKeyword (h : plainKeyword name value = .ok k) :
    k.name = name ∧ (name ∈ knownKeywords → nesting? name = none → k.IsKnown) := by
  rw [plainKeyword.eq_def] at h
  split at h
  case h_21 =>
    cases h
    refine ⟨rfl, fun hname hnesting => ?_⟩
    have hnested :
        ∀ name ∈ knownKeywords, nesting? name = none → name ∈ plainKeywords := by decide
    have hplain := hnested name hname hnesting
    simp_all [plainKeywords]
  all_goals
    obtain ⟨_, -, rfl⟩ := map_eq_ok.1 h
    exact ⟨rfl, fun _ _ => nofun⟩

/-- A keyword is read under its name, and one that is known has a field of its own. -/
lemma name_of_keyword (h : keyword name value = .ok k) :
    k.name = name ∧ (name ∈ knownKeywords → k.IsKnown) := by
  cases hnesting : nesting? name with
  | none =>
    rw [keyword_of_plain hnesting] at h
    obtain ⟨hk, known⟩ := name_of_plainKeyword h
    exact ⟨hk, fun hname => known hname hnesting⟩
  | some nesting =>
    rw [nesting?.eq_def] at hnesting
    split at hnesting
    · obtain ⟨_, -, rfl⟩ := map_eq_ok.1 ((keyword_properties value).symm.trans h)
      exact ⟨rfl, fun _ => nofun⟩
    · obtain ⟨_, -, rfl⟩ := map_eq_ok.1 ((keyword_additional value).symm.trans h)
      exact ⟨rfl, fun _ => nofun⟩
    · obtain ⟨_, -, rfl⟩ := map_eq_ok.1 ((keyword_items value).symm.trans h)
      exact ⟨rfl, fun _ => nofun⟩
    · obtain ⟨_, -, rfl⟩ := map_eq_ok.1 ((keyword_allOf value).symm.trans h)
      exact ⟨rfl, fun _ => nofun⟩
    · cases hnesting

/-- A known keyword with the value null says nothing. -/
lemma keyword_null (known : name ∈ knownKeywords) :
    ∃ k, keyword name .null = .ok k ∧ k.addTo {} = {} := by
  simp only [knownKeywords, plainKeywords, List.cons_append, List.nil_append, List.mem_cons,
    List.not_mem_nil, or_false] at known
  rcases known with rfl | rfl | rfl | rfl | rfl | rfl | rfl | rfl | rfl | rfl | rfl | rfl | rfl |
    rfl | rfl | rfl | rfl | rfl | rfl | rfl | rfl | rfl | rfl | rfl <;> exact ⟨_, rfl, rfl⟩

/-! ### Schemas -/

/-- A schema is decoded keyword by keyword. -/
lemma decode_obj (members : List (String × Json)) :
    decode (.obj members) =
      members.foldlM (fun s m => (keyword m.1 m.2).map (Keyword.addTo s)) {} := by
  have step : ∀ (members : List (String × Json)) (s : Schema),
      (keywords members).map (fun ks => ks.foldl Keyword.addTo s) =
        members.foldlM (fun s m => (keyword m.1 m.2).map (Keyword.addTo s)) s := by
    intro members
    induction members with
    | nil =>
      intro s
      rw [keywords]
      rfl
    | cons member rest ih =>
      intro s
      obtain ⟨name, value⟩ := member
      rw [keywords, List.foldlM_cons]
      cases hk : keyword name value with
      | error e => rfl
      | ok k =>
        refine Eq.trans ?_ (ih (k.addTo s))
        cases keywords rest <;> rfl
  rw [decode]
  exact step members {}

/-- Keywords may be decoded in any order if any two of them may be added in either order. -/
lemma alike_of_perm {R : Schema → Schema → Prop} (refl : ∀ s, R s s)
    (trans : ∀ r s t, R r s → R s t → R r t)
    (respects : ∀ (k : Keyword) s t, R s t → R (k.addTo s) (k.addTo t))
    {members members' : List (String × Json)} (perm : members.Perm members')
    (nodup : (Entries.keys members).Nodup)
    (exchange : ∀ m ∈ members, ∀ m' ∈ members, m.1 ≠ m'.1 → ∀ k k', keyword m.1 m.2 = .ok k →
      keyword m'.1 m'.2 = .ok k' → ∀ s, R (k'.addTo (k.addTo s)) (k.addTo (k'.addTo s))) :
    Alike R (decode (.obj members)) (decode (.obj members')) := by
  have distinct : members.Pairwise fun m m' => m.1 ≠ m'.1 ∧ m ∈ members ∧ m' ∈ members :=
    List.Pairwise.imp_of_mem (fun hm hm' hne => ⟨hne, hm, hm'⟩) (List.pairwise_map.1 nodup)
  rw [decode_obj, decode_obj]
  refine Alike.foldlM_perm refl trans (fun _ _ h => ⟨h.1.symm, h.2.2, h.2.1⟩)
    (fun m s t hst => ?_) (fun m m' hmm' s => ?_) perm distinct (refl {})
  · exact (Alike.refl (R := Eq) (fun _ => rfl) _).map fun k _ hk => hk ▸ respects k s t hst
  · obtain ⟨hne, hm, hm'⟩ := hmm'
    cases hk : keyword m.1 m.2 with
    | error e =>
      cases keyword m'.1 m'.2 with
      | error e' => exact .failed e e'
      | ok k' => exact .failed e e
    | ok k =>
      cases hk' : keyword m'.1 m'.2 with
      | error e' => exact .failed e' e'
      | ok k' => exact .done (exchange m hm m' hm' hne k k' hk hk' s)

end Schema

end OpenApiDoc
