import OpenApiDoc.Proofs.Document.Unified

/-!
# Schemas of a unified document

What becomes of the data and the constants of a schema that the loader reads. The passes go by
keys, and keys may as well be names or stand in data, so each statement says where the keys on
the way, or in the data, are taken for what they are not.
-/

namespace OpenApiDoc.Document

open Json (Step Path)

variable {a : Place} {p q : Path} {d v w x y : Json} {key : String} {orFlag : Bool}

/-! ### Members of a schema -/

/-- A member of a schema that is read is the member that the passes before lifting left; a
parameter as a schema has its inline keywords only. -/
lemma ReadFrom.get?_schema (wellKeyed : d.WellKeyed) (stem : ReadFrom d a p q)
    (hschema : a.modern = .schema orFlag) (hx : (unified d).follow? p = some x) :
    ∃ v, d.follow? q = some v ∧ ∀ key, x.get? key =
      if a = .inlineSchema → key ∈ inlineKeywords then (rewrittenAt q (swept q v)).get? key
      else none := by
  cases a with
  | schema flag =>
    obtain ⟨v, hv, -, hlift⟩ := stem.unified_eq wellKeyed hx
    cases hlift
    exact ⟨v, hv, fun key => by rw [if_pos nofun]⟩
  | inlineSchema =>
    obtain ⟨v, hv, -, hmembers⟩ := stem.inlineSchema_eq wellKeyed hx
    exact ⟨v, hv, fun key => by simp [hmembers]⟩
  | _ => cases hschema

/-- Keywords of a schema that hold data. -/
def dataKeywords : List String := ["example", "default", "enum", "const"]

/-- No sweep takes data for a schema, but one that is not within a schema looks
for parts there. -/
lemma Stage.Fits.next_data {stage : Stage} (fits : stage.Fits a)
    (hschema : a.modern = .schema orFlag) (hkey : key ∈ dataKeywords) :
    stage.next (.key key) = if stage = .part then .part else .untouched := by
  have hnot : key ≠ "schema" ∧ Stage.keyword key = .untouched := by
    simp only [dataKeywords, List.mem_cons, List.not_mem_nil, or_false] at hkey
    rcases hkey with rfl | rfl | rfl | rfl <;> simp [Stage.keyword]
  cases stage with
  | document | components | schemas | branches =>
    cases fits
    cases hschema
  | schema | value => simp [Stage.next, hnot.2]
  | untouched => simp [Stage.next]
  | part => simp [Stage.next, hnot.1]

/-- The sweeps leave the data of a schema as it is, but for the parts of it under
a key `schema`. -/
lemma ReadFrom.get?_swept (stem : ReadFrom d a p q) (hschema : a.modern = .schema orFlag)
    (hkey : key ∈ dataKeywords) (v : Json) :
    (swept q v).get? key =
      (v.get? key).map (if .key "schema" ∈ q then id else plainParts) := by
  cases hbool : v.isBool with
  | true =>
    -- What a Boolean is replaced by, holds no data.
    have hnone : v.get? key = none := by
      cases v with
      | bool b => rfl
      | _ => cases hbool
    rw [hnone, Option.map_none]
    by_contra hsome
    obtain ⟨x, hx⟩ := Option.ne_none_iff_exists'.1 hsome
    rw [← Json.child?_key] at hx hnone
    rcases exists_child_of_swept stem hx with ⟨u, hu, -⟩ | ⟨htype, -⟩ | ⟨hadditional, -⟩
    · rw [hnone] at hu
      cases hu
    · cases htype
      simp [dataKeywords] at hkey
    · cases hadditional
      simp [dataKeywords] at hkey
  | false =>
    have hfits := stem.fits .document rfl
    have hfits' := stem.fits .part trivial
    have hdocument : Stage.document.along q ≠ .part := by simp [Stage.along_eq_part]
    rw [← Json.child?_key, swept, Stage.child?_apply _ _ (Stage.isBool_apply _ hbool),
      Stage.child?_apply _ _ hbool, hfits.next_data hschema hkey, hfits'.next_data hschema hkey,
      if_neg hdocument, Option.map_map, Json.child?_key]
    congr 1
    by_cases hmem : Step.key "schema" ∈ q
    · simp only [Stage.along_eq_part, hmem, not_true_eq_false, and_false, if_false, if_true]
      rfl
    · simp only [Stage.along_eq_part, hmem, not_false_eq_true, and_true, if_true, if_false]
      rfl

/-! ### Data -/

/-- Rewriting constants leaves data as it is, unless it makes an enumeration. -/
lemma get?_rewrittenAt_of_data (wellKeyed : v.WellKeyed) (hkey : key ∈ dataKeywords)
    (hconst : key ≠ "const")
    (authored : key = "enum" → v.get? "enum" = none → v.get? "const" = none) :
    (rewrittenAt q v).get? key = v.get? key := by
  rw [rewrittenAt]
  split
  · rfl
  simp only [dataKeywords, List.mem_cons, List.not_mem_nil, or_false] at hkey
  have hdata : rewrittenAt [.key key] = id := by
    rcases hkey with rfl | rfl | rfl | rfl <;> rfl
  rw [get?_withoutConst wellKeyed, if_neg hconst, hdata, Option.map_id, id]
  rcases hkey with rfl | rfl | rfl | rfl
  · cases v.get? "const" <;> simp [inPlaceOfConst]
  · cases v.get? "const" <;> simp [inPlaceOfConst]
  · cases henum : v.get? "enum" with
    | some c => rfl
    | none => simp [authored rfl henum]
  · exact absurd rfl hconst

/-- What becomes of data: the example, the default value and the enumeration of a schema that is
read, unless a constant makes the enumeration. Where a key `schema` stands above the schema, or
no such key stands in the data, it is left as it was written. Anywhere else, as among the
definitions, what the data holds under such a key is taken for a schema. -/
theorem data_kept (wellKeyed : d.WellKeyed) (stem : ReadFrom d a p q)
    (hschema : a.modern = .schema orFlag) (hx : (unified d).follow? p = some x)
    (hkey : key ∈ ["example", "default", "enum"])
    (inline : a = .inlineSchema → key ∈ inlineKeywords)
    (authored : key = "enum" → d.follow? (q ++ [.key "enum"]) = none →
      d.follow? (q ++ [.key "const"]) = none) :
    ((.key "schema" ∈ q ∨ ∀ path,
      d.follow? (q ++ [.key key] ++ (path ++ [.key "schema"])) = none) →
      x.get? key = d.follow? (q ++ [.key key])) ∧
    (.key "schema" ∉ q → x.get? key = (d.follow? (q ++ [.key key])).map plainParts) := by
  obtain ⟨v, hv, hmembers⟩ := stem.get?_schema wellKeyed hschema hx
  have hmember := Json.follow?_concat_key hv
  have hdata : key ∈ dataKeywords := by
    simp only [dataKeywords, List.mem_cons, List.not_mem_nil, or_false] at hkey ⊢
    tauto
  have hconst : key ≠ "const" := by
    rintro rfl
    simp at hkey
  have hauthored : key = "enum" → (swept q v).get? "enum" = none →
      (swept q v).get? "const" = none := by
    intro henum
    rw [stem.get?_swept hschema (by simp [dataKeywords]),
      stem.get?_swept hschema (by simp [dataKeywords]),
      Option.map_eq_none_iff, Option.map_eq_none_iff, ← hmember, ← hmember]
    exact authored henum
  have hswept : x.get? key =
      (d.follow? (q ++ [.key key])).map (if .key "schema" ∈ q then id else plainParts) := by
    rw [hmembers, if_pos inline,
      get?_rewrittenAt_of_data (wellKeyed_swept (wellKeyed.follow? hv) q) hdata hconst hauthored,
      stem.get?_swept hschema hdata, ← hmember]
  by_cases hmem : .key "schema" ∈ q
  · rw [if_pos hmem, Option.map_id, id] at hswept
    exact ⟨fun _ => hswept, fun hnot => absurd hmem hnot⟩
  · rw [if_neg hmem] at hswept
    refine ⟨?_, fun _ => hswept⟩
    rintro (hmem' | clear)
    · exact absurd hmem' hmem
    · cases hwritten : d.follow? (q ++ [.key key]) with
      | none => rw [hswept, hwritten, Option.map_none]
      | some w =>
        have hself : plainParts w = w := by
          apply Stage.plainParts_eq_self (wellKeyed.follow? hwritten)
          intro path
          have hnone := clear path
          rwa [Json.follow?_append, hwritten, Option.bind_some] at hnone
        rw [hswept, hwritten, Option.map_some, hself]

/-- A document with one operation and one response of it that has a schema. -/
def responding (code : String) (schema : Json) : Json :=
  .obj [("paths", .obj [("/pets", .obj [("get", .obj [("responses", .obj [(code, .obj [
    ("content", .obj [("application/json", .obj [("schema", schema)])])])])])])])]

/-- Where the schema of the response stands. -/
def respondedSchema (code : String) : Path :=
  [.key "paths", .key "/pets", .key "get", .key "responses", .key code, .key "content",
    .key "application/json", .key "schema"]

lemma reads_respondedSchema {code : String} (named : isExtensionKey code = false) :
    Reads (respondedSchema code) (.schema false) :=
  (Route.nil.concat .paths).concat (.path "/pets" rfl) |>.concat (.operation "get" (by decide))
    |>.concat .codes |>.concat (.code true code named) |>.concat (.responseContent true)
    |>.concat (.media "application/json") |>.concat .mediaSchema

lemma wellKeyed_responding (code : String) {schema : Json} (wellKeyed : schema.WellKeyed) :
    (responding code schema).WellKeyed := by
  simpa [responding, Json.WellKeyed, Json.WellKeyedEntries, Entries.keys] using wellKeyed

lemma withoutBooleanSchemas_responding {code : String} (hcode : code ≠ "schema")
    (schema : Json) :
    withoutBooleanSchemas (responding code schema) = responding code (plainSchema schema) := by
  simp [responding, withoutBooleanSchemas, Json.modify, Json.mapEntries, Entries.modify,
    plainParts, plainPartMembers, hcode]

/-- A schema with an example that has a key `schema`. -/
def exemplified : Json :=
  .obj [("type", .str "object"), ("example", .obj [("schema", .bool true)])]

/-- In a response the example is kept. -/
theorem data_kept_responding :
    ∃ x, (unified (responding "200" exemplified)).follow? (respondedSchema "200") = some x ∧
      x.get? "example" = some (.obj [("schema", .bool true)]) := by
  have wellKeyed : exemplified.WellKeyed := by
    simp [exemplified, Json.WellKeyed, Json.WellKeyedEntries, Entries.keys]
  have hx : (unified (responding "200" exemplified)).follow? (respondedSchema "200") =
      some exemplified := by
    have plain : plainSchema exemplified = exemplified := by
      simp [exemplified, plainSchema, plainMembers, plainKeyword]
    rw [unified, withoutBooleanSchemas_responding (by decide), plain]
    rfl
  have stem : ReadFrom (responding "200" exemplified) (.schema false) (respondedSchema "200")
      (respondedSchema "200") := (reads_respondedSchema rfl).readFrom rfl
  have hdata : "example" ∈ ["example", "default", "enum"] := by decide
  refine ⟨exemplified, hx,
    (data_kept (wellKeyed_responding "200" wellKeyed) stem rfl hx hdata ?_ ?_).1
      (.inl (by decide))⟩
  · simp
  · simp

/-- A document with a definition that has an example with a key `schema`. -/
def defining : Json :=
  .obj [("components", .obj [("schemas", .obj [("Pet", exemplified)])])]

/-- In a definition the example is taken for a part of the document, and its flag
for a schema. -/
theorem data_changed_defining :
    Reads [.key "components", .key "schemas", .key "Pet"] (.schema false) ∧
    defining.follow? [.key "components", .key "schemas", .key "Pet", .key "example"] =
      some (.obj [("schema", .bool true)]) ∧
    (unified defining).follow? [.key "components", .key "schemas", .key "Pet", .key "example"] =
      some (.obj [("schema", .obj [])]) := by
  have plain : withoutBooleanSchemas defining =
      .obj [("components", .obj [("schemas", .obj [("Pet", .obj [
        ("type", .str "object"), ("example", .obj [("schema", .obj [])])])])])] := by
    simp [defining, exemplified, withoutBooleanSchemas, Json.modify, Json.mapEntries,
      Entries.modify, Json.mapValues, Entries.mapValues, plainParts, plainPartMembers,
      plainSchema, plainMembers, plainKeyword, ofBoolean]
  refine ⟨(Route.nil.concat .components).concat .newSchemas |>.concat (.schema "Pet"), rfl, ?_⟩
  rw [unified, plain]
  rfl

/-! ### Constants -/

/-- A constant is replaced by an enumeration of it alone, in every schema that is read and that
has no enumeration, unless a key on the path to it is one that data stands under. Then no
constant is left, and the schema is still there, or what it was moved to. -/
theorem const_replaced (wellKeyed : d.WellKeyed) (stem : ReadFrom d a p q)
    (hschema : a.modern = .schema orFlag) (outside : q.any entersData = false) {c : Json}
    (hconst : d.follow? (q ++ [.key "const"]) = some c)
    (unlisted : d.follow? (q ++ [.key "enum"]) = none) :
    (Reads q a → ((unified d).follow? q).isSome = true) ∧
      ∀ x, (unified d).follow? p = some x → x.get? "const" = none ∧
        ∃ c', (withoutBooleanSchemas d).follow? (q ++ [.key "const"]) = some c' ∧
          x.get? "enum" = some (.arr [c']) := by
  obtain ⟨v, hv⟩ := Option.isSome_iff_exists.1 stem.isSome_follow?
  have hmember := Json.follow?_concat_key hv
  constructor
  · intro reads
    have hkept : Kept q := by
      have hfind : q.find? entersData = none := by simpa using outside
      simp [Kept, hfind]
    obtain ⟨x, hx, -⟩ := reads.exists_lift_eq (follow?_unlifted wellKeyed hv hkept)
    exact Option.isSome_iff_exists.2 ⟨x, hx⟩
  · intro x hx
    obtain ⟨v', hv', hmembers⟩ := stem.get?_schema wellKeyed hschema hx
    obtain rfl := Option.some.inj (hv.symm.trans hv')
    have hc := follow?_withoutBooleanSchemas hconst
    refine ⟨?_, swept (q ++ [.key "const"]) c, hc, ?_⟩
    · rw [hmembers, rewrittenAt_of_not_any outside,
        get?_withoutConst (wellKeyed_swept (wellKeyed.follow? hv) q), if_pos rfl, ite_self]
    · rw [Json.follow?_concat_key (follow?_withoutBooleanSchemas hv)] at hc
      rw [hmembers, if_pos fun _ => by decide, rewrittenAt_of_not_any outside,
        get?_withoutConst (wellKeyed_swept (wellKeyed.follow? hv) q), if_neg (by decide), hc,
        stem.get?_swept hschema (by simp [dataKeywords]), ← hmember, unlisted]
      simp [inPlaceOfConst]

/-- A schema with a constant and nothing else. -/
def catOnly : Json := .obj [("const", .str "cat")]

lemma plainSchema_catOnly : plainSchema catOnly = catOnly := by
  simp [catOnly, plainSchema, plainMembers, plainKeyword]

/-- The constant of a response is replaced. -/
theorem const_replaced_responding :
    ∃ x, (unified (responding "200" catOnly)).follow? (respondedSchema "200") = some x ∧
      x.get? "const" = none ∧ x.get? "enum" = some (.arr [.str "cat"]) := by
  have wellKeyed : catOnly.WellKeyed := by
    simp [catOnly, Json.WellKeyed, Json.WellKeyedEntries, Entries.keys]
  have reads : Reads (respondedSchema "200") (.schema false) := reads_respondedSchema rfl
  obtain ⟨hthere, hreplaced⟩ := const_replaced (wellKeyed_responding "200" wellKeyed)
    (reads.readFrom rfl) rfl (by decide) (c := .str "cat") rfl rfl
  obtain ⟨x, hx⟩ := Option.isSome_iff_exists.1 (hthere reads)
  obtain ⟨hconst, c, hc, henum⟩ := hreplaced x hx
  rw [withoutBooleanSchemas_responding (by decide), plainSchema_catOnly] at hc
  cases hc
  exact ⟨x, hx, hconst, henum⟩

/-- The constant of a default response is left, as it is taken for data. -/
theorem const_left_default :
    Reads (respondedSchema "default") (.schema false) ∧
    (responding "default" catOnly).follow? (respondedSchema "default") = some catOnly ∧
    (unified (responding "default" catOnly)).follow? (respondedSchema "default") =
      some catOnly := by
  refine ⟨reads_respondedSchema rfl, rfl, ?_⟩
  rw [unified, withoutBooleanSchemas_responding (by decide), plainSchema_catOnly]
  rfl

end OpenApiDoc.Document
