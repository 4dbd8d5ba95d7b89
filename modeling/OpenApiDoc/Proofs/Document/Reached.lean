import OpenApiDoc.Proofs.Document.Reading
import OpenApiDoc.Proofs.Document.Unified

/-!
# Which Boolean schemas are eliminated

The sweeps over a document come to the definitions and to whatever stands under the outermost key
`schema`, and from there to the schemas within. Parameters are lifted later, so the items of one
that is written the older way are not come to; neither are media types that are written as lists,
nor what is read below a part that is named `schema`.
-/

namespace OpenApiDoc.Document

open Json (Step Path)

variable {p q : Path} {d v x : Json}

/-- The sweeps come to the schema at a path: it is a definition, or stands under the outermost
key `schema`, or stands within such a schema. -/
def Reached (q : Path) : Prop :=
  ∃ start rest, q = start ++ rest ∧ Route (.schema false) rest (.schema false) ∧
    ((∃ name, start = [.key "components", .key "schemas", .key name]) ∨
      (∃ name, start = [.key "definitions", .key name]) ∨
      ∃ outer, start = outer ++ [.key "schema"] ∧ .key "schema" ∉ outer)

/-- The stage at which a sweep within a schema comes to a value that is read so. -/
def Place.stage : Place → Stage
  | .schema false => .schema
  | .schema true => .value
  | .schemas => .schemas
  | .branches => .branches
  | _ => .untouched

/-- A value that is read so is a schema or holds its schemas. -/
def Place.IsWithinSchema : Place → Prop
  | .schema _ | .schemas | .branches => True
  | _ => False

lemma Route.stage {b : Place} (route : Route (.schema false) q b) :
    b.IsWithinSchema ∧ Stage.schema.along q = b.stage := by
  induction route with
  | nil => exact ⟨trivial, rfl⟩
  | concat _ leads ih =>
    obtain ⟨hwithin, hstage⟩ := ih
    rw [Stage.along_concat, hstage]
    cases leads with
    | schema name | branch i => exact ⟨trivial, rfl⟩
    | properties orFlag | items orFlag | allOf orFlag | additional orFlag =>
      cases orFlag <;> simp [Place.IsWithinSchema, Place.stage, Stage.next, Stage.keyword]
    | _ => exact hwithin.elim

/-- A sweep within a schema follows the schemas in it. -/
lemma exists_route_of_stage (q : Path) (h : Stage.schema.along q ≠ .untouched) :
    ∃ b, Route (.schema false) q b ∧ b.IsWithinSchema ∧ Stage.schema.along q = b.stage := by
  induction q using List.reverseRecOn with
  | nil => exact ⟨.schema false, .nil, trivial, rfl⟩
  | append_singleton q s ih =>
    rw [Stage.along_concat] at h ⊢
    have hq : Stage.schema.along q ≠ .untouched := by
      intro huntouched
      rw [huntouched] at h
      cases s <;> exact h rfl
    obtain ⟨b, route, hwithin, hstage⟩ := ih hq
    rw [hstage] at h ⊢
    cases b with
    | schemas =>
      cases s with
      | key name => exact ⟨_, route.concat (.schema name), trivial, rfl⟩
      | index i => exact absurd rfl h
    | branches =>
      cases s with
      | key name => exact absurd rfl h
      | index i => exact ⟨_, route.concat (.branch i), trivial, rfl⟩
    | schema orFlag =>
      cases s with
      | index i => cases orFlag <;> exact absurd rfl h
      | key name =>
        have hnext : (Place.schema orFlag).stage.next (.key name) = .keyword name := by
          cases orFlag <;> rfl
        rw [hnext] at h ⊢
        by_cases hproperties : name = "properties"
        · subst hproperties
          exact ⟨_, route.concat (.properties orFlag), trivial, rfl⟩
        by_cases hitems : name = "items"
        · subst hitems
          exact ⟨_, route.concat (.items orFlag), trivial, rfl⟩
        by_cases hallOf : name = "allOf"
        · subst hallOf
          exact ⟨_, route.concat (.allOf orFlag), trivial, rfl⟩
        by_cases hadditional : name = "additionalProperties"
        · subst hadditional
          exact ⟨_, route.concat (.additional orFlag), trivial, rfl⟩
        · simp [Stage.keyword, hproperties, hitems, hallOf, hadditional] at h
    | _ => exact hwithin.elim

lemma along_schema_iff :
    Stage.schema.along q = .schema ↔ Route (.schema false) q (.schema false) := by
  constructor
  · intro h
    obtain ⟨b, route, hwithin, hstage⟩ := exists_route_of_stage q (by simp [h])
    rw [h] at hstage
    cases b with
    | schema orFlag =>
      cases orFlag with
      | false => exact route
      | true => cases hstage
    | _ => cases hstage
  · exact fun route => route.stage.2

lemma along_schemas_iff : Stage.schemas.along q = .schema ↔
    ∃ name rest, q = .key name :: rest ∧ Route (.schema false) rest (.schema false) := by
  constructor
  · intro h
    match q with
    | [] => cases h
    | .index i :: rest => simp [Stage.next] at h
    | .key name :: rest => exact ⟨name, rest, rfl, along_schema_iff.1 h⟩
  · rintro ⟨name, rest, rfl, route⟩
    exact along_schema_iff.2 route

lemma along_components_iff : Stage.components.along q = .schema ↔
    ∃ rest, q = .key "schemas" :: rest ∧ Stage.schemas.along rest = .schema := by
  constructor
  · intro h
    match q with
    | [] => cases h
    | .index i :: rest => simp [Stage.next] at h
    | .key name :: rest =>
      rw [Stage.along_cons, Stage.next] at h
      split at h
      · next hname => exact ⟨rest, by rw [hname], h⟩
      · simp at h
  · rintro ⟨rest, rfl, h⟩
    exact h

lemma along_document_iff : Stage.document.along q = .schema ↔
    ∃ rest, (q = .key "components" :: .key "schemas" :: rest ∨ q = .key "definitions" :: rest) ∧
      Stage.schemas.along rest = .schema := by
  constructor
  · intro h
    match q with
    | [] => cases h
    | .index i :: rest => simp [Stage.next] at h
    | .key name :: rest =>
      rw [Stage.along_cons, Stage.next] at h
      split at h
      · next hname =>
        obtain ⟨rest, rfl, h⟩ := along_components_iff.1 h
        exact ⟨rest, .inl (by rw [hname]), h⟩
      · split at h
        · next hname => exact ⟨rest, .inr (by rw [hname]), h⟩
        · simp at h
  · rintro ⟨rest, rfl | rfl, h⟩
    · exact h
    · exact h

lemma along_part_iff : Stage.part.along q = .schema ↔
    ∃ outer rest, q = outer ++ .key "schema" :: rest ∧ .key "schema" ∉ outer ∧
      Route (.schema false) rest (.schema false) := by
  constructor
  · intro h
    have hmem : .key "schema" ∈ q := by
      by_contra hnot
      rw [Stage.along_eq_part.2 ⟨rfl, hnot⟩] at h
      cases h
    obtain ⟨outer, rest, rfl, houter⟩ := List.eq_append_cons_of_mem hmem
    rw [Stage.along_append, Stage.along_eq_part.2 ⟨rfl, houter⟩] at h
    exact ⟨outer, rest, rfl, houter, along_schema_iff.1 h⟩
  · rintro ⟨outer, rest, rfl, houter, route⟩
    rw [Stage.along_append, Stage.along_eq_part.2 ⟨rfl, houter⟩]
    exact along_schema_iff.2 route

/-- The sweeps come to a schema just where one of them is at the stage of a schema. -/
lemma reached_iff :
    Reached q ↔ Stage.document.along q = .schema ∨ Stage.part.along q = .schema := by
  rw [along_document_iff, along_part_iff]
  simp only [along_schemas_iff]
  constructor
  · rintro ⟨start, rest, rfl, route, ⟨name, rfl⟩ | ⟨name, rfl⟩ | ⟨outer, rfl, houter⟩⟩
    · exact .inl ⟨.key name :: rest, .inl rfl, name, rest, rfl, route⟩
    · exact .inl ⟨.key name :: rest, .inr rfl, name, rest, rfl, route⟩
    · exact .inr ⟨outer, rest, by simp, houter, route⟩
  · rintro (⟨_, rfl | rfl, name, rest, rfl, route⟩ | ⟨outer, rest, rfl, houter, route⟩)
    · exact ⟨_, rest, rfl, route, .inl ⟨name, rfl⟩⟩
    · exact ⟨_, rest, rfl, route, .inr (.inl ⟨name, rfl⟩)⟩
    · exact ⟨outer ++ [.key "schema"], rest, by simp, route, .inr (.inr ⟨outer, rfl, houter⟩)⟩

/-- Writing a Boolean schema out that the sweeps come to, makes no difference to them. -/
lemma withoutBooleanSchemas_writtenOut (wellKeyed : d.WellKeyed)
    (stem : ReadFrom d (.schema false) p q) (reached : Reached q) :
    withoutBooleanSchemas (d.modifyAt writtenOut q) = withoutBooleanSchemas d := by
  obtain ⟨v, hv⟩ := Option.isSome_iff_exists.1 stem.isSome_follow?
  have hfits := stem.fits .document rfl
  change Stage.part.apply (Stage.document.apply _) = Stage.part.apply (Stage.document.apply d)
  rcases eq_or_ne (Stage.document.along q) .schema with hdocument | hdocument
  · have hsame := Stage.apply_modifyAt .document (f := writtenOut) (g := id) wellKeyed hv
      (by rw [hdocument]; exact Stage.apply_writtenOut_of_schema v)
    rw [hsame, Json.modifyAt_id]
  · have hpart := (reached_iff.1 reached).resolve_left hdocument
    have hschemas : Stage.document.along q ≠ .schemas := by
      intro h
      rw [h] at hfits
      cases hfits
    have hlater := Stage.apply_modifyAt .document (f := writtenOut) (g := writtenOut)
      wellKeyed hv (Stage.apply_writtenOut hdocument hschemas v)
    have hsame := Stage.apply_modifyAt .part (f := writtenOut) (g := id)
      (Stage.wellKeyed_apply .document wellKeyed) (Stage.follow?_apply .document hv)
      (by rw [hpart]; exact Stage.apply_writtenOut_of_schema _)
    rw [hlater, hsame, Json.modifyAt_id]

/-- A Boolean is left by the sweeps just where they do not come to a schema. -/
lemma swept_eq_bool_iff {b : Bool} : swept q v = .bool b ↔ v = .bool b ∧ ¬Reached q := by
  have hstage : ∀ {stage : Stage} {v : Json},
      stage.apply v = .bool b ↔ v = .bool b ∧ stage ≠ .schema := by
    intro stage v
    cases hbool : v.isBool with
    | false =>
      have hfalse := Stage.isBool_apply stage hbool
      constructor
      · intro happly
        rw [happly] at hfalse
        cases hfalse
      · rintro ⟨rfl, -⟩
        cases hbool
    | true =>
      cases v with
      | bool b' =>
        rw [Stage.apply_bool]
        split
        · next hschema => cases b' <;> simp [ofBoolean, hschema]
        · next hschema => simp [hschema]
      | _ => cases hbool
  rw [swept, hstage, hstage, reached_iff, not_or, and_assoc]

lemma rewrittenAt_eq_bool_iff {b : Bool} : rewrittenAt q v = .bool b ↔ v = .bool b := by
  rw [rewrittenAt]
  split
  · rfl
  · cases v with
    | obj members => simp [withoutConst_obj]
    | arr items => simp [withoutConst_arr]
    | _ => rfl

/-- A document stays an object, or stays none, when a part of it is changed. -/
lemma load_modifyAt {f : Json → Json} (nonempty : q ≠ [])
    (hunified : unified (d.modifyAt f q) = unified d) : load (d.modifyAt f q) = load d := by
  cases q with
  | nil => exact absurd rfl nonempty
  | cons s rest =>
    cases s with
    | key name =>
      cases d with
      | obj members =>
        rw [Json.modifyAt, Json.modify_obj] at hunified ⊢
        rw [load, load, hunified]
      | _ => rfl
    | index i => cases d <;> rfl

/-- No document loads that has a Boolean where a schema is read. -/
lemma load_ne_of_bool {b : Bool} (reads : Reads p (.schema false))
    (hx : (unified d).follow? p = some (.bool b)) (found : Noted Document) :
    load d ≠ .ok found := by
  intro h
  rcases accepts_of_load h reads hx with hnull | ⟨hflag, -⟩ | ⟨s, hs⟩
  · cases hnull
  · cases hflag
  · cases hs

/-- What becomes of Boolean schemas. One that the sweeps come to loads as what it stands for does
when that is written instead. One that is read and that they do not come to is left, and so no
document with it loads; there is no other Boolean left where a schema is read, but in a constant
that is taken for a media type. -/
theorem boolean_schemas (wellKeyed : d.WellKeyed) :
    (∀ p q, ReadFrom d (.schema false) p q → Reached q →
      load (d.modifyAt writtenOut q) = load d) ∧
    (∀ p q b x, ReadFrom d (.schema false) p q → d.follow? q = some (.bool b) →
      (unified d).follow? p = some x → (x = .bool b ↔ ¬Reached q)) ∧
    ∀ p b, Reads p (.schema false) → (unified d).follow? p = some (.bool b) →
      (∀ found, load d ≠ .ok found) ∧
        (MediaOfConst p ∨
          ∃ q, ReadFrom d (.schema false) p q ∧ d.follow? q = some (.bool b) ∧ ¬Reached q) := by
  refine ⟨?_, ?_, ?_⟩
  · intro p q stem reached
    have nonempty : q ≠ [] := by
      rintro rfl
      obtain ⟨start, rest, hnil, -, ⟨name, rfl⟩ | ⟨name, rfl⟩ | ⟨outer, rfl, -⟩⟩ := reached <;>
        simp at hnil
    apply load_modifyAt nonempty
    rw [unified, unified, withoutBooleanSchemas_writtenOut wellKeyed stem reached]
  · intro p q b x stem hb hx
    obtain ⟨v, hv, -, hlift⟩ := stem.unified_eq wellKeyed hx
    obtain rfl := Option.some.inj (hb.symm.trans hv)
    obtain rfl := Option.some.inj hlift
    simp [rewrittenAt_eq_bool_iff, swept_eq_bool_iff]
  · intro p b reads hx
    refine ⟨load_ne_of_bool reads hx, ?_⟩
    rcases exists_readFrom_schema wellKeyed reads hx with ⟨a, q, stem, ha⟩ | made | media
    · right
      cases a with
      | schema orFlag =>
        cases ha
        obtain ⟨v, hv, -, hlift⟩ := stem.unified_eq wellKeyed hx
        have hswept := rewrittenAt_eq_bool_iff.1 (Option.some.inj hlift)
        obtain ⟨rfl, unreached⟩ := swept_eq_bool_iff.1 hswept
        exact ⟨q, stem, hv, unreached⟩
      | inlineSchema =>
        obtain ⟨_, -, ⟨members, hobj⟩, -⟩ := stem.inlineSchema_eq wellKeyed hx
        cases hobj
      | _ => cases ha
    · cases made
    · exact .inl media

/-- A definition that admits everything loads as one without keywords does. -/
theorem boolean_schemas_definition :
    load (.obj [("definitions", .obj [("Any", .obj [])])]) =
      load (.obj [("definitions", .obj [("Any", .bool true)])]) := by
  have wellKeyed : (Json.obj [("definitions", .obj [("Any", .bool true)])]).WellKeyed := by
    simp [Json.WellKeyed, Json.WellKeyedEntries, Entries.keys]
  have reads : Reads [.key "definitions", .key "Any"] (.schema false) :=
    (Route.nil.concat .definitions).concat (.schema "Any")
  have reached : Reached [.key "definitions", .key "Any"] :=
    ⟨[.key "definitions", .key "Any"], [], rfl, .nil, .inr (.inl ⟨"Any", rfl⟩)⟩
  exact (boolean_schemas wellKeyed).1 _ _ (reads.readFrom rfl) reached

/-- A document with an operation and a parameter of it that is a list, written the older way. -/
def listing (items : Json) : Json :=
  .obj [("paths", .obj [("/pets", .obj [("get", .obj [("parameters", .arr [.obj [
    ("name", .str "tags"), ("in", .str "query"), ("type", .str "array"),
    ("items", items)]])])])])]

/-- Where the items of the parameter are read. -/
def listedItems : Path :=
  [.key "paths", .key "/pets", .key "get", .key "parameters", .index 0, .key "schema",
    .key "items"]

/-- The items of the parameter are left when they admit everything, and so the document does not
load; it loads when that is written out. -/
theorem boolean_items_left :
    Reads listedItems (.schema false) ∧
    (unified (listing (.bool true))).follow? listedItems = some (.bool true) ∧
    (∀ found, load (listing (.bool true)) ≠ .ok found) ∧
    ∃ found, load (listing (.obj [])) = .ok found := by
  have plain :
      ∀ {items}, withoutBooleanSchemas (listing items) = listing (plainParts items) := by
    intro items
    simp [listing, withoutBooleanSchemas, Json.modify, Json.mapEntries, Entries.modify,
      plainParts, plainPartMembers, plainPartItems]
  have reads : Reads listedItems (.schema false) :=
    (Route.nil.concat .paths).concat (.path "/pets" rfl) |>.concat (.operation "get" (by decide))
      |>.concat .ownParameters |>.concat (.ownParameter true 0) |>.concat (.parameterSchema true)
      |>.concat (.items false)
  have hleft : (unified (listing (.bool true))).follow? listedItems = some (.bool true) := by
    rw [unified, plain]
    rfl
  refine ⟨reads, hleft, load_ne_of_bool reads hleft, ?_⟩
  have hwritten : load (listing (.obj [])) = ofUnified (unified (listing (.obj []))) := rfl
  rw [hwritten, unified, plain]
  exact ⟨_, rfl⟩

end OpenApiDoc.Document
