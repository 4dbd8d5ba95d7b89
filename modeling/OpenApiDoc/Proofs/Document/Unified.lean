import OpenApiDoc.Proofs.Document.BooleanSchemas
import OpenApiDoc.Proofs.Document.ConstSchemas
import OpenApiDoc.Proofs.Document.Lifting

/-!
# Where unified schemas stem from

The passes over a document do not know what the loader reads a value as; they go by keys. Put
together, what the loader reads in a unified document stems from what was written, or was put in
where nothing was written: the type or the enumeration that a constant is replaced by, or the
flag of a Boolean schema that is written out.
-/

namespace OpenApiDoc.Document

open Json (Step Path)

variable {a b : Place} {s : Step} {p q : Path} {d v w x y : Json}

/-! ### Stages and places -/

/-- Whether a value that is read so may stand under a key `schema`, as what is named so or as a
schema. -/
def Place.MayBeSchema : Place → Prop
  | .schema _ | .parameter _ | .inlineSchema | .requestBody | .response _ | .ownContent
  | .ownMedia _ | .media | .pathItem => True
  | _ => False

/-- A sweep may be at this stage with a value that is read so. -/
def Stage.Fits : Stage → Place → Prop
  | .document, a => a = .document
  | .components, a => a = .components
  | .schemas, a => a = .schemas
  | .branches, a => a = .branches
  | .value, a => a = .schema true
  | .schema, a => a.MayBeSchema
  | .untouched, _ | .part, _ => True

variable {stage : Stage}

lemma Leads.mayBeSchema (leads : Leads a (.key "schema") b) : b.MayBeSchema := by
  generalize hs : Step.key "schema" = s at leads
  cases leads with
  | operation method known =>
    cases hs
    simp [Method.all, Method.key] at known
  | _ => trivial

lemma Stage.Fits.next (fits : stage.Fits a) (leads : Leads a s b) : (stage.next s).Fits b := by
  cases stage with
  | document | components | schemas | branches | value =>
    cases fits
    cases leads <;> simp [Stage.next, Stage.keyword, Stage.Fits, Place.MayBeSchema]
  | schema =>
    cases leads with
    | operation method known =>
      have hmethod : Stage.keyword method = .untouched := by
        obtain ⟨m, -, rfl⟩ := List.mem_map.1 known
        cases m <;> simp [Stage.keyword, Method.key]
      rw [Stage.next, hmethod]
      trivial
    | _ =>
      first
      | exact fits.elim
      | simp [Stage.next, Stage.keyword, Stage.Fits, Place.MayBeSchema]
  | untouched => cases s <;> trivial
  | part =>
    cases s with
    | index i => trivial
    | key name =>
      rw [Stage.next]
      split
      · next hname =>
        subst hname
        exact leads.mayBeSchema
      · trivial

/-- Whatever is read of a document, both sweeps come to it at a stage that fits. -/
lemma ReadFrom.fits (h : ReadFrom d a p q) (stage : Stage) (fits : stage.Fits .document) :
    (stage.along q).Fits a := by
  induction h with
  | document => exact fits
  | step _ leads _ ih =>
    rw [Stage.along_concat]
    exact ih.next leads
  | inlineSchema _ _ ih | ownContent _ _ ih | ownMedia _ _ ih =>
    generalize stage.along _ = st at ih ⊢
    cases st with
    | schema | untouched | part => trivial
    | _ => cases ih
  | ownSchema _ _ ih =>
    rw [Stage.along_concat]
    generalize stage.along _ = st at ih ⊢
    cases st with
    | schema | untouched | part => trivial
    | _ => cases ih

/-! ### Before lifting -/

/-- What both sweeps make of a value that a path leads to. -/
def swept (path : Path) (v : Json) : Json :=
  (Stage.part.along path).apply ((Stage.document.along path).apply v)

/-- A document that only lifting is left to do for. -/
def unlifted (d : Json) : Json := withoutConst (withoutBooleanSchemas d)

lemma wellKeyed_withoutBooleanSchemas (wellKeyed : d.WellKeyed) :
    (withoutBooleanSchemas d).WellKeyed :=
  Stage.wellKeyed_apply .part (Stage.wellKeyed_apply .document wellKeyed)

lemma wellKeyed_unlifted (wellKeyed : d.WellKeyed) : (unlifted d).WellKeyed :=
  wellKeyed_withoutConst (wellKeyed_withoutBooleanSchemas wellKeyed)

lemma follow?_withoutBooleanSchemas (hv : d.follow? q = some v) :
    (withoutBooleanSchemas d).follow? q = some (swept q v) :=
  Stage.follow?_apply .part (Stage.follow?_apply .document hv)

lemma follow?_unlifted (wellKeyed : d.WellKeyed) (hv : d.follow? q = some v) (kept : Kept q) :
    (unlifted d).follow? q = some (rewrittenAt q (swept q v)) :=
  follow?_withoutConst (wellKeyed_withoutBooleanSchemas wellKeyed)
    (follow?_withoutBooleanSchemas hv) kept

lemma wellKeyed_swept (wellKeyed : v.WellKeyed) (path : Path) : (swept path v).WellKeyed :=
  Stage.wellKeyed_apply _ (Stage.wellKeyed_apply _ wellKeyed)

/-- A step into a swept value leads to the swept value that the step leads to, or to a keyword of
the schema that a Boolean was replaced by. -/
lemma exists_child_of_swept (stem : ReadFrom d a p q) (hchild : (swept q v).child? s = some x) :
    (∃ u, v.child? s = some u ∧ x = swept (q ++ [s]) u) ∨
      ((s = .key "type" ∧ ∃ name, x = .str name) ∨
        (s = .key "additionalProperties" ∧ a.MayBeSchema ∧ ∃ b, x = .bool b)) := by
  have hfits := stem.fits .document rfl
  have hfits' := stem.fits .part trivial
  rcases Stage.exists_child_of_apply hchild with ⟨y, hy, rfl⟩ | ⟨hstage, hmade⟩
  · rcases Stage.exists_child_of_apply hy with ⟨u, hu, rfl⟩ | ⟨hstage, hmade⟩
    · exact .inl ⟨u, hu, by rw [swept, Stage.along_concat, Stage.along_concat]⟩
    · rw [hstage] at hfits
      rcases hmade with ⟨hs, name, rfl⟩ | ⟨rfl, b, rfl⟩
      · exact .inr (.inl ⟨hs, name, Stage.apply_of_leaf _ rfl rfl rfl⟩)
      · refine .inr (.inr ⟨rfl, hfits, b, ?_⟩)
        rw [Stage.apply_bool, if_neg]
        intro hschema
        generalize Stage.part.along q = stage at hfits' hschema
        cases stage with
        | schemas => cases hfits'; cases hfits
        | _ => simp [Stage.next, Stage.keyword] at hschema
  · rw [hstage] at hfits'
    exact .inr (hmade.imp_right fun h => ⟨h.1, hfits', h.2⟩)

/-- The path goes into the media type that a constant among the media types is replaced by: the
value of the constant stands in a list, and is taken for the schema. -/
def MediaOfConst (p : Path) : Prop :=
  ∃ before rest, p = before ++ .key "enum" :: .index 0 :: rest ∧ Reads before .content

lemma MediaOfConst.append (h : MediaOfConst p) (path : Path) : MediaOfConst (p ++ path) := by
  obtain ⟨before, rest, rfl, hcontent⟩ := h
  exact ⟨before, rest ++ path, by simp, hcontent⟩

/-- What the passes put in where nothing was written. -/
inductive Made (p : Path) : Place → Json → Prop
  | type (a : Place) (name : String) : Made p a (.str name)
  | enum {a : Place} (c : Json)
      (media : ∀ b, Leads a (.index 0) b → MediaOfConst (p ++ [.index 0])) : Made p a (.arr [c])
  | flag (b : Bool) : Made p (.schema true) (.bool b)

/-- What is read where an enumeration is put in, has no first field, unless it is
a media type. -/
lemma Leads.content_of_enum (leads : Leads a (.key "enum") b) {c : Place}
    (hindex : Leads b (.index 0) c) : a = .content := by
  generalize hs : Step.key "enum" = s at leads
  cases hindex with
  | listedSchema =>
    cases leads
    rfl
  | _ => cases leads <;> simp at hs

/-- What is read where the flag of a Boolean schema is put in. -/
lemma Leads.flag_of_additional (leads : Leads a (.key "additionalProperties") b)
    (hschema : a.MayBeSchema) : b = .schema true := by
  generalize hs : Step.key "additionalProperties" = s at leads
  cases leads with
  | additional => rfl
  | operation method known =>
    cases hs
    simp [Method.all, Method.key] at known
  | _ => first | exact hschema.elim | simp at hs

/-- A step into what is unlifted leads to what was written there, or to what was put in; neither
a schema nor content is. -/
lemma exists_written_or_made (wellKeyed : d.WellKeyed) (stem : ReadFrom d a p q) (kept : Kept q)
    (hx : (unlifted d).follow? (q ++ [s]) = some x) :
    ((d.follow? (q ++ [s])).isSome = true ∧ Kept (q ++ [s])) ∨
      (s ≠ .key "schema" ∧ s ≠ .key "content" ∧ ∀ b, Leads a s b → Made (p ++ [s]) b x) := by
  obtain ⟨v, hv⟩ := Option.isSome_iff_exists.1 stem.isSome_follow?
  rw [Json.follow?_concat_of_eq (follow?_unlifted wellKeyed hv kept)] at hx
  rcases exists_child_of_rewrittenAt (wellKeyed_swept (wellKeyed.follow? hv) q) hx with
    ⟨u, hu, rfl, hconst⟩ | ⟨rfl, name, rfl⟩ | ⟨rfl, c, rfl⟩
  · rcases exists_child_of_swept stem hu with ⟨w, hw, -⟩ | ⟨rfl, name, rfl⟩ |
      ⟨rfl, hschema, b, rfl⟩
    · refine .inl ⟨?_, kept_concat.2 ⟨kept, hconst⟩⟩
      rw [Json.follow?_concat_of_eq hv, hw, Option.isSome_some]
    · refine .inr ⟨by simp, by simp, fun b _ => ?_⟩
      have hstr : rewrittenAt (q ++ [.key "type"]) (.str name) = .str name := ite_self _
      rw [hstr]
      exact .type b name
    · refine .inr ⟨by simp, by simp, fun place leads => ?_⟩
      have hbool : rewrittenAt (q ++ [.key "additionalProperties"]) (.bool b) = .bool b :=
        ite_self _
      rw [hbool]
      rw [leads.flag_of_additional hschema]
      exact .flag b
  · exact .inr ⟨by simp, by simp, fun b _ => .type b name⟩
  · refine .inr ⟨by simp, by simp, fun b leads => .enum c fun _ hindex => ?_⟩
    obtain rfl := leads.content_of_enum hindex
    exact ⟨p, [], by simp, stem.reads⟩

/-- The passes before lifting neither make a schema or content, nor lose it. -/
lemma unwritten_unlifted (wellKeyed : d.WellKeyed) (stem : ReadFrom d a p q) (kept : Kept q)
    {key : String} (hkey : key = "schema" ∨ key = "content") :
    (unlifted d).follow? (q ++ [.key key]) = none ↔ d.follow? (q ++ [.key key]) = none := by
  have hkept : Kept (q ++ [.key key]) := by
    refine kept_concat.2 ⟨kept, fun h => ?_⟩
    rcases hkey with rfl | rfl <;> simp at h
  constructor
  · intro hnone
    cases hv : d.follow? (q ++ [.key key]) with
    | none => rfl
    | some v =>
      rw [follow?_unlifted wellKeyed hv hkept] at hnone
      cases hnone
  · intro hnone
    cases hx : (unlifted d).follow? (q ++ [.key key]) with
    | none => rfl
    | some x =>
      rcases exists_written_or_made wellKeyed stem kept hx with ⟨hwritten, -⟩ |
        ⟨hschema, hcontent, -⟩
      · rw [hnone] at hwritten
        cases hwritten
      · rcases hkey with rfl | rfl
        · exact absurd rfl hschema
        · exact absurd rfl hcontent

lemma Made.child? (made : Made p a v) (leads : Leads a s b) (hchild : v.child? s = some x) :
    MediaOfConst (p ++ [s]) := by
  cases made with
  | type a name => cases s <;> cases hchild
  | flag flag => cases s <;> cases hchild
  | enum c media =>
    cases s with
    | key name => cases hchild
    | index i =>
      cases i with
      | zero => exact media b leads
      | succ i => cases hchild

/-- What is put in is no schema or content that is moved. -/
lemma Made.moved (made : Made p a v) (hflag : a ≠ .schema true)
    (unlisted : ∀ c, ¬Leads b (.index 0) c) : Made q b v := by
  cases made with
  | type _ name => exact .type b name
  | enum c _ => exact .enum c fun c leads => absurd leads (unlisted c)
  | flag flag => exact absurd rfl hflag

/-- Whatever stems from the document before lifting, stems from the document as
written, or was put in. -/
theorem ReadFrom.of_unlifted (wellKeyed : d.WellKeyed) (stem : ReadFrom (unlifted d) a p q)
    (hx : (unlifted d).follow? q = some x) :
    (ReadFrom d a p q ∧ Kept q) ∨ Made p a x ∨ MediaOfConst p := by
  induction stem generalizing x with
  | document => exact .inl ⟨.document, nofun⟩
  | @step a b p q s stem leads written ih =>
    have hchild := hx
    obtain ⟨y, hy, hchild⟩ := Json.follow?_concat_eq_some.1 hchild
    rcases ih hy with ⟨stem', kept⟩ | made | media
    · rcases exists_written_or_made wellKeyed stem' kept hx with ⟨hwritten, hkept⟩ |
        ⟨-, -, hmade⟩
      · exact .inl ⟨.step stem' leads hwritten, hkept⟩
      · exact .inr (.inl (hmade b leads))
    · exact .inr (.inr (made.child? leads hchild))
    · exact .inr (.inr (media.append [s]))
  | inlineSchema stem unwritten ih =>
    rcases ih hx with ⟨stem', kept⟩ | made | media
    · have hunwritten := (unwritten_unlifted wellKeyed stem' kept (.inl rfl)).1 unwritten
      exact .inl ⟨.inlineSchema stem' hunwritten, kept⟩
    · exact .inr (.inl (made.moved nofun nofun))
    · exact .inr (.inr (media.append _))
  | ownContent stem unwritten ih =>
    rcases ih hx with ⟨stem', kept⟩ | made | media
    · have hunwritten := (unwritten_unlifted wellKeyed stem' kept (.inr rfl)).1 unwritten
      exact .inl ⟨.ownContent stem' hunwritten, kept⟩
    · exact .inr (.inl (made.moved nofun nofun))
    · exact .inr (.inr (media.append _))
  | ownMedia mime stem ih =>
    rcases ih hx with ⟨stem', kept⟩ | made | media
    · exact .inl ⟨.ownMedia mime stem', kept⟩
    · exact .inr (.inl (made.moved nofun nofun))
    · exact .inr (.inr (media.append _))
  | ownSchema stem written ih =>
    have hchild := hx
    obtain ⟨y, hy, hchild⟩ := Json.follow?_concat_eq_some.1 hchild
    rcases ih hy with ⟨stem', kept⟩ | made | media
    · rcases exists_written_or_made wellKeyed stem' kept hx with ⟨hwritten, hkept⟩ |
        ⟨hschema, -⟩
      · exact .inl ⟨.ownSchema stem' hwritten, hkept⟩
      · exact absurd rfl hschema
    · cases made with
      | type _ name => cases hchild
      | enum c _ => cases hchild
    · exact .inr (.inr (media.append _))

/-- What the loader reads in a unified document stems from what is written, if it stems from it
without the passes. -/
theorem ReadFrom.unlifted (wellKeyed : d.WellKeyed) (stem : ReadFrom d a p q)
    (hx : (unified d).follow? p = some x) : ReadFrom (unlifted d) a p q ∧ Kept q := by
  have hwritten : ∀ {q s}, Kept (q ++ [s]) → (d.follow? (q ++ [s])).isSome = true →
      ((Document.unlifted d).follow? (q ++ [s])).isSome = true := by
    intro q s kept written
    obtain ⟨v, hv⟩ := Option.isSome_iff_exists.1 written
    rw [follow?_unlifted wellKeyed hv kept, Option.isSome_some]
  induction stem generalizing x with
  | document => exact ⟨.document, nofun⟩
  | @step a b p q s stem leads written ih =>
    obtain ⟨y, hy, hchild⟩ := Json.follow?_concat_eq_some.1 hx
    obtain ⟨stem', kept⟩ := ih hy
    suffices hkept : Kept (q ++ [s]) from ⟨.step stem' leads (hwritten hkept written), hkept⟩
    by_cases hs : s = .key "const"
    · -- A constant that is rewritten is gone, so nothing could be read there.
      subst hs
      obtain ⟨u, hu, hlift⟩ := stem'.lift_eq (wellKeyed_unlifted wellKeyed) hy
      have settled : ¬a.IsMoved := by
        generalize hs : Step.key "const" = s at leads
        cases leads with
        | inlineItems => simp at hs
        | _ => exact not_not.2 rfl
      rw [child?_lift leads settled hlift (by simp)] at hchild
      obtain ⟨w, hw, -⟩ := Option.bind_eq_some_iff.1 hchild
      intro lost
      obtain ⟨v, hv⟩ := Option.isSome_iff_exists.1 written
      have hnone := follow?_withoutConst_eq_none (wellKeyed_withoutBooleanSchemas wellKeyed)
        (follow?_withoutBooleanSchemas hv) lost
      rw [← Document.unlifted, Json.follow?_concat_of_eq hu, hw] at hnone
      cases hnone
    · exact kept_concat.2 ⟨kept, fun h => absurd h hs⟩
  | inlineSchema stem unwritten ih =>
    obtain ⟨y, hy, -⟩ := Json.follow?_concat_eq_some.1 hx
    obtain ⟨stem', kept⟩ := ih hy
    have hunwritten := (unwritten_unlifted wellKeyed stem kept (.inl rfl)).2 unwritten
    exact ⟨.inlineSchema stem' hunwritten, kept⟩
  | ownContent stem unwritten ih =>
    obtain ⟨y, hy, -⟩ := Json.follow?_concat_eq_some.1 hx
    obtain ⟨stem', kept⟩ := ih hy
    have hunwritten := (unwritten_unlifted wellKeyed stem kept (.inr rfl)).2 unwritten
    exact ⟨.ownContent stem' hunwritten, kept⟩
  | ownMedia mime stem ih =>
    obtain ⟨y, hy, -⟩ := Json.follow?_concat_eq_some.1 hx
    obtain ⟨stem', kept⟩ := ih hy
    exact ⟨.ownMedia mime stem', kept⟩
  | ownSchema stem written ih =>
    obtain ⟨y, hy, -⟩ := Json.follow?_concat_eq_some.1 hx
    obtain ⟨stem', kept⟩ := ih hy
    have hkept := (kept_concat (s := .key "schema")).2 ⟨kept, fun h => absurd h (by decide)⟩
    exact ⟨.ownSchema stem' (hwritten hkept written), hkept⟩

/-- What the loader reads in a unified document, by what it stems from. -/
theorem ReadFrom.unified_eq (wellKeyed : d.WellKeyed) (stem : ReadFrom d a p q)
    (hx : (unified d).follow? p = some x) :
    ∃ v, d.follow? q = some v ∧ Kept q ∧ a.lift (rewrittenAt q (swept q v)) = some x := by
  obtain ⟨stem', kept⟩ := stem.unlifted wellKeyed hx
  obtain ⟨v, hv⟩ := Option.isSome_iff_exists.1 stem.isSome_follow?
  obtain ⟨y, hy, hlift⟩ := stem'.lift_eq (wellKeyed_unlifted wellKeyed) hx
  rw [follow?_unlifted wellKeyed hv kept] at hy
  cases hy
  exact ⟨v, hv, kept, hlift⟩

/-- A parameter that stands for its schema is read as an object of its inline keywords. -/
lemma ReadFrom.inlineSchema_eq (wellKeyed : d.WellKeyed) (stem : ReadFrom d .inlineSchema p q)
    (hx : (unified d).follow? p = some x) :
    ∃ v, d.follow? q = some v ∧ (∃ members, x = .obj members) ∧
      ∀ key, x.get? key =
        if key ∈ inlineKeywords then (rewrittenAt q (swept q v)).get? key else none := by
  obtain ⟨v, hv, kept, hlift⟩ := stem.unified_eq wellKeyed hx
  have hy := follow?_unlifted wellKeyed hv kept
  have unwritten := (stem.unlifted wellKeyed hx).1.unwritten_of_inlineSchema
  rw [Json.follow?_concat_key hy] at unwritten
  exact ⟨v, hv, get?_inlineSchema ((wellKeyed_unlifted wellKeyed).follow? hy) unwritten hlift⟩

/-- Every schema that the loader reads in a unified document stems from what was written, or
is none but was put in. -/
theorem exists_readFrom_schema (wellKeyed : d.WellKeyed) {orFlag : Bool}
    (reads : Reads p (.schema orFlag)) (hx : (unified d).follow? p = some x) :
    (∃ a q, ReadFrom d a p q ∧ a.modern = .schema orFlag) ∨ Made p (.schema orFlag) x ∨
      MediaOfConst p := by
  obtain ⟨a, q, stem, ha⟩ := exists_readFrom (wellKeyed_unlifted wellKeyed) reads hx
  obtain ⟨y, hy, hlift⟩ := stem.lift_eq (wellKeyed_unlifted wellKeyed) hx
  rcases stem.of_unlifted wellKeyed hy with ⟨stem', -⟩ | made | media
  · exact .inl ⟨a, q, stem', ha⟩
  · cases a with
    | schema flag =>
      cases ha
      cases hlift
      exact .inr (.inl made)
    | inlineSchema => cases made <;> cases hlift
    | _ => cases ha
  · exact .inr (.inr media)

end OpenApiDoc.Document
