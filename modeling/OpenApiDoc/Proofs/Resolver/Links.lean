import OpenApiDoc.Proofs.Example.Draft
import OpenApiDoc.Proofs.Resolver.Locality
import OpenApiDoc.Resolver.Parameters
import OpenApiDoc.Resolver.Rows

/-!
# Links do not influence types

A resolver asks in which document a definition is, and writes the answer into the link. Nothing
reads it afterwards: what two resolvers give that have the same definitions differs in the
documents of links alone. The types are *alike*, with one label and one example, and the same
inline objects were taken out of them.

The proof relates the two runs value by value. The resolver itself is covered by
`resolveIn_congr`, with all links made the same; hoisting commutes with that, and the rest
passes related values on.
-/

namespace OpenApiDoc

variable {α β γ δ : Type} {R : α → β → Prop} {S : γ → δ → Prop}

/-! ### Related runs -/

/-- Related values with the same notices. -/
structure Noted.Related (R : α → β → Prop) (x : Noted α) (y : Noted β) : Prop where
  value : R x.value y.value
  notices : x.notices = y.notices

namespace Noted.Related

lemma pure {a : α} {b : β} (h : R a b) : Related R (Pure.pure a) (Pure.pure b) :=
  ⟨h, rfl⟩

lemma bind {x : Noted α} {y : Noted β} {f : α → Noted γ} {g : β → Noted δ} (h : Related R x y)
    (hfg : R x.value y.value → Related S (f x.value) (g y.value)) :
    Related S (x >>= f) (y >>= g) where
  value := (hfg h.value).value
  notices := by rw [notices_bind, notices_bind, h.notices, (hfg h.value).notices]

lemma map {x : Noted α} {y : Noted β} {f : α → γ} {g : β → δ} (h : Related R x y)
    (hfg : R x.value y.value → S (f x.value) (g y.value)) :
    Related S (f <$> x) (g <$> y) where
  value := hfg h.value
  notices := by rw [notices_map, notices_map, h.notices]

end Noted.Related

namespace Example.Draft

/-- Drafts that are finished with related results or not at all, with the same notices. -/
def Related (R : α → β → Prop) (x : Draft α) (y : Draft β) : Prop :=
  Noted.Related (Option.Rel R) x.run y.run

namespace Related

lemma pure {a : α} {b : β} (h : R a b) : Related R (Pure.pure a) (Pure.pure b) :=
  Noted.Related.pure (.some h)

lemma refl (x : Draft α) : Related Eq x x where
  value := by
    rcases x.run.value with _ | a
    · exact .none
    · exact .some rfl
  notices := rfl

lemma ofNoted {x : Noted α} {y : Noted β} (h : Noted.Related R x y) :
    Related R (ofNoted x) (ofNoted y) :=
  h.map fun hvalue => .some hvalue

lemma bind {x : Draft α} {y : Draft β} {f : α → Draft γ} {g : β → Draft δ} (h : Related R x y)
    (hfg : ∀ a b, R a b → Related S (f a) (g b)) : Related S (x >>= f) (y >>= g) := by
  rw [Related, OptionT.run_bind, OptionT.run_bind]
  refine Noted.Related.bind h fun hvalue => ?_
  generalize x.run.value = a, y.run.value = b at hvalue
  cases hvalue with
  | none => exact .pure .none
  | some hab => exact hfg _ _ hab

lemma mapM {f : α → Draft γ} {g : α → Draft δ} (h : ∀ a, Related S (f a) (g a)) (list : List α) :
    Related (List.Forall₂ S) (list.mapM f) (list.mapM g) := by
  induction list with
  | nil => exact .pure .nil
  | cons a rest ih =>
    rw [List.mapM_cons, List.mapM_cons]
    refine (h a).bind fun first first' hfirst => ?_
    refine ih.bind fun more more' hmore => ?_
    exact .pure (.cons hfirst hmore)

end Related

end Example.Draft

/-- Related values with the same inline objects. -/
structure Hoisted.Related (R : α → β → Prop) (x : Hoisted α) (y : Hoisted β) : Prop where
  value : R x.value y.value
  inline : x.inline = y.inline

/-! ### Types without the documents of their links -/

namespace ResolvedType

variable {f : Option String → Option String} {t t₁ t₂ : ResolvedType}

/-- The type with all links in the current document. -/
def unlinked (t : ResolvedType) : ResolvedType := t.relink fun _ => none

lemma label_relink : (t.relink f).label = t.label := by
  induction t with
  | basic names kind format => rfl
  | array names element collection ih => cases collection <;> simp [relink, label, ih]
  | map names value ih => simp [relink, label, ih]
  | enum names kind values => rfl
  | object shape => rfl
  | link names document target ih =>
    obtain ⟨_ | display, unique⟩ := names
    · simp [relink, label, ih]
    · simp [relink, label]

lemma schemasIn_relink : Example.Generator.schemasIn (t.relink f) =
    Example.Generator.schemasIn t := by
  induction t with
  | array names element collection ih => exact ih
  | map names value ih => exact ih
  | link names document target ih => exact ih
  | _ => rfl

lemma typeExampleIn_relink (g : Example.Generator) (recur : Example.Generator.Recur)
    (visits : Example.Visits) :
    g.typeExampleIn recur visits (t.relink f) = g.typeExampleIn recur visits t := by
  induction t with
  | array names element collection ih =>
    simp only [relink, Example.Generator.typeExampleIn, ih]
  | map names value ih => simp only [relink, Example.Generator.typeExampleIn, ih]
  | link names document target ih => simp only [relink, Example.Generator.typeExampleIn, ih]
  | _ => rfl

/-- Types that differ in the documents of links alone, with the same label and the same
examples. -/
structure Alike (t₁ t₂ : ResolvedType) : Prop where
  unlinked : t₁.unlinked = t₂.unlinked
  label : t₁.label = t₂.label
  example_eq : ∀ g : Example.Generator, g.typeExample t₁ = g.typeExample t₂

/-- Neither the label nor the example of a type reads the documents of links. -/
lemma alike_of_unlinked (h : t₁.unlinked = t₂.unlinked) : t₁.Alike t₂ where
  unlinked := h
  label := by
    have hlabel := congrArg ResolvedType.label h
    rwa [ResolvedType.unlinked, label_relink, ResolvedType.unlinked, label_relink] at hlabel
  example_eq g := by
    have hexample := congrArg g.typeExample h
    simpa only [Example.Generator.typeExample, ResolvedType.unlinked, schemasIn_relink,
      typeExampleIn_relink] using hexample

lemma Alike.refl (t : ResolvedType) : t.Alike t := alike_of_unlinked rfl

lemma Alike.isObject_eq (h : t₁.Alike t₂) : t₁.isObject = t₂.isObject := by
  have hobject := congrArg isObject h.unlinked
  rwa [ResolvedType.unlinked, isObject_relink, ResolvedType.unlinked, isObject_relink] at hobject

lemma Alike.object?_eq (h : t₁.Alike t₂) : t₁.object? = t₂.object? := by
  have hobject := congrArg object? h.unlinked
  rwa [ResolvedType.unlinked, object?_relink, ResolvedType.unlinked, object?_relink] at hobject

lemma Alike.unwrap (h : t₁.Alike t₂) : t₁.unwrap.Alike t₂.unwrap := by
  have hunwrap := congrArg ResolvedType.unwrap h.unlinked
  rw [ResolvedType.unlinked, unwrap_relink, ResolvedType.unlinked, unwrap_relink] at hunwrap
  exact alike_of_unlinked hunwrap

/-- An inline object is taken out of a type wherever its links lead. -/
lemma hoist_unlinked (display unique : String) (t : ResolvedType) :
    t.unlinked.hoist display unique =
      (fun hoisted : Hoisted ResolvedType =>
        { hoisted with value := hoisted.value.unlinked }) <$>
        t.hoist display unique := by
  induction t with
  | object shape =>
    simp only [unlinked, relink, hoist]
    by_cases hempty : shape.properties.isEmpty
    · simp [hempty, relink]
    · simp [hempty, relink, linkTo, name, names, identity]
  | array names element collection ih =>
    simp only [unlinked] at ih
    simp [unlinked, relink, hoist, ih]
  | map names value ih =>
    simp only [unlinked] at ih
    by_cases hobject : value.isObject
    · simp [unlinked, relink, hoist, ih, hobject]
    · simp [unlinked, relink, hoist, hobject]
  | _ => rfl

/-- The same inline objects are taken out of types that are alike. -/
lemma Alike.hoist (h : t₁.Alike t₂) (display unique : String) :
    Noted.Related (Hoisted.Related Alike) (t₁.hoist display unique)
      (t₂.hoist display unique) := by
  have hhoist := congrArg (ResolvedType.hoist display unique) h.unlinked
  rw [hoist_unlinked, hoist_unlinked, Noted.ext_iff] at hhoist
  simp only [Noted.value_map, Noted.notices_map, Hoisted.mk.injEq] at hhoist
  obtain ⟨⟨hvalue, hinline⟩, hnotices⟩ := hhoist
  exact ⟨⟨alike_of_unlinked hvalue, hinline⟩, hnotices⟩

end ResolvedType

/-- Rows that have all in common but the documents of links in their types. -/
structure PropertyRow.Alike (row₁ row₂ : PropertyRow) : Prop where
  type : row₁.type.Alike row₂.type
  rest : { row₁ with type := row₂.type } = row₂

/-! ### Types given by two resolvers -/

namespace Resolver

open Example (Draft Generator)

variable {d : Definitions} {links₁ links₂ : LinkTargets}

lemma stub_alike (name : String) : (stub ⟨d, links₁⟩ name).Alike (stub ⟨d, links₂⟩ name) :=
  ResolvedType.alike_of_unlinked rfl

lemma resolveIn_alike (chain : List String) (s : Schema) :
    Noted.Related ResolvedType.Alike (resolveIn ⟨d, links₁⟩ chain (s.model d))
      (resolveIn ⟨d, links₂⟩ chain (s.model d)) := by
  have h : SameUpTo (fun _ => none) (resolveIn ⟨d, links₁⟩ chain (s.model d))
      (resolveIn ⟨d, links₂⟩ chain (s.model d)) :=
    resolveIn_congr (fun _ => rfl) (.refl d s) fun _ _ => Iff.rfl
  obtain ⟨hvalue, hnotices⟩ := sameUpTo_iff.1 h
  exact ⟨ResolvedType.alike_of_unlinked hvalue, hnotices⟩

lemma resolveSchema_alike (s : Schema) :
    Noted.Related ResolvedType.Alike (resolveSchema ⟨d, links₁⟩ s)
      (resolveSchema ⟨d, links₂⟩ s) :=
  resolveIn_alike [] s

lemma resolveReference_alike (name : String) :
    Noted.Related ResolvedType.Alike (resolveReference ⟨d, links₁⟩ name)
      (resolveReference ⟨d, links₂⟩ name) := by
  rcases get : d.get? name with _ | target
  · rw [resolveReference, resolveReference, expand_of_missing get, expand_of_missing get]
    exact ⟨stub_alike name, rfl⟩
  · have hmem : name ∉ ([] : List String) := List.not_mem_nil
    rw [resolveReference, resolveReference, expand_of_not_mem get hmem,
      expand_of_not_mem get hmem]
    refine (resolveIn_alike [name] target).map fun halike => ?_
    refine ResolvedType.alike_of_unlinked ?_
    have hunlinked := halike.unlinked
    simp only [ResolvedType.unlinked, linkTo, ResolvedType.relink_linkTo,
      ResolvedType.relink_withNames] at hunlinked ⊢
    rw [hunlinked]

/-! ### Parameters, responses and definitions -/

lemma asParameter_alike (p : Parameter) {t₁ t₂ : ResolvedType} (h : t₁.Alike t₂) :
    (asParameter p t₁).Alike (asParameter p t₂) := by
  have hcommutes : ∀ t, (asParameter p t).unlinked = asParameter p t.unlinked := by
    intro t
    cases t <;> rfl
  refine ResolvedType.alike_of_unlinked ?_
  rw [hcommutes, hcommutes, h.unlinked]

lemma bareParameterType_alike (p : Parameter) :
    Noted.Related ResolvedType.Alike (bareParameterType ⟨d, links₁⟩ p)
      (bareParameterType ⟨d, links₂⟩ p) := by
  rcases refers : p.reference with _ | reference
  · rcases hschema : p.schema with _ | s
    · simp only [bareParameterType, refers, hschema]
      exact .pure (.refl _)
    · simp only [bareParameterType, refers, hschema]
      by_cases hbody : p.isBody
      · rw [if_pos hbody, if_pos hbody]
        exact resolveSchema_alike s
      · rw [if_neg hbody, if_neg hbody]
        exact (resolveSchema_alike s).map (asParameter_alike p)
  · simp only [bareParameterType, refers]
    exact .pure (stub_alike _)

lemma parameterType_alike (config : Config) (o : Operation) (p : Parameter) :
    Noted.Related (Hoisted.Related ResolvedType.Alike)
      (parameterType ⟨d, links₁⟩ config o p) (parameterType ⟨d, links₂⟩ config o p) := by
  refine (bareParameterType_alike p).bind fun halike => ?_
  rw [halike.isObject_eq]
  split
  · exact .pure ⟨halike, rfl⟩
  · exact halike.hoist _ _

lemma responseType_alike (config : Config) (o : Operation) (code : String) :
    Noted.Related (Option.Rel (Hoisted.Related ResolvedType.Alike))
      (responseType ⟨d, links₁⟩ config o code) (responseType ⟨d, links₂⟩ config o code) := by
  unfold responseType
  split
  · exact .pure .none
  · split
    · exact .pure .none
    · refine (resolveSchema_alike _).bind fun halike => ?_
      split
      · exact (halike.hoist _ _).map .some
      · exact .pure (.some ⟨halike, rfl⟩)

lemma definitionType_alike (config : Config) (name : String) :
    Noted.Related (Hoisted.Related ResolvedType.Alike)
      (definitionType ⟨d, links₁⟩ config name) (definitionType ⟨d, links₂⟩ config name) := by
  refine (resolveReference_alike name).bind fun halike => ?_
  have hunwrap := halike.unwrap
  simp only [hunwrap.isObject_eq]
  split
  · exact .pure ⟨hunwrap, rfl⟩
  · exact hunwrap.hoist _ _

/-! ### Rows -/

lemma hoistedType_alike (config : Config) (display unique : String) (s : Schema) :
    Noted.Related (Hoisted.Related ResolvedType.Alike)
      (hoistedType ⟨d, links₁⟩ config display unique s)
      (hoistedType ⟨d, links₂⟩ config display unique s) := by
  refine (resolveSchema_alike s).bind fun halike => ?_
  split
  · exact halike.hoist _ _
  · exact .pure ⟨halike, rfl⟩

lemma row_alike (g : Generator) (config : Config) (parent : String)
    (property : PropertyRequirement) (source : Schema) :
    Draft.Related (Hoisted.Related PropertyRow.Alike)
      (row ⟨d, links₁⟩ g config parent property source)
      (row ⟨d, links₂⟩ g config parent property source) := by
  refine (Draft.Related.ofNoted (hoistedType_alike config _ _ property.schema)).bind ?_
  intro hoisted₁ hoisted₂ halike
  -- the example and the description are made from the schema and the definitions
  refine (Draft.Related.refl (g.schemaExample source)).bind ?_
  rintro sample _ rfl
  exact .pure ⟨⟨halike.value, rfl⟩, halike.inline⟩

lemma propertyRows_alike (g : Generator) (config : Config) (parent : String) (o : ObjectType)
    (required : List String) :
    Draft.Related (Hoisted.Related (List.Forall₂ PropertyRow.Alike))
      (propertyRows ⟨d, links₁⟩ g config parent o required)
      (propertyRows ⟨d, links₂⟩ g config parent o required) := by
  refine (Draft.Related.mapM (fun property => row_alike g config parent property _) _).bind ?_
  intro rows₁ rows₂ halike
  refine .pure ⟨?_, ?_⟩
  · rw [List.forall₂_map_left_iff, List.forall₂_map_right_iff]
    exact halike.imp fun _ _ h => h.value
  · show rows₁.flatMap Hoisted.inline = rows₂.flatMap Hoisted.inline
    induction halike with
    | nil => rfl
    | cons h _ ih => rw [List.flatMap_cons, List.flatMap_cons, h.inline, ih]

lemma definitionRows_alike (g : Generator) (config : Config) (name : String) :
    Draft.Related (Option.Rel (Hoisted.Related (List.Forall₂ PropertyRow.Alike)))
      (definitionRows ⟨d, links₁⟩ g config name) (definitionRows ⟨d, links₂⟩ g config name) := by
  rcases get : d.get? name with _ | s
  · simp only [definitionRows, get]
    exact .pure .none
  · simp only [definitionRows, get]
    refine (Draft.Related.ofNoted (resolveReference_alike name)).bind ?_
    intro type₁ type₂ halike
    rw [halike.object?_eq]
    split
    · exact .pure .none
    · rw [map_eq_pure_bind, map_eq_pure_bind]
      refine (propertyRows_alike g config name _ _).bind ?_
      intro rows₁ rows₂ hrows
      exact .pure (.some hrows)

/-- What two resolvers give that have the same definitions differs in the documents of links
alone: the labels and the examples of the types are the same, and so are the inline objects, the
notices and all else in the rows. -/
theorem alike_of_definitions (d : Definitions) (links₁ links₂ : LinkTargets) :
    (∀ s, Noted.Related ResolvedType.Alike
      (resolveSchema ⟨d, links₁⟩ s) (resolveSchema ⟨d, links₂⟩ s)) ∧
    (∀ name, Noted.Related ResolvedType.Alike
      (resolveReference ⟨d, links₁⟩ name) (resolveReference ⟨d, links₂⟩ name)) ∧
    (∀ config o p, Noted.Related (Hoisted.Related ResolvedType.Alike)
      (parameterType ⟨d, links₁⟩ config o p) (parameterType ⟨d, links₂⟩ config o p)) ∧
    (∀ config o code, Noted.Related (Option.Rel (Hoisted.Related ResolvedType.Alike))
      (responseType ⟨d, links₁⟩ config o code) (responseType ⟨d, links₂⟩ config o code)) ∧
    (∀ config name, Noted.Related (Hoisted.Related ResolvedType.Alike)
      (definitionType ⟨d, links₁⟩ config name) (definitionType ⟨d, links₂⟩ config name)) ∧
    ∀ g config name,
      Draft.Related (Option.Rel (Hoisted.Related (List.Forall₂ PropertyRow.Alike)))
        (definitionRows ⟨d, links₁⟩ g config name) (definitionRows ⟨d, links₂⟩ g config name) :=
  ⟨resolveSchema_alike, resolveReference_alike, parameterType_alike, responseType_alike,
    definitionType_alike, definitionRows_alike⟩

end Resolver

end OpenApiDoc
