import OpenApiDoc.Proofs.Resolver.InlineNames

/-!
# What hoisting changes

A type offers one object at most to hoisting: itself, or what arrays lead to, or the values of a
map that arrays lead to. Hoisting takes that object out and puts a link in its place, and nothing
else changes. The link is looked into no further, so that hoisting again finds nothing.
-/

namespace OpenApiDoc.ResolvedType

variable {t t' new : ResolvedType} {o : ObjectType} {display unique : String}

/-! ### Equations -/

lemma value_hoist_object {o : ObjectType} (h : ¬ o.properties.isEmpty) :
    ((object o).hoist display unique).value.value =
      .linkTo none (.object (o.nameFor display unique)) := by
  simp [hoist, h]

lemma value_hoist_array (names : TypeNames) (collection : Option CollectionFormat) :
    ((array names t collection).hoist display unique).value.value =
      .array names (t.hoist display unique).value.value collection := by
  simp [hoist]

lemma value_hoist_map (names : TypeNames) (h : t.isObject = true) :
    ((map names t).hoist display unique).value.value =
      .map names (t.hoist display unique).value.value := by
  simp [hoist, h]

/-! ### The place of the object -/

/-- The object with properties that stands where hoisting looks for one. -/
inductive Offers : ResolvedType → ObjectType → Prop where
  | object {o : ObjectType} (properties : o.properties ≠ []) : Offers (.object o) o
  | array {element : ResolvedType} {o : ObjectType} (names : TypeNames)
      (collection : Option CollectionFormat) (h : Offers element o) :
      Offers (.array names element collection) o
  | map {o : ObjectType} (names : TypeNames) (properties : o.properties ≠ []) :
      Offers (.map names (.object o)) o

/-- The second type is the first with another type in the place of the object that is offered. -/
inductive Exchanged (o : ObjectType) (new : ResolvedType) :
    ResolvedType → ResolvedType → Prop where
  | object : Exchanged o new (.object o) new
  | array {element element' : ResolvedType} (names : TypeNames)
      (collection : Option CollectionFormat) (h : Exchanged o new element element') :
      Exchanged o new (.array names element collection) (.array names element' collection)
  | map (names : TypeNames) : Exchanged o new (.map names (.object o)) (.map names new)

lemma inline?_object (properties : o.properties ≠ []) : (object o).inline? = some o := by
  rw [inline?, if_neg (by simpa using properties)]

/-- What a type offers is what is taken out of it. -/
lemma offers_iff : t.Offers o ↔ t.inline? = some o := by
  constructor
  · intro h
    induction h with
    | object properties => exact inline?_object properties
    | array names collection _ ih => exact ih
    | map names properties => exact inline?_object properties
  · intro h
    induction t with
    | object shape =>
      rw [inline?, Option.ite_none_left_eq_some, Option.some.injEq] at h
      obtain ⟨properties, rfl⟩ := h
      exact .object (by simpa using properties)
    | array names element collection ih => exact .array names collection (ih h)
    | map names value =>
      rw [inline?, Option.ite_none_right_eq_some] at h
      obtain ⟨hobject, h⟩ := h
      cases value with
      | object shape =>
        rw [inline?, Option.ite_none_left_eq_some, Option.some.injEq] at h
        obtain ⟨properties, rfl⟩ := h
        exact .map names (by simpa using properties)
      | _ => cases hobject
    | _ => cases h

/-! ### Types with and without an object to take out -/

lemma hoist_of_inline?_eq_none (h : t.inline? = none) (display unique : String) :
    t.hoist display unique = pure { value := t } := by
  induction t with
  | object shape =>
    have hempty : shape.properties.isEmpty = true := by simpa [inline?] using h
    rw [hoist, if_pos hempty]
  | array names element collection ih =>
    rw [hoist, ih h]
    rfl
  | map names value ih =>
    rw [hoist]
    split
    · next hobject =>
      rw [inline?, if_pos hobject] at h
      rw [ih h]
      rfl
    · rfl
  | _ => rfl

lemma exchanged_hoist (h : t.Offers o) (display unique : String) :
    Exchanged o (.linkTo none (.object (o.nameFor display unique))) t
      (t.hoist display unique).value.value := by
  induction h with
  | object properties =>
    rw [value_hoist_object (by simpa using properties)]
    exact .object
  | array names collection _ ih =>
    rw [value_hoist_array]
    exact .array names collection ih
  | map names properties =>
    rw [value_hoist_map names rfl, value_hoist_object (by simpa using properties)]
    exact .map names

/-- A link in the place of the object leaves nothing to take out. -/
lemma Exchanged.inline?_eq_none (h : Exchanged o (.linkTo none new) t t') :
    t'.inline? = none := by
  induction h with
  | object => rfl
  | array names collection _ ih => exact ih
  | map names => rfl

lemma inline?_hoist (display unique : String) (t : ResolvedType) :
    (t.hoist display unique).value.value.inline? = none := by
  cases h : t.inline? with
  | none =>
    rw [hoist_of_inline?_eq_none h]
    exact h
  | some o => exact (exchanged_hoist (offers_iff.2 h) display unique).inline?_eq_none

/-- Hoisting takes nothing out of a type that offers nothing, and leaves it as it is. Of any
other type it takes the only object that is offered, named for its place unless it has a name,
and a link to it in the current document is all that differs. The outcome offers nothing, and
hoisting it again changes nothing. -/
theorem hoist_exact (t : ResolvedType) (display unique : String) :
    let hoisted := (t.hoist display unique).value
    ((∀ o, ¬ t.Offers o) ∧ hoisted.value = t ∧ hoisted.inline = [] ∨
      ∃ o named, (∀ o', t.Offers o' ↔ o' = o) ∧
        (o.names.display ≠ none → named = o) ∧
        (o.names.display = none → named = { o with names := ⟨some display, some unique⟩ }) ∧
        Exchanged o (.linkTo none (.object named)) t hoisted.value ∧ hoisted.inline = [named]) ∧
    (∀ o, ¬ hoisted.value.Offers o) ∧
    ∀ display' unique', hoisted.value.hoist display' unique' =
      pure { value := hoisted.value } := by
  intro hoisted
  have hleft : hoisted.value.inline? = none := inline?_hoist display unique t
  refine ⟨?_, fun o h => ?_, hoist_of_inline?_eq_none hleft⟩
  · cases h : t.inline? with
    | none =>
      have heq : hoisted = { value := t } :=
        congrArg Noted.value (hoist_of_inline?_eq_none h display unique)
      refine .inl ⟨fun o hoffers => ?_, by rw [heq], by rw [heq]⟩
      rw [offers_iff, h] at hoffers
      cases hoffers
    | some o =>
      refine .inr ⟨o, o.nameFor display unique, fun o' => ?_, fun hnamed => ?_, fun hnone => ?_,
        exchanged_hoist (offers_iff.2 h) display unique, ?_⟩
      · rw [offers_iff, h, Option.some.injEq, eq_comm]
      · obtain ⟨shown, hshown⟩ := Option.ne_none_iff_exists'.1 hnamed
        rw [ObjectType.nameFor, hshown]
      · rw [ObjectType.nameFor, hnone]
      · rw [inline_hoist, h]
        rfl
  · rw [offers_iff, hleft] at h
    cases h

end OpenApiDoc.ResolvedType
