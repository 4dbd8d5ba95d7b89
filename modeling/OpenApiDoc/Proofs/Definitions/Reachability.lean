import Mathlib.Data.Set.Card
import OpenApiDoc.Definitions
import OpenApiDoc.Proofs.Schema.Nesting

/-!
# Reachable definitions

A schema refers to a definition if a reference anywhere in it stands for the definition, and it
reaches what it refers to and what the definitions so reached refer to.

Two conditions on what a schema reaches recur. A schema is *grounded* if all that it reaches is
defined and nothing that it reaches leads back to itself. Two tables of definitions *agree* on a
schema if they have one address and give the same definition of everything that it reaches.
-/

namespace OpenApiDoc.Definitions

variable {d d₁ d₂ : Definitions} {s t : Schema} {name next : String}

/-- The names of the definitions that the references in a schema stand for. -/
def namesIn (d : Definitions) (s : Schema) : List String :=
  (s.subschemas.filterMap fun t => t.reference).map d.referenceName

/-- A schema reaches a definition by a chain of references. -/
inductive Reaches (d : Definitions) (s : Schema) : String → Prop where
  | direct {name : String} (h : name ∈ d.namesIn s) : d.Reaches s name
  | through {name next : String} {t : Schema} (h : d.Reaches s name)
      (get : d.get? name = some t) (refers : next ∈ d.namesIn t) : d.Reaches s next

lemma mem_namesIn_of_mem {reference : String} (ht : t ∈ s.subschemas)
    (h : t.reference = some reference) : d.referenceName reference ∈ d.namesIn s :=
  List.mem_map_of_mem (List.mem_filterMap.2 ⟨t, ht, h⟩)

lemma reaches_of_reference {reference : String} (h : s.reference = some reference) :
    d.Reaches s (d.referenceName reference) :=
  .direct (mem_namesIn_of_mem s.self_mem_subschemas h)

lemma namesIn_subset (ht : t ∈ s.subschemas) : d.namesIn t ⊆ d.namesIn s := by
  intro name h
  obtain ⟨reference, hr, rfl⟩ := List.mem_map.1 h
  obtain ⟨u, hu, href⟩ := List.mem_filterMap.1 hr
  exact mem_namesIn_of_mem (Schema.mem_subschemas_trans hu ht) href

/-- What a nested schema reaches, the schema around it reaches. -/
theorem Reaches.of_mem_subschemas (ht : t ∈ s.subschemas) (h : d.Reaches t name) :
    d.Reaches s name := by
  induction h with
  | direct h => exact .direct (namesIn_subset ht h)
  | through _ get refers ih => exact .through ih get refers

/-- What a reached definition reaches is reached. -/
theorem Reaches.trans (h : d.Reaches s name) (get : d.get? name = some t)
    (h' : d.Reaches t next) : d.Reaches s next := by
  induction h' with
  | direct refers => exact .through h get refers
  | through _ get' refers ih => exact .through ih get' refers

/-- Names that hold what a schema refers to, and what their definitions refer to, hold all
that the schema reaches. -/
theorem Reaches.mem_of_closed {names : List String} (own : d.namesIn s ⊆ names)
    (closed : ∀ name ∈ names, ∀ t, d.get? name = some t → d.namesIn t ⊆ names)
    (h : d.Reaches s name) : name ∈ names := by
  induction h with
  | direct h => exact own h
  | through _ get refers ih => exact closed _ ih _ get refers

/-- The schemas along a row of references, the schema itself first. A composition
ends the row. -/
inductive Aliases (d : Definitions) : Schema → Schema → Prop where
  | refl (s : Schema) : d.Aliases s s
  | step {s t u : Schema} {reference : String} (allOf : s.allOf = none)
      (refers : s.reference = some reference)
      (get : d.get? (d.referenceName reference) = some t) (h : d.Aliases t u) : d.Aliases s u

/-- What holds of a schema and of all definitions holds along its row of references. -/
lemma Aliases.forall {P : Schema → Prop} (own : P s)
    (defs : ∀ name ∈ d.names, ∀ t, d.get? name = some t → P t) (h : d.Aliases s t) : P t := by
  induction h with
  | refl s => exact own
  | step _ _ get _ ih => exact ih (defs _ (mem_names_of_get? get) _ get)

/-! ### All schemas of the definitions -/

/-- Every schema in the definitions, at any depth, satisfies the predicate. -/
def Every (d : Definitions) (P : Schema → Prop) : Prop :=
  ∀ name s, d.get? name = some s → ∀ t ∈ s.subschemas, P t

/-- What holds of all schemas in the definitions is found by looking at them. -/
lemma every_of_names {P : Schema → Prop}
    (h : ∀ name ∈ d.names, ∀ s, d.get? name = some s → ∀ t ∈ s.subschemas, P t) : d.Every P :=
  fun name s get => h name (mem_names_of_get? get) s get

lemma Every.of_aliases {P : Schema → Prop} (h : d.Every P) (get : d.get? name = some s)
    (ht : d.Aliases s t) : P t :=
  ht.forall (h name s get s s.self_mem_subschemas)
    fun n _ u hu => h n u hu u u.self_mem_subschemas

/-! ### Grounded schemas -/

/-- All that the schema reaches is defined, and nothing that it reaches leads back to itself. -/
structure Grounded (d : Definitions) (s : Schema) : Prop where
  defined : ∀ name, d.Reaches s name → ∃ t, d.get? name = some t
  acyclic : ∀ name t, d.Reaches s name → d.get? name = some t → ¬ d.Reaches t name

lemma Grounded.of_mem_subschemas (h : d.Grounded s) (ht : t ∈ s.subschemas) : d.Grounded t where
  defined name hn := h.defined name (hn.of_mem_subschemas ht)
  acyclic name u hn := h.acyclic name u (hn.of_mem_subschemas ht)

lemma Grounded.of_reaches (h : d.Grounded s) (hn : d.Reaches s name)
    (get : d.get? name = some t) : d.Grounded t where
  defined next hnext := h.defined next (hn.trans get hnext)
  acyclic next u hnext := h.acyclic next u (hn.trans get hnext)

/-- A schema is grounded if its references have definitions and the definitions have ranks that
go down along their references. -/
theorem grounded_of_rank (rank : String → Nat) (own : ∀ n ∈ d.namesIn s, d.contains n = true)
    (step : ∀ name ∈ d.names, ∀ t, d.get? name = some t →
      ∀ n ∈ d.namesIn t, d.contains n = true ∧ rank n < rank name) : d.Grounded s where
  defined name h := by
    have hname : d.contains name = true := by
      induction h with
      | direct h => exact own _ h
      | through _ get refers _ => exact (step _ (mem_names_of_get? get) _ get _ refers).1
    exact Option.isSome_iff_exists.1 hname
  acyclic name t _ get h := by
    have hrank : ∀ n, d.Reaches t n → rank n < rank name := by
      intro n hn
      induction hn with
      | direct refers => exact (step name (mem_names_of_get? get) t get _ refers).2
      | through _ get' refers ih =>
        exact Nat.lt_trans (step _ (mem_names_of_get? get') _ get' _ refers).2 ih
    exact Nat.lt_irrefl _ (hrank name h)

lemma Grounded.finite_reaches (h : d.Grounded s) : {n | d.Reaches s n}.Finite := by
  refine (List.finite_toSet d.names).subset fun n hn => ?_
  obtain ⟨t, get⟩ := h.defined n hn
  exact mem_names_of_get? get

/-- A reached definition reaches less than the schema. -/
lemma Grounded.ncard_reaches_lt (h : d.Grounded s) (hn : d.Reaches s name)
    (get : d.get? name = some t) {u : Schema} (hu : u ∈ t.subschemas) :
    {n | d.Reaches u n}.ncard < {n | d.Reaches s n}.ncard := by
  refine Set.ncard_lt_ncard ⟨fun n hnu => ?_, fun hsub => ?_⟩ h.finite_reaches
  · exact hn.trans get (hnu.of_mem_subschemas hu)
  · have hcycle : d.Reaches u name := hsub hn
    exact h.acyclic name t hn get (hcycle.of_mem_subschemas hu)

/-- Induction on grounded schemas, along nesting and along references: a statement holds
of a schema if it holds of the smaller schemas in it and of everything in the
definitions that it reaches. -/
theorem Grounded.induction_on {P : Schema → Prop} {s : Schema} (h : d.Grounded s)
    (step : ∀ s, d.Grounded s → (∀ t ∈ s.subschemas, t.count < s.count → P t) →
      (∀ name t, d.Reaches s name → d.get? name = some t → ∀ u ∈ t.subschemas, P u) → P s) :
    P s := by
  refine step s h (fun t ht hcount => ?_) fun name t hn get u hu => ?_
  · exact (h.of_mem_subschemas ht).induction_on step
  · exact ((h.of_reaches hn get).of_mem_subschemas hu).induction_on step
termination_by ({n | d.Reaches s n}.ncard, s.count)
decreasing_by
  · have hsub : {n | d.Reaches t n} ⊆ {n | d.Reaches s n} := fun n hn => hn.of_mem_subschemas ht
    rcases Nat.lt_or_eq_of_le (Set.ncard_le_ncard hsub h.finite_reaches) with hlt | heq
    · exact Prod.Lex.left _ _ hlt
    · rw [heq]
      exact Prod.Lex.right _ hcount
  · exact Prod.Lex.left _ _ (h.ncard_reaches_lt hn get hu)

/-! ### Agreement -/

/-- Two tables have one address and the same definition of all that the schema reaches. -/
structure Agree (d₁ d₂ : Definitions) (s : Schema) : Prop where
  self : d₁.self = d₂.self
  get : ∀ name, d₁.Reaches s name → d₁.get? name = d₂.get? name

lemma Agree.refl (d : Definitions) (s : Schema) : Agree d d s where
  self := rfl
  get _ _ := rfl

lemma referenceName_congr (self : d₁.self = d₂.self) : d₁.referenceName = d₂.referenceName := by
  funext reference
  rw [referenceName, referenceName, self]

lemma namesIn_congr (self : d₁.self = d₂.self) : d₁.namesIn = d₂.namesIn := by
  funext s
  rw [namesIn, namesIn, referenceName_congr self]

lemma Agree.of_mem_subschemas (h : Agree d₁ d₂ s) (ht : t ∈ s.subschemas) : Agree d₁ d₂ t where
  self := h.self
  get name hn := h.get name (hn.of_mem_subschemas ht)

lemma Agree.of_reaches (h : Agree d₁ d₂ s) (hn : d₁.Reaches s name)
    (get : d₁.get? name = some t) : Agree d₁ d₂ t where
  self := h.self
  get next hnext := h.get next (hn.trans get hnext)

/-- A schema reaches the same in tables that agree on it. -/
theorem Agree.reaches_iff (h : Agree d₁ d₂ s) : d₁.Reaches s name ↔ d₂.Reaches s name := by
  constructor
  · intro hn
    induction hn with
    | direct hd => exact .direct (namesIn_congr h.self ▸ hd)
    | through hn get refers ih =>
      exact .through ih ((h.get _ hn).symm.trans get) (namesIn_congr h.self ▸ refers)
  · intro hn
    induction hn with
    | direct hd => exact .direct (namesIn_congr h.self ▸ hd)
    | through hn get refers ih =>
      exact .through ih ((h.get _ ih).trans get) (namesIn_congr h.self ▸ refers)

lemma Agree.symm (h : Agree d₁ d₂ s) : Agree d₂ d₁ s where
  self := h.self.symm
  get name hn := (h.get name (h.reaches_iff.2 hn)).symm

/-- Writing a definition that a schema does not reach changes nothing that it reaches. -/
theorem agree_insert (schema : Schema) (h : ¬ d.Reaches s name) :
    Agree d (d.insert name schema) s where
  self := rfl
  get next hnext := by
    have hne : name ≠ next := fun e => h (e ▸ hnext)
    rw [get?_insert, if_neg hne]

end OpenApiDoc.Definitions
