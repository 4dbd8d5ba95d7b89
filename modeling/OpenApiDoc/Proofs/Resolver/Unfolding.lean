import OpenApiDoc.Resolver
import Mathlib.Tactic.Common

/-!
# Unfoldings

What a resolver makes of a model is recorded in an *unfolding*: a tree that follows the model,
and below a reference that was expanded goes on with the model of its definition.
`Resolver.Unfolds` says which trees follow a model; it leaves open which references are expanded.
A tree determines a type and its notices.

The main statement is `Resolver.exists_unfolding`: whatever a resolver makes of a model, on any
chain, comes from a tree, and in this tree a reference is expanded unless its definition is
missing or on the chain at that place.
-/

namespace OpenApiDoc

/-- How a model was resolved. -/
inductive Unfolding where
  /-- A type that nothing else was resolved for. -/
  | leaf (type : ResolvedType)
  | array (names : TypeNames) (element : Unfolding)
  | map (names : TypeNames) (value : Unfolding)
  | composed (about : Annotations) (branches : List Unfolding)
  /-- A reference with what it was expanded to, if it was expanded. -/
  | reference (name : String) (inner : Option Unfolding)

namespace Unfolding

mutual

/-- The type that comes of an unfolding. -/
def type (r : Resolver) : Unfolding → ResolvedType
  | .leaf type => type
  | .array names element => .array names (element.type r) none
  | .map names value => .map names (value.type r)
  | .composed about branches => .object (.compose about (branchTypes r branches))
  | .reference name none => r.stub name
  | .reference name (some inner) => r.linkTo name (inner.type r)

/-- The types of branches, without links. -/
def branchTypes (r : Resolver) : List Unfolding → List ResolvedType
  | [] => []
  | branch :: rest => (branch.type r).unwrap :: branchTypes r rest

end

mutual

/-- The notices that come of an unfolding. -/
def notices (r : Resolver) : Unfolding → List Notice
  | .leaf _ => []
  | .array _ element => element.notices r
  | .map _ value => value.notices r
  | .composed _ branches => branchNotices r branches
  | .reference name none =>
    [if r.definitions.contains name then .definitionReentered name else .danglingDefinition name]
  | .reference _ (some inner) => inner.notices r

/-- The notices of branches. -/
def branchNotices (r : Resolver) : List Unfolding → List Notice
  | [] => []
  | branch :: rest =>
    branch.notices r ++ ((if (branch.type r).unwrap.isObject then [] else [.branchSkipped])
      ++ branchNotices r rest)

end

lemma branchTypes_eq_map (r : Resolver) (branches : List Unfolding) :
    branchTypes r branches = branches.map fun branch => (branch.type r).unwrap := by
  induction branches with
  | nil => rfl
  | cons branch rest ih => rw [branchTypes, ih, List.map_cons]

/-- An unfolding stands in another. The names are those of the references that are expanded
around it, the innermost first. -/
inductive At : Unfolding → List String → Unfolding → Prop where
  | here (u : Unfolding) : At u [] u
  | element {names : TypeNames} {element w : Unfolding} {around : List String}
      (h : At element around w) : At (.array names element) around w
  | value {names : TypeNames} {value w : Unfolding} {around : List String}
      (h : At value around w) : At (.map names value) around w
  | branch {about : Annotations} {branches : List Unfolding} {branch w : Unfolding}
      {around : List String} (hb : branch ∈ branches) (h : At branch around w) :
      At (.composed about branches) around w
  | inside {name : String} {inner w : Unfolding} {around : List String}
      (h : At inner around w) : At (.reference name (some inner)) (around ++ [name]) w

end Unfolding

/-! ### Size of models -/

namespace Model

lemma sizeOf_items_lt (about : Annotations) (items : Model) :
    sizeOf items < sizeOf (Model.array about (some items)) := by
  rw [array.sizeOf_spec, Option.some.sizeOf_spec]
  omega

lemma sizeOf_value_lt (about : Annotations) (value : Model) :
    sizeOf value < sizeOf (Model.map about value) := by
  rw [map.sizeOf_spec]
  omega

lemma sizeOf_branch_lt (about : Annotations) {branch : Model} {branches : List Model}
    (h : branch ∈ branches) : sizeOf branch < sizeOf (Model.composed about branches) := by
  have := List.sizeOf_lt_of_mem h
  rw [composed.sizeOf_spec]
  omega

end Model

/-! ### Unfoldings of models -/

namespace Resolver

variable {r : Resolver}

/-- An unfolding follows a model. -/
inductive Unfolds (r : Resolver) : Model → Unfolding → Prop where
  | primitive (about : Annotations) (kind : Kind) (format : Option String) :
      r.Unfolds (.primitive about kind format)
        (.leaf (.basic { display := about.title } kind format))
  | untyped (about : Annotations) :
      r.Unfolds (.untyped about) (.leaf (.basic { display := about.title } .untyped none))
  | enum (about : Annotations) (kind : Kind) (values : List Json) :
      r.Unfolds (.enum about kind values)
        (.leaf (.enum { display := about.title } kind (values.map Json.enumLabel)))
  | object (about : Annotations) (properties : List (String × Schema)) :
      r.Unfolds (.object about properties)
        (.leaf (.object
          { names := { display := about.title }, properties,
            discriminator := about.discriminator }))
  | itemless (about : Annotations) :
      r.Unfolds (.array about none) (.leaf (.array { display := about.title } (.object {}) none))
  | array {about : Annotations} {items : Model} {element : Unfolding}
      (h : r.Unfolds items element) :
      r.Unfolds (.array about (some items)) (.array { display := about.title } element)
  | map {about : Annotations} {value : Model} {u : Unfolding} (h : r.Unfolds value u) :
      r.Unfolds (.map about value) (.map { display := about.title } u)
  | composed (about : Annotations) {branches : List Model} (unfolding : Model → Unfolding)
      (h : ∀ branch ∈ branches, r.Unfolds branch (unfolding branch)) :
      r.Unfolds (.composed about branches) (.composed about (branches.map unfolding))
  | unexpanded (about : Annotations) (name reference : String) :
      r.Unfolds (.reference about name reference) (.reference name none)
  | expanded (about : Annotations) (reference : String) {name : String} {schema : Schema}
      {inner : Unfolding} (get : r.definitions.get? name = some schema)
      (h : r.Unfolds (schema.model r.definitions) inner) :
      r.Unfolds (.reference about name reference) (.reference name (some inner))

/-- What a reference in an unfolding has to do with the chain on which it was resolved: it comes
of a call on the chain of that place, which visits no definition twice, and it is unexpanded
exactly if its definition is missing or on that chain. -/
def Disciplined (r : Resolver) (chain : List String) (u : Unfolding) : Prop :=
  ∀ around w, u.At around w → (chain.Nodup → (around ++ chain).Nodup) ∧
    ∀ name inner, w = .reference name inner →
      r.expand (around ++ chain) name = ⟨w.type r, w.notices r⟩ ∧
      (inner = none ↔ r.definitions.get? name = none ∨ name ∈ around ++ chain)

lemma disciplined_leaf (r : Resolver) (chain : List String) (type : ResolvedType) :
    r.Disciplined chain (.leaf type) := by
  intro around w h
  cases h
  exact ⟨id, fun _ _ e => by cases e⟩

lemma Disciplined.array {chain : List String} {u : Unfolding} (h : r.Disciplined chain u)
    (names : TypeNames) : r.Disciplined chain (.array names u) := by
  intro around w hw
  cases hw with
  | here => exact ⟨id, fun _ _ e => by cases e⟩
  | element hw => exact h around w hw

lemma Disciplined.map {chain : List String} {u : Unfolding} (h : r.Disciplined chain u)
    (names : TypeNames) : r.Disciplined chain (.map names u) := by
  intro around w hw
  cases hw with
  | here => exact ⟨id, fun _ _ e => by cases e⟩
  | value hw => exact h around w hw

lemma disciplined_composed {chain : List String} {branches : List Unfolding}
    (h : ∀ branch ∈ branches, r.Disciplined chain branch) (about : Annotations) :
    r.Disciplined chain (.composed about branches) := by
  intro around w hw
  cases hw with
  | here => exact ⟨id, fun _ _ e => by cases e⟩
  | branch hb hw => exact h _ hb around w hw

/-! ### Expansion of a reference -/

lemma expand_of_missing {name : String} (h : r.definitions.get? name = none)
    (chain : List String) :
    r.expand chain name = ⟨r.stub name, [.danglingDefinition name]⟩ := by
  rw [expand]
  split
  · rfl
  · simp_all

lemma expand_of_mem {chain : List String} {name : String} {schema : Schema}
    (get : r.definitions.get? name = some schema) (h : name ∈ chain) :
    r.expand chain name = ⟨r.stub name, [.definitionReentered name]⟩ := by
  rw [expand]
  split
  · simp_all
  · rw [dif_pos h]
    rfl

lemma expand_of_not_mem {chain : List String} {name : String} {schema : Schema}
    (get : r.definitions.get? name = some schema) (h : name ∉ chain) :
    r.expand chain name =
      r.linkTo name <$> r.resolveIn (name :: chain) (schema.model r.definitions) := by
  rw [expand]
  split
  · simp_all
  · next schema' get' =>
    obtain rfl : schema' = schema := Option.some.inj (get'.symm.trans get)
    rw [dif_neg h]
    rfl

/-- An unexpanded reference is one that the resolver does not expand. -/
lemma expand_eq_of_unexpanded {chain : List String} {name : String}
    (h : r.definitions.get? name = none ∨ name ∈ chain) :
    r.expand chain name =
      ⟨(Unfolding.reference name none).type r, (Unfolding.reference name none).notices r⟩ := by
  rw [Unfolding.type, Unfolding.notices]
  rcases hget : r.definitions.get? name with _ | schema
  · rw [expand_of_missing hget]
    simp [Definitions.contains, hget]
  · have hmem := h.resolve_left (by simp [hget])
    rw [expand_of_mem hget hmem]
    simp [Definitions.contains, hget]

lemma disciplined_unexpanded {chain : List String} {name : String}
    (h : r.definitions.get? name = none ∨ name ∈ chain) :
    r.Disciplined chain (.reference name none) := by
  intro around w hw
  cases hw
  refine ⟨id, fun _ _ e => ?_⟩
  cases e
  exact ⟨expand_eq_of_unexpanded h, fun _ => h, fun _ => rfl⟩

/-- Expanding a reference puts its name on the chain. -/
lemma Disciplined.expanded {chain : List String} {name : String} {schema : Schema}
    {inner : Unfolding} (h : r.Disciplined (name :: chain) inner)
    (get : r.definitions.get? name = some schema) (hname : name ∉ chain)
    (heq : r.expand chain name =
      ⟨(Unfolding.reference name (some inner)).type r,
        (Unfolding.reference name (some inner)).notices r⟩) :
    r.Disciplined chain (.reference name (some inner)) := by
  intro around w hw
  cases hw with
  | here =>
    refine ⟨id, fun _ _ e => ?_⟩
    cases e
    exact ⟨heq, by simp, by simp [get, hname]⟩
  | @inside _ _ _ around hw =>
    rw [List.append_assoc, List.singleton_append]
    obtain ⟨hnodup, hreference⟩ := h around w hw
    exact ⟨fun hchain => hnodup (List.nodup_cons.2 ⟨hname, hchain⟩), hreference⟩

/-! ### Existence -/

lemma resolveBranches_cons (chain : List String) (branch : Model) (rest : List Model) :
    r.resolveBranches chain (branch :: rest) =
      ⟨(r.resolveIn chain branch).value.unwrap :: (r.resolveBranches chain rest).value,
        (r.resolveIn chain branch).notices ++
          ((if (r.resolveIn chain branch).value.unwrap.isObject then [] else [.branchSkipped])
            ++ (r.resolveBranches chain rest).notices)⟩ := by
  rw [resolveBranches]
  cases hobject : (r.resolveIn chain branch).value.unwrap.isObject <;> ext1 <;> simp [hobject]

/-- Branches are resolved to the types of their unfoldings. -/
lemma resolveBranches_eq {chain : List String} {branches : List Model}
    {unfolding : Model → Unfolding}
    (h : ∀ branch ∈ branches,
      r.resolveIn chain branch = ⟨(unfolding branch).type r, (unfolding branch).notices r⟩) :
    r.resolveBranches chain branches =
      ⟨Unfolding.branchTypes r (branches.map unfolding),
        Unfolding.branchNotices r (branches.map unfolding)⟩ := by
  induction branches with
  | nil => simp only [resolveBranches]; rfl
  | cons branch rest ih =>
    have hbranch := h branch List.mem_cons_self
    have hrest := ih fun b hb => h b (List.mem_cons_of_mem _ hb)
    rw [resolveBranches_cons, hbranch, hrest, List.map_cons, Unfolding.branchTypes,
      Unfolding.branchNotices]

theorem exists_unfolding (r : Resolver) (chain : List String) (model : Model) :
    ∃ u, r.Unfolds model u ∧ r.resolveIn chain model = ⟨u.type r, u.notices r⟩ ∧
      r.Disciplined chain u := by
  -- as in the resolver, either the model gets smaller or the chain gets longer
  match model with
  | .primitive about kind format =>
    exact ⟨_, .primitive about kind format, by rw [resolveIn]; rfl, disciplined_leaf r chain _⟩
  | .untyped about =>
    exact ⟨_, .untyped about, by rw [resolveIn]; rfl, disciplined_leaf r chain _⟩
  | .enum about kind values =>
    exact ⟨_, .enum about kind values, by rw [resolveIn]; rfl, disciplined_leaf r chain _⟩
  | .object about properties =>
    exact ⟨_, .object about properties, by rw [resolveIn]; rfl, disciplined_leaf r chain _⟩
  | .array about none =>
    exact ⟨_, .itemless about, by rw [resolveIn]; rfl, disciplined_leaf r chain _⟩
  | .array about (some items) =>
    obtain ⟨u, hu, heq, hd⟩ := exists_unfolding r chain items
    refine ⟨_, .array hu, ?_, hd.array _⟩
    rw [resolveIn, heq]
    ext1 <;> simp [Unfolding.type, Unfolding.notices]
  | .map about value =>
    obtain ⟨u, hu, heq, hd⟩ := exists_unfolding r chain value
    refine ⟨_, .map hu, ?_, hd.map _⟩
    rw [resolveIn, heq]
    ext1 <;> simp [Unfolding.type, Unfolding.notices]
  | .composed about branches =>
    have hall : ∀ branch, ∃ u, branch ∈ branches → r.Unfolds branch u ∧
        r.resolveIn chain branch = ⟨u.type r, u.notices r⟩ ∧ r.Disciplined chain u := by
      intro branch
      by_cases hb : branch ∈ branches
      · obtain ⟨u, hu⟩ := exists_unfolding r chain branch
        exact ⟨u, fun _ => hu⟩
      · exact ⟨.reference "" none, fun h => absurd h hb⟩
    choose unfolding h using hall
    refine ⟨_, .composed about unfolding fun b hb => (h b hb).1, ?_, ?_⟩
    · rw [resolveIn, resolveBranches_eq fun b hb => (h b hb).2.1]
      ext1 <;> simp [Unfolding.type, Unfolding.notices]
    · refine disciplined_composed (fun u hu => ?_) about
      obtain ⟨b, hb, rfl⟩ := List.mem_map.1 hu
      exact (h b hb).2.2
  | .reference about name reference =>
    by_cases hchain : r.definitions.get? name = none ∨ name ∈ chain
    · refine ⟨_, .unexpanded about name reference, ?_, disciplined_unexpanded hchain⟩
      rw [resolveIn, expand_eq_of_unexpanded hchain]
    · obtain ⟨hget, hname⟩ := not_or.1 hchain
      obtain ⟨schema, hget⟩ := Option.ne_none_iff_exists'.1 hget
      obtain ⟨u, hu, heq, hd⟩ :=
        exists_unfolding r (name :: chain) (schema.model r.definitions)
      have hexpand : r.expand chain name =
          ⟨(Unfolding.reference name (some u)).type r,
            (Unfolding.reference name (some u)).notices r⟩ := by
        rw [expand_of_not_mem hget hname, heq]
        ext1 <;> simp [Unfolding.type, Unfolding.notices]
      refine ⟨_, .expanded about reference hget hu, ?_, hd.expanded hget hname hexpand⟩
      rw [resolveIn, hexpand]
termination_by (r.definitions.unvisited chain, sizeOf model)
decreasing_by
  · exact Prod.Lex.right _ (Model.sizeOf_items_lt about items)
  · exact Prod.Lex.right _ (Model.sizeOf_value_lt about value)
  · exact Prod.Lex.right _ (Model.sizeOf_branch_lt about hb)
  · exact Prod.Lex.left _ _ (Definitions.unvisited_cons_lt hget hname)

end Resolver

end OpenApiDoc
