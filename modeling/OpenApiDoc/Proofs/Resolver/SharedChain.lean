import OpenApiDoc.Proofs.Resolver.Unfolding

/-!
# Resolution with a shared chain

The resolver hands each call a chain of its own. Here all calls share one chain, on which an
expansion puts a name and from which it takes the top when it comes back; nothing in
`Resolver.walkWithin` says that the walk ends or that the chain is then what it was. Both hold by
`Resolver.eventually_keeps`. With the unfolding of a model this says what becomes of the
references on the way.
-/

namespace OpenApiDoc

/-- The chain that all calls share, and the notices made so far. -/
structure WalkState where
  chain : List String
  notices : List Notice

/-- A part of a walk; none where the depth did not suffice. -/
abbrev Walk (α : Type) := StateT WalkState Option α

namespace Walk

/-- Make a notice. -/
def say (notice : Notice) : Walk Unit :=
  modify fun state => { state with notices := state.notices ++ [notice] }

/-- Put a name on the chain. -/
def push (name : String) : Walk Unit :=
  modify fun state => { state with chain := name :: state.chain }

/-- Take the top of the chain away. -/
def pop : Walk Unit := modify fun state => { state with chain := state.chain.tail }

/-- A walk gives a result with its notices and leaves the chain as it was. -/
def Keeps {α : Type} (walk : Walk α) (chain : List String) (result : Noted α) : Prop :=
  ∀ notices, walk.run ⟨chain, notices⟩ =
    some (result.value, ⟨chain, notices ++ result.notices⟩)

variable {α β : Type} {chain : List String}

lemma Keeps.pure (a : α) : Keeps (Pure.pure a) chain (Pure.pure a) := by
  intro notices
  simp

lemma Keeps.bind {walk : Walk α} {next : α → Walk β} {result : Noted α}
    {nextResult : α → Noted β} (h : Keeps walk chain result)
    (hnext : Keeps (next result.value) chain (nextResult result.value)) :
    Keeps (walk >>= next) chain (result >>= nextResult) := by
  intro notices
  have hrun := h notices
  have hrest := hnext (notices ++ result.notices)
  rw [StateT.run_bind, hrun]
  simpa using hrest

lemma Keeps.say (notice : Notice) : Keeps (say notice) chain (Noted.say notice) := by
  intro notices
  rfl

/-- What happens between a push and the pop that goes with it happens on a longer chain. -/
lemma Keeps.push_pop {walk : Walk α} {name : String} {result : Noted α}
    (h : Keeps walk (name :: chain) result) (f : α → β) :
    Keeps (do push name; let a ← walk; pop; Pure.pure (f a)) chain (f <$> result) := by
  intro notices
  have hrun := h notices
  simp only [StateT.run_bind, push, pop, StateT.run_modify, Option.pure_def, Option.bind_eq_bind,
    Option.bind_some, hrun, StateT.run_pure, List.tail_cons, Noted.value_map, Noted.notices_map]

end Walk

namespace Resolver

variable {r : Resolver} {recur : Model → Walk ResolvedType} {chain : List String}

/-! ### The walk -/

/-- Resolve the branches of a composition, given a way to resolve models. -/
def walkBranches (recur : Model → Walk ResolvedType) : List Model → Walk (List ResolvedType)
  | [] => pure []
  | branch :: rest => do
    let resolved ← recur branch
    unless resolved.unwrap.isObject do Walk.say .branchSkipped
    let types ← walkBranches recur rest
    pure (resolved.unwrap :: types)

/-- Expand a reference, given a way to resolve models. -/
def walkReference (r : Resolver) (recur : Model → Walk ResolvedType) (name : String) :
    Walk ResolvedType :=
  match r.definitions.get? name with
  | none => do
    Walk.say (.danglingDefinition name)
    pure (r.stub name)
  | some schema => do
    let state ← get
    if name ∈ state.chain then do
      Walk.say (.definitionReentered name)
      pure (r.stub name)
    else do
      Walk.push name
      let inner ← recur (schema.model r.definitions)
      Walk.pop
      pure (r.linkTo name inner)

/-- Resolve a model with the shared chain, given a way to resolve those in it. -/
def walkStep (r : Resolver) (recur : Model → Walk ResolvedType) : Model → Walk ResolvedType
  | .primitive about kind format => pure (.basic { display := about.title } kind format)
  | .untyped about => pure (.basic { display := about.title } .untyped none)
  | .enum about kind values =>
    pure (.enum { display := about.title } kind (values.map Json.enumLabel))
  | .array about none => pure (.array { display := about.title } (.object {}) none)
  | .array about (some items) => do
    let element ← recur items
    pure (.array { display := about.title } element none)
  | .map about value => do
    let value ← recur value
    pure (.map { display := about.title } value)
  | .object about properties =>
    pure (.object
      { names := { display := about.title }, properties, discriminator := about.discriminator })
  | .composed about branches => do
    let types ← walkBranches recur branches
    pure (.object (.compose about types))
  | .reference _ name _ => r.walkReference recur name

/-- Resolve a model with the shared chain, up to a depth of calls. -/
def walkWithin (r : Resolver) : Nat → Model → Walk ResolvedType
  | 0 => fun _ => failure
  | depth + 1 => r.walkStep (r.walkWithin depth)

/-! ### The chain is kept -/

lemma keeps_walkBranches {branches : List Model}
    (h : ∀ branch ∈ branches, (recur branch).Keeps chain (r.resolveIn chain branch)) :
    (walkBranches recur branches).Keeps chain (r.resolveBranches chain branches) := by
  induction branches with
  | nil =>
    rw [walkBranches, resolveBranches]
    exact .pure []
  | cons branch rest ih =>
    have hrest := ih fun b hb => h b (List.mem_cons_of_mem _ hb)
    rw [walkBranches, resolveBranches]
    refine (h branch List.mem_cons_self).bind ?_
    split
    · exact hrest.bind (.pure _)
    · exact (Walk.Keeps.say .branchSkipped).bind (hrest.bind (.pure _))

lemma keeps_walkReference_of_unexpanded {name : String}
    (h : r.definitions.get? name = none ∨ name ∈ chain) :
    (r.walkReference recur name).Keeps chain (r.expand chain name) := by
  intro notices
  rw [walkReference]
  rcases hget : r.definitions.get? name with _ | schema
  · rw [expand_of_missing hget]
    rfl
  · have hmem := h.resolve_left (by simp [hget])
    rw [expand_of_mem hget hmem]
    simp [hmem, Walk.say]

lemma keeps_walkReference_of_expanded {name : String} {schema : Schema}
    (get : r.definitions.get? name = some schema) (hname : name ∉ chain)
    (h : (recur (schema.model r.definitions)).Keeps (name :: chain)
      (r.resolveIn (name :: chain) (schema.model r.definitions))) :
    (r.walkReference recur name).Keeps chain (r.expand chain name) := by
  intro notices
  have hrun := h.push_pop (r.linkTo name) notices
  rw [walkReference, expand_of_not_mem get hname, get]
  simpa [hname] using hrun

/-- From some depth on the walk resolves a model as the resolver does and keeps the chain. -/
def EventuallyKeeps (r : Resolver) (chain : List String) (model : Model) : Prop :=
  ∃ depth, ∀ more ≥ depth, (r.walkWithin more model).Keeps chain (r.resolveIn chain model)

lemma eventuallyKeeps_of_step {model : Model}
    (h : ∃ depth, ∀ more ≥ depth,
      (r.walkStep (r.walkWithin more) model).Keeps chain (r.resolveIn chain model)) :
    r.EventuallyKeeps chain model := by
  obtain ⟨depth, h⟩ := h
  refine ⟨depth + 1, fun more hmore => ?_⟩
  obtain ⟨more, rfl⟩ : ∃ k, more = k + 1 := ⟨more - 1, by omega⟩
  exact h more (by omega)

/-- Finitely many models have a depth in common. -/
lemma eventually_forall {branches : List Model}
    (h : ∀ branch ∈ branches, r.EventuallyKeeps chain branch) :
    ∃ depth, ∀ more ≥ depth, ∀ branch ∈ branches,
      (r.walkWithin more branch).Keeps chain (r.resolveIn chain branch) := by
  induction branches with
  | nil => exact ⟨0, fun _ _ _ hb => nomatch hb⟩
  | cons branch rest ih =>
    obtain ⟨depth, hbranch⟩ := h branch List.mem_cons_self
    obtain ⟨depth', hrest⟩ := ih fun b hb => h b (List.mem_cons_of_mem _ hb)
    refine ⟨max depth depth', fun more hmore => ?_⟩
    rw [List.forall_mem_cons]
    exact ⟨hbranch more (by omega), hrest more (by omega)⟩

theorem eventually_keeps (r : Resolver) (chain : List String) (model : Model) :
    r.EventuallyKeeps chain model := by
  match model with
  | .primitive about kind format =>
    refine eventuallyKeeps_of_step ⟨0, fun more _ => ?_⟩
    rw [resolveIn]
    exact .pure _
  | .untyped about =>
    refine eventuallyKeeps_of_step ⟨0, fun more _ => ?_⟩
    rw [resolveIn]
    exact .pure _
  | .enum about kind values =>
    refine eventuallyKeeps_of_step ⟨0, fun more _ => ?_⟩
    rw [resolveIn]
    exact .pure _
  | .object about properties =>
    refine eventuallyKeeps_of_step ⟨0, fun more _ => ?_⟩
    rw [resolveIn]
    exact .pure _
  | .array about none =>
    refine eventuallyKeeps_of_step ⟨0, fun more _ => ?_⟩
    rw [resolveIn]
    exact .pure _
  | .array about (some items) =>
    obtain ⟨depth, h⟩ := eventually_keeps r chain items
    refine eventuallyKeeps_of_step ⟨depth, fun more hmore => ?_⟩
    rw [resolveIn]
    exact (h more hmore).bind (.pure _)
  | .map about value =>
    obtain ⟨depth, h⟩ := eventually_keeps r chain value
    refine eventuallyKeeps_of_step ⟨depth, fun more hmore => ?_⟩
    rw [resolveIn]
    exact (h more hmore).bind (.pure _)
  | .composed about branches =>
    obtain ⟨depth, h⟩ := eventually_forall fun branch hb => eventually_keeps r chain branch
    refine eventuallyKeeps_of_step ⟨depth, fun more hmore => ?_⟩
    rw [resolveIn]
    exact (keeps_walkBranches (h more hmore)).bind (.pure _)
  | .reference about name reference =>
    by_cases hchain : r.definitions.get? name = none ∨ name ∈ chain
    · refine eventuallyKeeps_of_step ⟨0, fun more _ => ?_⟩
      rw [resolveIn]
      exact keeps_walkReference_of_unexpanded hchain
    · obtain ⟨hget, hname⟩ := not_or.1 hchain
      obtain ⟨schema, hget⟩ := Option.ne_none_iff_exists'.1 hget
      obtain ⟨depth, h⟩ := eventually_keeps r (name :: chain) (schema.model r.definitions)
      refine eventuallyKeeps_of_step ⟨depth, fun more hmore => ?_⟩
      rw [resolveIn]
      exact keeps_walkReference_of_expanded hget hname (h more hmore)
termination_by (r.definitions.unvisited chain, sizeOf model)
decreasing_by
  · exact Prod.Lex.right _ (Model.sizeOf_items_lt about items)
  · exact Prod.Lex.right _ (Model.sizeOf_value_lt about value)
  · exact Prod.Lex.right _ (Model.sizeOf_branch_lt about hb)
  · exact Prod.Lex.left _ _ (Definitions.unvisited_cons_lt hget hname)

/-- Whatever the definitions refer to, resolving a model ends: some depth suffices for the walk,
and more depth gives the same. Every call hands the shared chain back as it found it. The result
comes of an unfolding in which no definition is expanded inside its own expansion, and a
reference is left as a link to an empty object of its name exactly if its definition is missing
or on the chain of the call that was made for it. -/
theorem resolve_expands_unless_on_chain (r : Resolver) :
    (∀ model chain, ∃ depth, ∀ more ≥ depth, ∀ notices,
      (r.walkWithin more model).run ⟨chain, notices⟩ =
        some ((r.resolveIn chain model).value,
          ⟨chain, notices ++ (r.resolveIn chain model).notices⟩)) ∧
    ∀ model, ∃ u, r.Unfolds model u ∧ r.resolve model = ⟨u.type r, u.notices r⟩ ∧
      ∀ around w, u.At around w → around.Nodup ∧
        ∀ name inner, w = .reference name inner →
          r.expand around name = ⟨w.type r, w.notices r⟩ ∧
          (inner = none ↔ r.definitions.get? name = none ∨ name ∈ around) ∧
          (inner = none → w.type r = .linkTo (r.links name) (.object (.named name))) := by
  refine ⟨fun model chain => eventually_keeps r chain model, fun model => ?_⟩
  obtain ⟨u, hu, heq, hd⟩ := exists_unfolding r [] model
  refine ⟨u, hu, heq, fun around w hw => ?_⟩
  obtain ⟨hnodup, hreference⟩ := hd around w hw
  rw [List.append_nil] at hnodup hreference
  refine ⟨hnodup List.nodup_nil, fun name inner hinner => ?_⟩
  obtain ⟨hexpand, hiff⟩ := hreference name inner hinner
  refine ⟨hexpand, hiff, fun hnone => ?_⟩
  subst hinner hnone
  rfl

end Resolver

end OpenApiDoc
