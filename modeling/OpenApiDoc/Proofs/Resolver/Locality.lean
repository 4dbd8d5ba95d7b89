import OpenApiDoc.Proofs.Definitions.Reachability
import OpenApiDoc.Proofs.Resolver.Unfolding
import OpenApiDoc.Proofs.Schema.Shape

/-!
# What a type depends on

The type of a schema depends on the definitions that the schema reaches, on which of these are on
the chain, and on the targets of links. `ResolvedType.relink` changes the targets in a type, and
every operation on types commutes with it. So two resolvers whose tables agree on a schema give
it the same type after the targets have been made the same.
-/

namespace OpenApiDoc

/-! ### Targets of links -/

namespace ResolvedType

variable {f : Option String → Option String} {t : ResolvedType}

/-- Change the documents that hold the targets of links. -/
def relink (f : Option String → Option String) : ResolvedType → ResolvedType
  | .basic names kind format => .basic names kind format
  | .array names element collection => .array names (element.relink f) collection
  | .map names value => .map names (value.relink f)
  | .enum names kind values => .enum names kind values
  | .object shape => .object shape
  | .link names document target => .link names (f document) (target.relink f)

@[simp] lemma relink_id (t : ResolvedType) : t.relink id = t := by
  induction t with
  | array names element collection ih => rw [relink, ih]
  | map names value ih => rw [relink, ih]
  | link names document target ih => rw [relink, ih, id]
  | _ => rfl

@[simp] lemma names_relink : (t.relink f).names = t.names := by
  cases t <;> rfl

@[simp] lemma name_relink : (t.relink f).name = t.name := by
  rw [name, names_relink, name]

@[simp] lemma isObject_relink : (t.relink f).isObject = t.isObject := by
  cases t <;> rfl

lemma relink_withNames (names : TypeNames) :
    (t.withNames names).relink f = (t.relink f).withNames names := by
  cases t <;> rfl

lemma relink_linkTo (document : Option String) :
    (linkTo document t).relink f = linkTo (f document) (t.relink f) := by
  simp [linkTo, relink, identity]

@[simp] lemma unwrap_relink : (t.relink f).unwrap = t.unwrap.relink f := by
  induction t with
  | link names document target ih => exact ih
  | _ => rfl

@[simp] lemma object?_relink : (t.relink f).object? = t.object? := by
  rw [object?, unwrap_relink, object?]
  cases t.unwrap <;> rfl

end ResolvedType

namespace ObjectType

variable {f : Option String → Option String}

lemma among_map_relink (types : List ResolvedType) :
    among (types.map (ResolvedType.relink f)) = among types := by
  rw [among, among, List.filterMap_map]
  congr 1
  funext t
  cases t <;> rfl

lemma lastName_map_relink (title : Option String) (types : List ResolvedType) :
    lastName title (types.map (ResolvedType.relink f)) = lastName title types := by
  simp [lastName, List.foldl_map]

/-- A composition does not depend on the targets of links in its branches. -/
lemma compose_map_relink (about : Annotations) (types : List ResolvedType) :
    compose about (types.map (ResolvedType.relink f)) = compose about types := by
  simp only [compose, among_map_relink, lastName_map_relink]

end ObjectType

/-! ### Resolution -/

namespace Resolver

variable {f : Option String → Option String} {r₁ r₂ : Resolver}

/-- Two results are the same after the targets of links have been changed. -/
def SameUpTo (f : Option String → Option String) (x y : Noted ResolvedType) : Prop :=
  ResolvedType.relink f <$> x = ResolvedType.relink f <$> y

lemma sameUpTo_iff {x y : Noted ResolvedType} :
    SameUpTo f x y ↔ x.value.relink f = y.value.relink f ∧ x.notices = y.notices := by
  rw [SameUpTo, Noted.ext_iff]
  simp

/-- Resolving to the same types up to targets gives the same branches up to targets. -/
lemma resolveBranches_congr {chain₁ chain₂ : List String} {branches : List Schema}
    (h : ∀ b ∈ branches, SameUpTo f (r₁.resolveIn chain₁ (b.model r₁.definitions))
      (r₂.resolveIn chain₂ (b.model r₂.definitions))) :
    (List.map (ResolvedType.relink f) <$>
        r₁.resolveBranches chain₁ (branches.map (Schema.model r₁.definitions))) =
      List.map (ResolvedType.relink f) <$>
        r₂.resolveBranches chain₂ (branches.map (Schema.model r₂.definitions)) := by
  induction branches with
  | nil => rw [List.map_nil, List.map_nil, resolveBranches, resolveBranches]
  | cons b rest ih =>
    obtain ⟨hvalue, hnotices⟩ := sameUpTo_iff.1 (h b List.mem_cons_self)
    have hrest := Noted.ext_iff.1 (ih fun b' hb => h b' (List.mem_cons_of_mem _ hb))
    simp only [Noted.value_map, Noted.notices_map] at hrest
    have hunwrap := congrArg ResolvedType.unwrap hvalue
    simp only [ResolvedType.unwrap_relink] at hunwrap
    have hobject := congrArg ResolvedType.isObject hunwrap
    simp only [ResolvedType.isObject_relink] at hobject
    rw [List.map_cons, List.map_cons, resolveBranches_cons, resolveBranches_cons]
    ext1
    · simp [hunwrap, hrest.1]
    · simp [hnotices, hobject, hrest.2]

/-- A model of a leaf is resolved without looking anything up. -/
lemma resolveIn_ofLeaf (chain₁ chain₂ : List String) (facts : SchemaFacts)
    (properties : Option (List (String × Schema))) :
    r₁.resolveIn chain₁ (.ofLeaf facts properties) =
      r₂.resolveIn chain₂ (.ofLeaf facts properties) := by
  rw [Model.ofLeaf.eq_def]
  split <;> rw [resolveIn, resolveIn]

/-- The type of a schema is the same in tables that agree on it and on chains that hold the same
of what it reaches, up to the targets of links. -/
theorem resolveIn_congr {chain₁ chain₂ : List String} {s : Schema}
    (links : ∀ name, f (r₁.links name) = f (r₂.links name))
    (agree : Definitions.Agree r₁.definitions r₂.definitions s)
    (chain : ∀ name, r₁.definitions.Reaches s name → (name ∈ chain₁ ↔ name ∈ chain₂)) :
    SameUpTo f (r₁.resolveIn chain₁ (s.model r₁.definitions))
      (r₂.resolveIn chain₂ (s.model r₂.definitions)) := by
  have hchild : ∀ child ∈ s.children,
      SameUpTo f (r₁.resolveIn chain₁ (child.model r₁.definitions))
        (r₂.resolveIn chain₂ (child.model r₂.definitions)) := by
    intro child hc
    have hmem := Schema.child_mem_subschemas hc
    exact resolveIn_congr links (agree.of_mem_subschemas hmem) fun name hn =>
      chain name (hn.of_mem_subschemas hmem)
  -- only a reference looks at the tables and the chains; every other shape passes them on
  cases s.shape with
  | composed branches allOf =>
    have hbranches := Noted.ext_iff.1 (resolveBranches_congr fun b hb =>
      hchild b (Schema.mem_children_of_branch allOf hb))
    simp only [Noted.value_map, Noted.notices_map] at hbranches
    have hcompose := congrArg (ObjectType.compose s.annotations) hbranches.1
    rw [ObjectType.compose_map_relink, ObjectType.compose_map_relink] at hcompose
    rw [Schema.model_of_composed allOf, Schema.model_of_composed allOf, resolveIn, resolveIn]
    refine sameUpTo_iff.2 ⟨?_, ?_⟩
    · simp [hcompose]
    · simp [hbranches.2]
  | reference reference allOf refers =>
    have hreach : r₁.definitions.Reaches s (r₁.definitions.referenceName reference) :=
      Definitions.reaches_of_reference refers
    have hnamed := congrFun (Definitions.referenceName_congr agree.self) reference
    have hget := agree.get _ hreach
    rw [Schema.model_of_reference allOf refers, Schema.model_of_reference allOf refers, ← hnamed,
      resolveIn, resolveIn]
    generalize r₁.definitions.referenceName reference = name at *
    rcases get : r₁.definitions.get? name with _ | target
    · rw [expand_of_missing get, expand_of_missing (hget ▸ get)]
      refine sameUpTo_iff.2 ⟨?_, rfl⟩
      simp only [stub, ResolvedType.relink_linkTo, links]
    · by_cases hmem : name ∈ chain₁
      · rw [expand_of_mem get hmem, expand_of_mem (hget ▸ get) ((chain name hreach).1 hmem)]
        refine sameUpTo_iff.2 ⟨?_, rfl⟩
        simp only [stub, ResolvedType.relink_linkTo, links]
      · -- the name goes onto both chains, so they still hold the same of what is reached
        have hmem₂ : name ∉ chain₂ := fun h => hmem ((chain name hreach).2 h)
        have hinner : SameUpTo f
            (r₁.resolveIn (name :: chain₁) (target.model r₁.definitions))
            (r₂.resolveIn (name :: chain₂) (target.model r₂.definitions)) := by
          refine resolveIn_congr links (agree.of_reaches hreach get) fun next hnext => ?_
          rw [List.mem_cons, List.mem_cons, chain next (hreach.trans get hnext)]
        obtain ⟨hvalue, hnotices⟩ := sameUpTo_iff.1 hinner
        rw [expand_of_not_mem get hmem, expand_of_not_mem (hget ▸ get) hmem₂]
        refine sameUpTo_iff.2 ⟨?_, ?_⟩
        · simp only [Noted.value_map, linkTo, ResolvedType.relink_linkTo,
            ResolvedType.relink_withNames, links, hvalue]
        · simp [hnotices]
  | array allOf refers isArray =>
    rw [Schema.model_of_array allOf refers isArray, Schema.model_of_array allOf refers isArray]
    rcases hitems : s.items with _ | item
    · rw [Option.map_none, Option.map_none, resolveIn, resolveIn]
      rfl
    · obtain ⟨hvalue, hnotices⟩ := sameUpTo_iff.1 (hchild item
        (Schema.parts_subset_children s (Schema.mem_parts_of_items hitems)))
      rw [Option.map_some, Option.map_some, resolveIn, resolveIn]
      refine sameUpTo_iff.2 ⟨?_, ?_⟩
      · simp [ResolvedType.relink, hvalue]
      · simp [hnotices]
  | map value allOf refers isArray properties values =>
    obtain ⟨hvalue, hnotices⟩ := sameUpTo_iff.1 (hchild value
      (Schema.parts_subset_children s (Schema.mem_parts_of_valueSchema values)))
    rw [Schema.model_of_map allOf refers isArray properties values,
      Schema.model_of_map allOf refers isArray properties values, resolveIn, resolveIn]
    refine sameUpTo_iff.2 ⟨?_, ?_⟩
    · simp [ResolvedType.relink, hvalue]
    · simp [hnotices]
  | leaf allOf refers isArray noMap =>
    rw [Schema.model_of_leaf allOf refers isArray noMap,
      Schema.model_of_leaf allOf refers isArray noMap]
    exact congrArg _ (resolveIn_ofLeaf chain₁ chain₂ s.toSchemaFacts s.properties)
termination_by (r₁.definitions.unvisited chain₁, s.count)
decreasing_by
  · exact Prod.Lex.right _ (Schema.count_lt_of_mem_children hc)
  · exact Prod.Lex.left _ _ (Definitions.unvisited_cons_lt get hmem)

/-- Tables that agree on a schema give it the same type. -/
theorem resolveSchema_congr {d₁ d₂ : Definitions} {s : Schema}
    (agree : Definitions.Agree d₁ d₂ s) (links : LinkTargets) :
    resolveSchema ⟨d₁, links⟩ s = resolveSchema ⟨d₂, links⟩ s := by
  have h : SameUpTo id (resolveSchema ⟨d₁, links⟩ s) (resolveSchema ⟨d₂, links⟩ s) :=
    resolveIn_congr (fun _ => rfl) agree fun _ _ => Iff.rfl
  obtain ⟨hvalue, hnotices⟩ := sameUpTo_iff.1 h
  rw [ResolvedType.relink_id, ResolvedType.relink_id] at hvalue
  exact Noted.ext hvalue hnotices

end Resolver

end OpenApiDoc
