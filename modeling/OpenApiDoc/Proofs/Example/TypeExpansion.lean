import OpenApiDoc.Proofs.Example.Paths
import OpenApiDoc.Proofs.Example.RequiredTypes
import OpenApiDoc.Proofs.Resolver.AliasNames

/-!
# Expansions in the examples of types

The type of a definition is the object that the definition leads to, without the link around it.
Its example has the properties of the object at once, and definitions are entered only where
these refer to them. So the limit holds for what is entered, but the object at the outside is
there without a visit: if it comes back to itself, it is expanded once more than the limit says.
The example of the definition enters the object first and keeps the limit.
-/

namespace OpenApiDoc

namespace Resolver

variable {r : Resolver}

/-- The type of a definition is named after the last one in its row of aliases. -/
lemma exists_owner (r : Resolver) (config : Config) (name : String) :
    ∃ owner, Relation.ReflTransGen r.definitions.AliasOf name owner ∧
      (r.definitionType config name).value.value.names = .both owner := by
  obtain ⟨row, owner, head, links, -, names⟩ := exists_names_expand r [] name
  refine ⟨owner, ?_, ?_⟩
  · have hrow := List.relationReflTransGen_of_exists_isChain _ links (by simp)
    rw [List.getLast_concat] at hrow
    rwa [(List.head_eq_iff_head?_eq_some _).2 head] at hrow
  · have hlast := congrArg List.getLast? names
    rw [List.getLast?_map, ResolvedType.getLast?_behindLinks, List.map_cons, List.map_append,
      ← List.cons_append, List.map_singleton, List.getLast?_concat] at hlast
    rw [names_definitionType]
    exact Option.some.inj hlast

/-- What holds of the properties in all definitions holds of those of the type of
a definition. -/
lemma everyProperty_definitionType {P : Schema → Prop} {config : Config} {name : String}
    (object : (r.definitionType config name).value.value.isObject = true)
    (defs : ∀ n t, r.definitions.get? n = some t → t.EveryProperty P) :
    (r.definitionType config name).value.value.EveryProperty P := by
  rw [Example.Generator.definitionType_eq object, resolveReference]
  refine ResolvedType.EveryProperty.unwrap ?_
  rcases get : r.definitions.get? name with _ | s
  · rw [expand_of_missing get]
    intro p hp
    cases hp
  · rw [expand_of_not_mem get List.not_mem_nil]
    have hinner : (r.resolveIn [name] (s.model r.definitions)).value.EveryProperty P :=
      everyProperty_resolveIn (defs name s get) (fun n t _ get => defs n t get) [name]
    simpa [linkTo, ResolvedType.linkTo, ResolvedType.EveryProperty] using hinner

end Resolver

namespace Example.Generator

variable {g : Generator} {shape : ObjectType} {visits : Visits} {t : Schema}
variable {names : List String} {name owner : String}

/-! ### The example of an object type -/

/-- The properties that take part in the example of an object type. -/
def shownOf (g : Generator) (shape : ObjectType) : List (String × Schema) :=
  g.shown (g.requiredUnder shape.names.identity) shape.properties

/-- The example of an object type asks for that of a schema; the definitions that are entered on
the path to it are given in order. -/
def AsksFor (g : Generator) (shape : ObjectType) (names : List String) (visits : Visits)
    (t : Schema) : Prop :=
  ∃ p ∈ g.shownOf shape, g.Path {} p.2 names visits t

/-- What the generator may do with an object type: its properties are expanded as schemas are. -/
def ExpandsType (g : Generator) (shape : ObjectType) (e : Expansion) : Prop :=
  ∃ entry : String × Schema → Expansion, (∀ p ∈ g.shownOf shape, g.Expands p.2 (entry p)) ∧
    e = .object [] ((g.shownOf shape).map fun p => (p.1, entry p))

/-- A finished example of an object type reads an expansion that keeps the limit
on every path. -/
lemma exists_expandsType (hlimit : g.options.limit.val ≤ 254)
    (finished : (g.typeExample (.object shape)).result.isSome) :
    ∃ e, g.ExpandsType shape e ∧ e.Bounded g.options.limit.val [] ∧
      g.typeExample (.object shape) = .done e.json e.notices := by
  rw [typeExample, typeExampleIn] at finished ⊢
  obtain ⟨entry, hexpands, hbounded, hdone⟩ := exists_entries fun p hp =>
    reads_exampleWithin hlimit g.visited_empty (isSome_objectExample.1 finished p hp)
  refine ⟨_, ⟨entry, hexpands, rfl⟩,
    Expansion.bounded_object [] g.visited_empty.le hbounded, ?_⟩
  rw [hdone, Expansion.json, Expansion.jsonEntries_map, Expansion.notices,
    Expansion.noticesEntries_map, List.nil_append]
  rfl

/-- An object that is entered twice on a path is entered as often as allowed on another one. -/
lemma exists_asksFor_count (hlimit : g.options.limit.val ≤ 254)
    (asks : g.AsksFor shape names visits t) (twice : 2 ≤ names.count owner) :
    ∃ more visits u, g.AsksFor shape more visits u ∧
      more.count owner = g.options.limit.val := by
  obtain ⟨p, hp, path⟩ := asks
  obtain ⟨before, between, target, first, back⟩ := (path_iff.1 path).1.exists_back twice
  obtain ⟨more, hway, hcount, hle⟩ := first.exists_count back (g.options.limit.val - 1)
  rw [Nat.sub_add_cancel g.options.limit.pos] at hcount hle
  obtain ⟨visits, hpath⟩ := (exists_path_iff hlimit).2 ⟨hway, hle⟩
  exact ⟨more, visits, target, ⟨p, hp, hpath⟩, hcount⟩

/-- The object at the outside counts as expanded too. Together with it an object stays within
the limit on every path just if it is not entered twice on any, or not even once where that
is all that is allowed. -/
lemma forall_count_le_iff (hlimit : g.options.limit.val ≤ 254) :
    (∀ names visits t, g.AsksFor shape names visits t →
      (owner :: names).count owner ≤ g.options.limit.val) ↔
    ∀ names visits t, g.AsksFor shape names visits t →
      names.count owner < min 2 g.options.limit.val := by
  simp only [List.count_cons_self]
  constructor
  · intro h names visits t asks
    by_contra hmany
    have hle := h names visits t asks
    have twice : 2 ≤ names.count owner := by omega
    obtain ⟨more, visits', u, asks', hcount⟩ := exists_asksFor_count hlimit asks twice
    have := h more visits' u asks'
    omega
  · intro h names visits t asks
    have := h names visits t asks
    omega

/-- Where compositions stand at the top only, the example of the type is finished. -/
lemma ComposesAtTop.isSome_typeExample {links : LinkTargets} {config : Config}
    (hlimit : g.options.limit.val ≤ 254) (defs : g.ComposesAtTop)
    (object : (Resolver.definitionType ⟨g.definitions, links⟩ config name).value.value =
      .object shape) : (g.typeExample (.object shape)).result.isSome := by
  have hproperties : (Resolver.definitionType ⟨g.definitions, links⟩ config
      name).value.value.EveryProperty Schema.NeverComposes :=
    Resolver.everyProperty_definitionType (by rw [object]; rfl) fun n t get u hu p hp =>
      (defs n t get).neverComposes_part hu (Schema.propertySchemas_subset_parts u hp)
  rw [object] at hproperties
  rw [typeExample, typeExampleIn]
  refine isSome_objectExample.2 fun p hp => ?_
  have hp := (mem_shown.1 hp).1
  have hends : g.Ends {} p.2 :=
    defs.ends hlimit (hproperties p hp).composesAtTop (Visits.within_empty _)
  exact hends.isSome_of_property hp

/-- The example of the type of a definition enters each definition as often as allowed at most,
on every path and whether it is finished or not, and `...` stands where one would be entered once
more. But the object at the outside is that of a definition too, which was not entered for it.
With it the definition is expanded once more than allowed, unless it is entered at most once on
every path, or never if that is all that is allowed. -/
theorem typeExample_expands_once_more {links : LinkTargets} {config : Config}
    (hlimit : g.options.limit.val ≤ 254)
    (object :
      (Resolver.definitionType ⟨g.definitions, links⟩ config name).value.value.isObject = true) :
    ∃ shape owner,
      (Resolver.definitionType ⟨g.definitions, links⟩ config name).value.value = .object shape ∧
      shape.names = .both owner ∧ Relation.ReflTransGen g.definitions.AliasOf name owner ∧
      (∀ names visits t, g.AsksFor shape names visits t → g.Kept names visits t ∧
        ∀ n, (owner :: names).count n ≤ g.options.limit.val + if n = owner then 1 else 0) ∧
      ((∀ names visits t, g.AsksFor shape names visits t →
          (owner :: names).count owner ≤ g.options.limit.val) ↔
        ∀ names visits t, g.AsksFor shape names visits t →
          names.count owner < min 2 g.options.limit.val) ∧
      ((g.typeExample (.object shape)).result.isSome →
        ∃ e, g.ExpandsType shape e ∧ e.Bounded g.options.limit.val [] ∧
          g.typeExample (.object shape) = .done e.json e.notices) ∧
      (g.ComposesAtTop → (g.typeExample (.object shape)).result.isSome) := by
  obtain ⟨owner, aliases, names⟩ := Resolver.exists_owner ⟨g.definitions, links⟩ config name
  obtain ⟨shape, hshape⟩ : ∃ shape,
      (Resolver.definitionType ⟨g.definitions, links⟩ config name).value.value =
        .object shape := by
    cases hvalue : (Resolver.definitionType ⟨g.definitions, links⟩ config name).value.value with
    | object shape => exact ⟨shape, rfl⟩
    | _ => simp [hvalue, ResolvedType.isObject] at object
  rw [hshape] at names
  refine ⟨shape, owner, hshape, names, aliases, ?_, forall_count_le_iff hlimit,
    exists_expandsType hlimit, fun defs => defs.isSome_typeExample hlimit hshape⟩
  rintro names visits t ⟨p, -, path⟩
  have kept := path.kept hlimit
  refine ⟨kept, fun n => ?_⟩
  have := kept.le n
  rw [List.count_cons]
  simp only [beq_iff_eq, eq_comm (a := owner)]
  split <;> omega

/-- One definition, which holds itself in a property and may be entered twice. -/
def nodes : Generator where
  definitions := selfReferring.definitions
  options := { generates := true }

/-- The type of the definition. -/
def nodeType : ObjectType where
  names := .both "Node"
  properties := [("next", { reference := some "Node" })]

lemma definitionType_nodes :
    (nodes.resolver.definitionType {} "Node").value.value = .object nodeType := by
  cbv

/-- The node is expanded three times at most, and the example is finished. -/
theorem typeExample_expands_once_more_nodes :
    nodes.options.limit.val ≤ 254 ∧
    (nodes.resolver.definitionType {} "Node").value.value.isObject = true ∧
    nodes.ComposesAtTop ∧
    (∀ names visits t, nodes.AsksFor nodeType names visits t →
      nodes.Kept names visits t ∧ ("Node" :: names).count "Node" ≤ 3) ∧
    ∃ e, nodes.ExpandsType nodeType e ∧ e.Bounded 2 [] ∧
      nodes.typeExample (.object nodeType) = .done e.json e.notices := by
  have object : (nodes.resolver.definitionType {} "Node").value.value.isObject = true := by
    rw [definitionType_nodes]
    rfl
  have hdefinitions : ∀ name ∈ nodes.definitions.names,
      ∀ t, nodes.definitions.get? name = some t → t.NeverComposes := by decide
  have defs : nodes.ComposesAtTop := fun name t get =>
    (hdefinitions name (Definitions.mem_names_of_get? get) t get).composesAtTop
  obtain ⟨shape, owner, hshape, names, -, kept, -, expansion, finished⟩ :=
    typeExample_expands_once_more (g := nodes) (by decide) object
  obtain rfl : shape = nodeType :=
    ResolvedType.object.inj (hshape.symm.trans definitionType_nodes)
  obtain rfl : owner = "Node" := by cases names; rfl
  exact ⟨by decide, object, defs, fun names visits t asks => ⟨(kept names visits t asks).1,
    (kept names visits t asks).2 "Node"⟩, expansion (finished defs)⟩

/-- The example of the definition expands the node twice, as often as allowed, and that
of its type three times. -/
theorem typeExample_beyond_limit :
    nodes.options.limit.val = 2 ∧
    (nodes.resolver.definitionType {} "Node").value.value = .object nodeType ∧
    (∃ names visits t, nodes.AsksFor nodeType names visits t ∧
      2 < ("Node" :: names).count "Node") ∧
    (nodes.typeExample (.object nodeType)).result =
      some (.obj [("next", .obj [("next", .obj [("next", sentinel)])])]) ∧
    (nodes.definitionExample "Node").result =
      some (some (.obj [("next", .obj [("next", sentinel)])])) := by
  have follows : Follows { reference := some "Node" } "Node" := ⟨rfl, rfl, rfl⟩
  have holds : nodes.Holds { properties := some [("next", { reference := some "Node" })] }
      { reference := some "Node" } :=
    .property (p := ("next", { reference := some "Node" })) ⟨rfl, rfl, rfl⟩ rfl rfl rfl
      List.mem_cons_self
  have path : nodes.Path {} { reference := some "Node" } ["Node", "Node"] ⟨[("Node", 2)]⟩
      { properties := some [("next", { reference := some "Node" })] } :=
    .entered follows rfl rfl rfl (.holds holds (.entered follows rfl rfl rfl (.here _ _)))
  exact ⟨rfl, definitionType_nodes, ⟨_, _, _, ⟨_, List.mem_cons_self, path⟩, by decide⟩,
    by cbv, by cbv⟩

end Example.Generator

end OpenApiDoc
