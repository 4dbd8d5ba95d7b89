import OpenApiDoc.Proofs.Example.Depth

/-!
# Expansions

A finished example is the reading of a tree that shows which definitions were entered on the way
to each place in it. On every path of the tree a definition is entered at most as often as
allowed, and the text `...` stands exactly where a path would go beyond that. Where compositions
stand at the top only, every schema and every definition has such an example.
-/

namespace OpenApiDoc.Example

/-! ### Trees -/

/-- How an example is made: the values that are given, the definitions that are missing, refused
or entered, and the arrays, maps and objects around them. An object has the notices made when its
properties were merged. -/
inductive Expansion where
  | given (value : Json)
  | dangling (name : String)
  | refused (name : String)
  | entered (name : String) (inner : Expansion)
  | array (item : Expansion)
  | map (value : Expansion)
  | object (merging : List Notice) (entries : List (String × Expansion))
deriving Inhabited

namespace Expansion

mutual

/-- The example that a tree shows. -/
def json : Expansion → Json
  | .given value => value
  | .dangling name => .str name
  | .refused _ => sentinel
  | .entered _ inner => inner.json
  | .array item => .arr [item.json]
  | .map value => mapWith value.json
  | .object _ entries => .obj (jsonEntries entries)

/-- The examples of entries under their keys. -/
def jsonEntries : List (String × Expansion) → List (String × Json)
  | [] => []
  | (key, e) :: rest => (key, e.json) :: jsonEntries rest

end

mutual

/-- The notices of a tree, in order. -/
def notices : Expansion → List Notice
  | .given _ => []
  | .dangling name => [.danglingExample name]
  | .refused name => [.exampleBounded name]
  | .entered _ inner => inner.notices
  | .array item => item.notices
  | .map value => value.notices
  | .object merging entries => merging ++ noticesEntries entries

/-- The notices of entries, in order. -/
def noticesEntries : List (String × Expansion) → List Notice
  | [] => []
  | (_, e) :: rest => e.notices ++ noticesEntries rest

end

lemma jsonEntries_map {α : Type} (key : α → String) (f : α → Expansion) (list : List α) :
    jsonEntries (list.map fun a => (key a, f a)) = list.map fun a => (key a, (f a).json) := by
  induction list with
  | nil => rfl
  | cons a rest ih => simp only [List.map_cons, jsonEntries, ih]

lemma noticesEntries_map {α : Type} (key : α → String) (f : α → Expansion) (list : List α) :
    noticesEntries (list.map fun a => (key a, f a)) = list.flatMap fun a => (f a).notices := by
  induction list with
  | nil => rfl
  | cons a rest ih => simp only [List.map_cons, noticesEntries, List.flatMap_cons, ih]

/-! ### Paths -/

/-- A place in a tree, with the definitions that are entered on the way to it, in order. -/
inductive At : Expansion → List String → Expansion → Prop where
  | here {e : Expansion} : e.At [] e
  | entered {name : String} {inner place : Expansion} {path : List String}
      (h : inner.At path place) : (Expansion.entered name inner).At (name :: path) place
  | array {item place : Expansion} {path : List String} (h : item.At path place) :
      (Expansion.array item).At path place
  | map {value place : Expansion} {path : List String} (h : value.At path place) :
      (Expansion.map value).At path place
  | object {merging : List Notice} {entries : List (String × Expansion)}
      {entry : String × Expansion} {place : Expansion} {path : List String} (h : entry ∈ entries)
      (at_ : entry.2.At path place) : (Expansion.object merging entries).At path place

/-- What the limit says of a place in a tree: a definition is entered as long as it was entered
less often than allowed, and refused when it was entered as often as allowed. -/
structure Limited (limit : Nat) (path : List String) (place : Expansion) : Prop where
  le : ∀ name, path.count name ≤ limit
  lt : ∀ name inner, place = .entered name inner → path.count name < limit
  eq : ∀ name, place = .refused name → path.count name = limit

/-- The limit is kept at all places of a tree that itself is reached through some definitions. -/
def Bounded (limit : Nat) (around : List String) (e : Expansion) : Prop :=
  ∀ path place, e.At path place → Limited limit (around ++ path) place

variable {limit : Nat} {around : List String}

lemma bounded_given (value : Json) (h : ∀ name, around.count name ≤ limit) :
    (Expansion.given value).Bounded limit around := by
  intro path place hat
  cases hat with
  | here =>
    rw [List.append_nil]
    exact ⟨h, nofun, nofun⟩

lemma bounded_dangling (name : String) (h : ∀ name, around.count name ≤ limit) :
    (Expansion.dangling name).Bounded limit around := by
  intro path place hat
  cases hat with
  | here =>
    rw [List.append_nil]
    exact ⟨h, nofun, nofun⟩

lemma bounded_refused {name : String} (h : ∀ name, around.count name ≤ limit)
    (hname : around.count name = limit) : (Expansion.refused name).Bounded limit around := by
  intro path place hat
  cases hat with
  | here =>
    rw [List.append_nil]
    refine ⟨h, nofun, fun other heq => ?_⟩
    cases heq
    exact hname

lemma bounded_entered {name : String} {inner : Expansion} (h : ∀ name, around.count name ≤ limit)
    (hname : around.count name < limit) (hinner : inner.Bounded limit (around ++ [name])) :
    (Expansion.entered name inner).Bounded limit around := by
  intro path place hat
  cases hat with
  | here =>
    rw [List.append_nil]
    refine ⟨h, fun other inner' heq => ?_, nofun⟩
    cases heq
    exact hname
  | @entered _ _ _ path hat =>
    have := hinner path place hat
    rwa [List.append_assoc, List.singleton_append] at this

lemma bounded_array {item : Expansion} (h : ∀ name, around.count name ≤ limit)
    (hitem : item.Bounded limit around) : (Expansion.array item).Bounded limit around := by
  intro path place hat
  cases hat with
  | here =>
    rw [List.append_nil]
    exact ⟨h, nofun, nofun⟩
  | array hat => exact hitem path place hat

lemma bounded_map {value : Expansion} (h : ∀ name, around.count name ≤ limit)
    (hvalue : value.Bounded limit around) : (Expansion.map value).Bounded limit around := by
  intro path place hat
  cases hat with
  | here =>
    rw [List.append_nil]
    exact ⟨h, nofun, nofun⟩
  | map hat => exact hvalue path place hat

lemma bounded_object {properties : List (String × Schema)} {entry : String × Schema → Expansion}
    (merging : List Notice) (h : ∀ name, around.count name ≤ limit)
    (hentries : ∀ p ∈ properties, (entry p).Bounded limit around) :
    (Expansion.object merging
      (properties.map fun p => (p.1, entry p))).Bounded limit around := by
  intro path place hat
  cases hat with
  | here =>
    rw [List.append_nil]
    exact ⟨h, nofun, nofun⟩
  | object hmem hat =>
    obtain ⟨p, hp, rfl⟩ := List.mem_map.1 hmem
    exact hentries p hp path place hat

end Expansion

namespace Generator

variable {g : Generator} {visits : Visits} {around : List String} {s : Schema}

/-! ### The expansions of a schema -/

/-- What the generator may do with a schema, whatever was entered before. -/
inductive Expands (g : Generator) : Schema → Expansion → Prop where
  | authored {s : Schema} {value : Json} (authored : s.authored = some value) :
      g.Expands s (.given value)
  | composed {s : Schema} {branches : List Schema} {entry : String × Schema → Expansion}
      (generated : s.authored = none) (allOf : s.allOf = some branches)
      (h : ∀ p ∈ g.shown (g.definitions.requiredProperties s) (g.mergedProperties s),
        g.Expands p.2 (entry p)) :
      g.Expands s (.object (g.resolver.resolveSchema s).notices
        ((g.shown (g.definitions.requiredProperties s) (g.mergedProperties s)).map fun p =>
          (p.1, entry p)))
  | dangling {s : Schema} {reference : String} (follows : Follows s reference)
      (get : g.definitions.get? (g.definitions.referenceName reference) = none) :
      g.Expands s (.dangling (g.definitions.referenceName reference))
  | exemplified {s target : Schema} {reference : String} {value : Json}
      (follows : Follows s reference)
      (get : g.definitions.get? (g.definitions.referenceName reference) = some target)
      (authored : target.authored = some value) : g.Expands s (.given value)
  | refused {s target : Schema} {reference : String} (follows : Follows s reference)
      (get : g.definitions.get? (g.definitions.referenceName reference) = some target)
      (generated : target.authored = none) :
      g.Expands s (.refused (g.definitions.referenceName reference))
  | entered {s target : Schema} {reference : String} {inner : Expansion}
      (follows : Follows s reference)
      (get : g.definitions.get? (g.definitions.referenceName reference) = some target)
      (generated : target.authored = none) (h : g.Expands target inner) :
      g.Expands s (.entered (g.definitions.referenceName reference) inner)
  | itemless {s : Schema} (bare : Bare s) (isArray : s.isArray = true) (items : s.items = none) :
      g.Expands s (.given (.arr [.obj []]))
  | array {s item : Schema} {inner : Expansion} (bare : Bare s) (isArray : s.isArray = true)
      (items : s.items = some item) (h : g.Expands item inner) : g.Expands s (.array inner)
  | map {s value : Schema} {inner : Expansion} (bare : Bare s) (isArray : s.isArray = false)
      (properties : s.properties = none) (values : s.valueSchema = some value)
      (h : g.Expands value inner) : g.Expands s (.map inner)
  | enumerated {s : Schema} {value : Json} (bare : Bare s) (isArray : s.isArray = false)
      (noMap : s.properties = none → s.valueSchema = none) (first : firstValue s = some value) :
      g.Expands s (.given value)
  | object {s : Schema} {properties : List (String × Schema)}
      {entry : String × Schema → Expansion}
      (bare : Bare s) (isArray : s.isArray = false) (first : firstValue s = none)
      (hproperties : s.properties = some properties)
      (h : ∀ p ∈ g.shown s.required properties, g.Expands p.2 (entry p)) :
      g.Expands s (.object [] ((g.shown s.required properties).map fun p => (p.1, entry p)))
  | plain {s : Schema} (bare : Bare s) (isArray : s.isArray = false)
      (first : firstValue s = none)
      (properties : s.properties = none) (values : s.valueSchema = none) :
      g.Expands s (.given (s.default.getD (primitive s.kind s.format)))

/-- The definitions around a place are those that were visited, and none was entered
more often than allowed. -/
structure Visited (g : Generator) (around : List String) (visits : Visits) : Prop where
  counts : ∀ name, visits.count name = around.count name
  within : visits.Within g.options.limit

lemma visited_empty (g : Generator) : g.Visited [] {} where
  counts _ := rfl
  within := Visits.within_empty _

lemma Visited.le (h : g.Visited around visits) (name : String) :
    around.count name ≤ g.options.limit.val :=
  h.counts name ▸ h.within name

lemma Visited.enter {name : String} {inner : Visits} (hlimit : g.options.limit.val ≤ 254)
    (h : g.Visited around visits) (enter : visits.enter name g.options.limit = some inner) :
    g.Visited (around ++ [name]) inner where
  counts n := by
    rw [Visits.count_enter_of_le hlimit enter, h.counts, List.count_append, List.count_singleton]
    simp only [beq_iff_eq, eq_comm (a := name)]
  within := h.within.enter enter

lemma Visited.lt_of_entered {name : String} {inner : Visits} (hlimit : g.options.limit.val ≤ 254)
    (h : g.Visited around visits) (enter : visits.enter name g.options.limit = some inner) :
    around.count name < g.options.limit.val := by
  have hne : ¬ g.options.limit.val ≤ visits.count name := fun hle => by
    rw [(Visits.enter_eq_none_iff hlimit).2 hle] at enter
    cases enter
  rw [← h.counts]
  exact Nat.lt_of_not_le hne

lemma Visited.eq_of_refused {name : String} (hlimit : g.options.limit.val ≤ 254)
    (h : g.Visited around visits) (enter : visits.enter name g.options.limit = none) :
    around.count name = g.options.limit.val := by
  have hle := (Visits.enter_eq_none_iff hlimit).1 enter
  rw [h.counts] at hle
  exact Nat.le_antisymm (h.le name) hle

/-- A draft reads a bounded expansion of a schema. -/
def Reads (g : Generator) (around : List String) (s : Schema) (draft : Draft Json) : Prop :=
  ∃ e, g.Expands s e ∧ e.Bounded g.options.limit.val around ∧ draft = .done e.json e.notices

lemma exists_entries {recur : Recur} {required : List String}
    {properties : List (String × Schema)}
    (h : ∀ p ∈ g.shown required properties, g.Reads around p.2 (recur visits p.2)) :
    ∃ entry : String × Schema → Expansion,
      (∀ p ∈ g.shown required properties, g.Expands p.2 (entry p)) ∧
      (∀ p ∈ g.shown required properties, (entry p).Bounded g.options.limit.val around) ∧
      g.objectExample recur visits required properties =
        .done (.obj ((g.shown required properties).map fun p => (p.1, (entry p).json)))
          ((g.shown required properties).flatMap fun p => (entry p).notices) := by
  choose! entry hexpands hbounded hdone using h
  exact ⟨entry, hexpands, hbounded, objectExample_done hdone⟩

/-- A finished example reads an expansion that keeps the limit on every path. -/
theorem reads_exampleWithin {depth : Nat} (hlimit : g.options.limit.val ≤ 254)
    (hv : g.Visited around visits) (h : (g.exampleWithin depth visits s).result.isSome) :
    g.Reads around s (g.exampleWithin depth visits s) := by
  induction depth generalizing around visits s with
  | zero => cases h
  | succ depth ih =>
    have calls : ∀ visits' s', g.Calls visits s visits' s' →
        (g.exampleWithin depth visits' s').result.isSome := isSome_step.1 h
    rw [exampleWithin]
    cases g.form visits s with
    | authored value authored =>
      rw [step_of_authored authored]
      exact ⟨_, .authored authored, Expansion.bounded_given value hv.le, rfl⟩
    | composed branches generated allOf =>
      obtain ⟨entry, hexpands, hbounded, hdone⟩ := exists_entries fun p hp =>
        ih hv (calls visits p.2 (.holds (.merged generated allOf hp)))
      refine ⟨_, .composed generated allOf hexpands,
        Expansion.bounded_object _ hv.le hbounded, ?_⟩
      rw [step_of_composed generated allOf, hdone, Expansion.json, Expansion.jsonEntries_map,
        Expansion.notices, Expansion.noticesEntries_map]
      exact Draft.done_bind _ _ _ rfl
    | dangling reference follows get =>
      rw [step_of_follows follows, referenceExample_of_missing get]
      exact ⟨_, .dangling follows get, Expansion.bounded_dangling _ hv.le, rfl⟩
    | exemplified reference target value follows get authored =>
      rw [step_of_follows follows, referenceExample_of_authored get authored]
      exact ⟨_, .exemplified follows get authored, Expansion.bounded_given value hv.le, rfl⟩
    | refused reference target follows get generated enter =>
      rw [step_of_follows follows, referenceExample_of_refused get generated enter]
      have hname := hv.eq_of_refused hlimit enter
      exact ⟨_, .refused follows get generated, Expansion.bounded_refused hv.le hname, rfl⟩
    | entered reference target inner follows get generated enter =>
      obtain ⟨e, hexpands, hbounded, hdone⟩ := ih (hv.enter hlimit enter)
        (calls inner target (.entered follows get generated enter))
      rw [step_of_follows follows, referenceExample_of_entered get generated enter, hdone]
      have hname := hv.lt_of_entered hlimit enter
      exact ⟨_, .entered follows get generated hexpands,
        Expansion.bounded_entered hv.le hname hbounded, rfl⟩
    | itemless bare isArray items =>
      rw [step_of_itemless bare isArray items]
      exact ⟨_, .itemless bare isArray items, Expansion.bounded_given _ hv.le, rfl⟩
    | array item bare isArray items =>
      obtain ⟨e, hexpands, hbounded, hdone⟩ := ih hv
        (calls visits item (.holds (.item bare isArray items)))
      rw [step_of_array bare isArray items, hdone, Draft.map_done]
      exact ⟨_, .array bare isArray items hexpands, Expansion.bounded_array hv.le hbounded, rfl⟩
    | map value bare isArray properties values =>
      obtain ⟨e, hexpands, hbounded, hdone⟩ := ih hv
        (calls visits value (.holds (.value bare isArray properties values)))
      rw [step_of_map bare isArray properties values, hdone, Draft.map_done]
      exact ⟨_, .map bare isArray properties values hexpands,
        Expansion.bounded_map hv.le hbounded, rfl⟩
    | enumerated value bare isArray noMap first =>
      rw [step_of_enumerated bare isArray noMap first]
      exact ⟨_, .enumerated bare isArray noMap first, Expansion.bounded_given value hv.le, rfl⟩
    | object properties bare isArray first hproperties =>
      obtain ⟨entry, hexpands, hbounded, hdone⟩ := exists_entries fun p hp =>
        ih hv (calls visits p.2 (.holds (.property bare isArray first hproperties hp)))
      refine ⟨_, .object bare isArray first hproperties hexpands,
        Expansion.bounded_object [] hv.le hbounded, ?_⟩
      rw [step_of_object bare isArray first hproperties, hdone, Expansion.json,
        Expansion.jsonEntries_map, Expansion.notices, Expansion.noticesEntries_map,
        List.nil_append]
    | plain bare isArray first properties values =>
      rw [step_of_plain bare isArray first properties values]
      exact ⟨_, .plain bare isArray first properties values,
        Expansion.bounded_given _ hv.le, rfl⟩

/-! ### Compositions at the top -/

/-- Every definition composes at the top. -/
def ComposesAtTop (g : Generator) : Prop :=
  ∀ name t, g.definitions.get? name = some t → t.ComposesAtTop

lemma ComposesAtTop.neverComposes_merged (defs : g.ComposesAtTop) (hs : s.ComposesAtTop) :
    ∀ p ∈ g.mergedProperties s, p.2.NeverComposes := by
  have everyProperty : ∀ t : Schema, t.ComposesAtTop → t.EveryProperty Schema.NeverComposes :=
    fun t ht u hu p hp =>
      ht.neverComposes_part hu (Schema.propertySchemas_subset_parts u hp)
  exact forall_mergedProperties (everyProperty s hs) fun name t _ get =>
    everyProperty t (defs name t get)

/-- Every visit leaves less of the limits, and between two visits an example goes from a
composition to properties without compositions and from there to smaller schemas. -/
theorem ComposesAtTop.ends (hlimit : g.options.limit.val ≤ 254) (defs : g.ComposesAtTop)
    (hs : s.ComposesAtTop) (hv : visits.Within g.options.limit) : g.Ends visits s := by
  induction hremaining : visits.remaining g.options.limit g.definitions.names
    using Nat.strong_induction_on generalizing visits s with
  | _ remaining ih =>
    -- entering a definition is the only step to which the induction hypothesis applies
    have entered : ∀ {name : String} {target : Schema} {inner : Visits},
        g.definitions.get? name = some target →
        visits.enter name g.options.limit = some inner → g.Ends inner target := by
      intro name target inner get enter
      have hlt := (Visits.eq_or_remaining_lt_of_enter hv enter
        (Definitions.mem_names_of_get? get)).resolve_left (Visits.ne_of_enter hlimit enter)
      exact ih _ (hremaining ▸ hlt) (defs name target get) (hv.enter enter) rfl
    -- without compositions everything else leads to a smaller schema
    have inside : ∀ t : Schema, t.NeverComposes → g.Ends visits t := by
      intro t
      induction t using Schema.induction_on_children with
      | step t iht =>
        intro ht
        refine .intro fun visits' t' call => ?_
        cases call with
        | entered _ get _ enter => exact entered get enter
        | holds h =>
          have hpart := h.mem_parts_or_merged.resolve_right fun h => h.1 ht.allOf_eq_none
          have hchild := Schema.parts_subset_children t hpart
          exact iht t' hchild (ht.of_mem (Schema.child_mem_subschemas hchild))
    refine .intro fun visits' s' call => ?_
    cases call with
    | entered _ get _ enter => exact entered get enter
    | holds h =>
      refine inside s' ?_
      rcases h.mem_parts_or_merged with hpart | ⟨-, p, hp, rfl⟩
      · exact hs.neverComposes_part s.self_mem_subschemas hpart
      · exact defs.neverComposes_merged hs p hp

lemma ComposesAtTop.reads_generate (hlimit : g.options.limit.val ≤ 254) (defs : g.ComposesAtTop)
    (hs : s.ComposesAtTop) : g.Reads [] s (g.generate s) := by
  have hends : g.Ends {} s := defs.ends hlimit hs (Visits.within_empty _)
  exact reads_exampleWithin hlimit g.visited_empty (isSome_generate_iff.2 hends)

lemma ComposesAtTop.reads_definitionExample {name : String} {target : Schema}
    (hlimit : g.options.limit.val ≤ 254) (defs : g.ComposesAtTop)
    (get : g.definitions.get? name = some target) (generated : target.authored = none)
    (generates : g.options.generates = true) :
    ∃ inner, g.Expands target inner ∧
      (Expansion.entered name inner).Bounded g.options.limit.val [] ∧
      g.definitionExample name = .done (some inner.json) inner.notices := by
  obtain ⟨visits, enter⟩ : ∃ visits, ({} : Visits).enter name g.options.limit = some visits :=
    Visits.enter_of_lt g.options.limit.pos
  have hv : g.Visited [name] visits := g.visited_empty.enter hlimit enter
  have hends : g.Ends visits target := defs.ends hlimit (defs name target get) hv.within
  have hmem : target ∈ g.known [] := mem_known_of_get? get
  have hfinished : (g.exampleWithin (g.depth 0) visits target).result.isSome :=
    have hroots : Schema.countList [] ≤ 0 := Nat.le_refl 0
    hends.isSome_of_depth hroots hmem hv.within
  obtain ⟨inner, hexpands, hbounded, hdone⟩ := reads_exampleWithin hlimit hv hfinished
  have hempty := g.visited_empty
  refine ⟨inner, hexpands, ?_, ?_⟩
  · exact Expansion.bounded_entered hempty.le (hempty.lt_of_entered hlimit enter) hbounded
  · simp only [definitionExample, get, generated, generates, if_true,
      referenceExample_of_entered get generated enter, hdone]
    exact Draft.map_done _ _ _

lemma ComposesAtTop.isSome_definitionExample (hlimit : g.options.limit.val ≤ 254)
    (defs : g.ComposesAtTop) (name : String) : (g.definitionExample name).result.isSome := by
  rcases get : g.definitions.get? name with _ | target
  · simp [definitionExample, get]
  · rcases generated : target.authored with _ | value
    · by_cases generates : g.options.generates = true
      · obtain ⟨inner, _, _, hdone⟩ :=
          defs.reads_definitionExample hlimit get generated generates
        simp [hdone]
      · simp [definitionExample, get, generated, generates]
    · simp [definitionExample, get, generated]

/-- Where compositions stand at the top only, examples of schemas and definitions are
finished, and what they read is a tree that keeps the limit: on no path is a definition
entered more often than allowed, and `...` stands exactly where a path would enter a
definition without an example once more. -/
theorem examples_bounded (hlimit : g.options.limit.val ≤ 254) (defs : g.ComposesAtTop) :
    (∀ s : Schema, s.ComposesAtTop → ∃ e, g.Expands s e ∧ e.Bounded g.options.limit.val [] ∧
      g.generate s = .done e.json e.notices) ∧
    (∀ name, (g.definitionExample name).result.isSome) ∧
    ∀ name target, g.definitions.get? name = some target → target.authored = none →
      g.options.generates = true →
      ∃ inner, g.Expands target inner ∧
        (Expansion.entered name inner).Bounded g.options.limit.val [] ∧
        g.definitionExample name = .done (some inner.json) inner.notices :=
  ⟨fun _ => defs.reads_generate hlimit, defs.isSome_definitionExample hlimit,
    fun _ _ => defs.reads_definitionExample hlimit⟩

/-- One definition, which holds itself in a property. -/
def selfReferring : Generator where
  definitions := Definitions.empty.insert "Node"
    { properties := some [("next", { reference := some "Node" })] }
  options := { generates := true, limit := { val := 1 } }

theorem examples_bounded_selfReferring :
    (selfReferring.options.limit.val ≤ 254 ∧ selfReferring.ComposesAtTop ∧
      Schema.ComposesAtTop { reference := some "Node" }) ∧
    (∃ e, selfReferring.Expands { reference := some "Node" } e ∧ e.Bounded 1 [] ∧
      selfReferring.generate { reference := some "Node" } = .done e.json e.notices) ∧
    (selfReferring.definitionExample "Node").result = some (some (.obj [("next", sentinel)])) ∧
    ∃ inner, (Expansion.entered "Node" inner).Bounded 1 [] ∧
      selfReferring.definitionExample "Node" = .done (some inner.json) inner.notices := by
  have hdefinitions : ∀ name ∈ selfReferring.definitions.names,
      ∀ t, selfReferring.definitions.get? name = some t → t.NeverComposes := by decide
  have defs : selfReferring.ComposesAtTop := fun name t get =>
    (hdefinitions name (Definitions.mem_names_of_get? get) t get).composesAtTop
  have hlimit : selfReferring.options.limit.val ≤ 254 := by decide
  have hs : Schema.ComposesAtTop { reference := some "Node" } :=
    Schema.NeverComposes.composesAtTop (by decide)
  obtain ⟨hgenerate, _, hdefinition⟩ := examples_bounded hlimit defs
  obtain ⟨inner, _, hbounded, hdone⟩ := hdefinition "Node" _ rfl rfl rfl
  exact ⟨⟨hlimit, defs, hs⟩, hgenerate _ hs, rfl, inner, hbounded, hdone⟩

end Generator

end OpenApiDoc.Example
