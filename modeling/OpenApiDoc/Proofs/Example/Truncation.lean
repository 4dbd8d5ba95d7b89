import OpenApiDoc.Proofs.Example.Expansion

/-!
# Examples under a smaller limit

A value *truncates* another one if it has the text `...` in place of some parts of it and is the
same everywhere else. Under a smaller limit the generator does what it does under a larger one,
on the same visits, until it refuses to enter a definition. So the example under the smaller
limit truncates the other one, and where nothing was refused the two are the same.
-/

namespace OpenApiDoc.Example

/-! ### Truncated values -/

/-- The text `...` stands in a value for some parts of another one. -/
inductive Truncates : Json → Json → Prop where
  | sentinel (w : Json) : Truncates sentinel w
  | refl (v : Json) : Truncates v v
  | array {items items' : List Json} (h : List.Forall₂ Truncates items items') :
      Truncates (.arr items) (.arr items')
  | object {entries entries' : List (String × Json)}
      (keys : Entries.keys entries = Entries.keys entries')
      (values : List.Forall₂ Truncates (Entries.values entries) (Entries.values entries')) :
      Truncates (.obj entries) (.obj entries')

/-- Entries made for the same keys truncate one another if their values do. -/
lemma truncates_entries {α : Type} {key : α → String} {value value' : α → Json} {list : List α}
    (h : ∀ a ∈ list, Truncates (value a) (value' a)) :
    Truncates (.obj (list.map fun a => (key a, value a)))
      (.obj (list.map fun a => (key a, value' a))) := by
  refine .object ?_ ?_
  · simp [Entries.keys]
  · simp only [Entries.values, List.map_map, Function.comp_def, List.forall₂_map_left_iff,
      List.forall₂_map_right_iff, List.forall₂_same]
    exact h

/-! ### Visits under two limits -/

/-- A definition that may be entered under a limit may be entered under a larger one, and the
visits are then the same. -/
lemma Visits.enter_of_le {visits inner : Visits} {name : String} {limit limit' : Limit}
    (hle : limit.val ≤ limit'.val) (h : visits.enter name limit = some inner) :
    visits.enter name limit' = some inner := by
  rw [enter] at h ⊢
  split at h
  · cases h
  · cases h
    rw [if_neg (by omega)]

/-! ### Drafts under two limits -/

/-- No definition was refused. -/
def NeverRefuses (notices : List Notice) : Prop := ∀ name, .exampleBounded name ∉ notices

/-- Two drafts are finished, the value of the one truncates that of the other, and if nothing was
refused for the one then they are the same. -/
structure Draft.Truncates (draft draft' : Draft Json) : Prop where
  values : ∃ v w, draft.result = some v ∧ draft'.result = some w ∧ Example.Truncates v w
  same : NeverRefuses draft.notices → draft = draft'

namespace Draft.Truncates

variable {draft draft' : Draft Json}

lemma refl (h : draft.result.isSome) : Draft.Truncates draft draft where
  values := by
    obtain ⟨v, hv⟩ := Option.isSome_iff_exists.1 h
    exact ⟨v, v, hv, hv, .refl v⟩
  same _ := rfl

lemma refused (name : String) (h : draft.result.isSome) :
    Draft.Truncates (.done Example.sentinel [.exampleBounded name]) draft where
  values := by
    obtain ⟨w, hw⟩ := Option.isSome_iff_exists.1 h
    exact ⟨_, w, rfl, hw, .sentinel w⟩
  same hnever := absurd List.mem_cons_self (hnever name)

lemma map {f : Json → Json} (h : Draft.Truncates draft draft')
    (hf : ∀ v w, Example.Truncates v w → Example.Truncates (f v) (f w)) :
    Draft.Truncates (f <$> draft) (f <$> draft') := by
  obtain ⟨v, w, hv, hw, truncates⟩ := h.values
  refine ⟨⟨f v, f w, ?_, ?_, hf v w truncates⟩, fun hnever => ?_⟩
  · rw [Draft.result_map, hv, Option.map_some]
  · rw [Draft.result_map, hw, Option.map_some]
  · rw [Draft.notices_map f hv] at hnever
    rw [h.same hnever]

/-- Notices made before both drafts do not matter. -/
lemma after (h : Draft.Truncates draft draft') (merging : List Notice) :
    Draft.Truncates (Draft.done () merging >>= fun _ => draft)
      (Draft.done () merging >>= fun _ => draft') := by
  obtain ⟨v, w, hv, hw, truncates⟩ := h.values
  refine ⟨⟨v, w, ?_, ?_, truncates⟩, fun hnever => ?_⟩
  · rw [Draft.result_bind, Draft.result_done, Option.bind_some, hv]
  · rw [Draft.result_bind, Draft.result_done, Option.bind_some, hw]
  · rw [Draft.notices_bind (Draft.result_done () merging)] at hnever
    rw [h.same fun name hname => hnever name (List.mem_append_right _ hname)]

end Draft.Truncates

namespace Generator

variable {g : Generator} {recur recur' : Recur} {limit limit' : Limit} {visits : Visits}
  {s : Schema}

/-- The generator under another limit. -/
def withLimit (g : Generator) (limit : Limit) : Generator :=
  { g with options := { g.options with limit } }

lemma truncates_objectExample {required : List String} {properties : List (String × Schema)}
    (h : ∀ p ∈ g.shown required properties,
      Draft.Truncates (recur visits p.2) (recur' visits p.2)) :
    Draft.Truncates ((g.withLimit limit).objectExample recur visits required properties)
      ((g.withLimit limit').objectExample recur' visits required properties) := by
  have hvalues := fun p hp => (h p hp).values
  choose! v w hv hw truncates using hvalues
  have hdone : ∀ p ∈ g.shown required properties,
      recur visits p.2 = .done (v p) (recur visits p.2).notices :=
    fun p hp => Draft.ext (hv p hp) rfl
  have hdone' : ∀ p ∈ g.shown required properties,
      recur' visits p.2 = .done (w p) (recur' visits p.2).notices :=
    fun p hp => Draft.ext (hw p hp) rfl
  have hobject := objectExample_done (g := g.withLimit limit) hdone
  have hobject' := objectExample_done (g := g.withLimit limit') hdone'
  refine ⟨⟨_, _, congrArg Draft.result hobject, congrArg Draft.result hobject',
    truncates_entries truncates⟩, fun hnever => ?_⟩
  rw [hobject, Draft.notices_done] at hnever
  have same : ∀ p ∈ g.shown required properties, recur visits p.2 = recur' visits p.2 :=
    fun p hp => (h p hp).same fun name hname =>
      hnever name (List.mem_flatMap.2 ⟨p, hp, hname⟩)
  rw [objectExample_eq, objectExample_eq]
  congr 1
  exact Draft.mapM_congr fun p hp => by rw [same p hp]

/-! ### Two runs in lockstep -/

/-- Where an example is finished under a limit, it is finished at the same depth under a smaller
one, and truncated. -/
theorem truncates_exampleWithin {depth : Nat} (hle : limit.val ≤ limit'.val)
    (finished : ((g.withLimit limit').exampleWithin depth visits s).result.isSome) :
    Draft.Truncates ((g.withLimit limit).exampleWithin depth visits s)
      ((g.withLimit limit').exampleWithin depth visits s) := by
  induction depth generalizing visits s with
  | zero => cases finished
  | succ depth ih =>
    have calls : ∀ visits' s', (g.withLimit limit').Calls visits s visits' s' →
        ((g.withLimit limit').exampleWithin depth visits' s').result.isSome :=
      isSome_step.1 finished
    rw [exampleWithin, exampleWithin]
    -- the visits are the same in both runs, so the form under the smaller limit is the other
    -- one's unless it refuses
    cases (g.withLimit limit).form visits s with
    | authored value authored =>
      rw [step_of_authored authored, step_of_authored authored]
      exact .refl rfl
    | composed branches generated allOf =>
      rw [step_of_composed generated allOf, step_of_composed generated allOf]
      refine .after (truncates_objectExample fun p hp => ?_) _
      exact ih (calls visits p.2 (.holds (.merged generated allOf hp)))
    | dangling reference follows get =>
      have get' : (g.withLimit limit').definitions.get?
        ((g.withLimit limit').definitions.referenceName reference) = none := get
      rw [step_of_follows follows, step_of_follows follows, referenceExample_of_missing get,
        referenceExample_of_missing get']
      exact .refl rfl
    | exemplified reference target value follows get authored =>
      have get' : (g.withLimit limit').definitions.get?
        ((g.withLimit limit').definitions.referenceName reference) = some target := get
      rw [step_of_follows follows, step_of_follows follows,
        referenceExample_of_authored get authored, referenceExample_of_authored get' authored]
      exact .refl rfl
    | refused reference target follows get generated enter =>
      rw [step_of_follows follows, referenceExample_of_refused get generated enter]
      exact .refused _ finished
    | entered reference target inner follows get generated enter =>
      have get' : (g.withLimit limit').definitions.get?
        ((g.withLimit limit').definitions.referenceName reference) = some target := get
      have enter' : visits.enter ((g.withLimit limit').definitions.referenceName reference)
        (g.withLimit limit').options.limit = some inner := Visits.enter_of_le hle enter
      rw [step_of_follows follows, step_of_follows follows,
        referenceExample_of_entered get generated enter,
        referenceExample_of_entered get' generated enter']
      exact ih (calls inner target (.entered follows get' generated enter'))
    | itemless bare isArray items =>
      rw [step_of_itemless bare isArray items, step_of_itemless bare isArray items]
      exact .refl rfl
    | array item bare isArray items =>
      rw [step_of_array bare isArray items, step_of_array bare isArray items]
      refine (ih (calls visits item (.holds (.item bare isArray items)))).map fun v w h => ?_
      exact .array (.cons h .nil)
    | map value bare isArray properties values =>
      rw [step_of_map bare isArray properties values, step_of_map bare isArray properties values]
      refine (ih (calls visits value (.holds (.value bare isArray properties values)))).map
        fun v w h => ?_
      exact .object rfl (.cons h .nil)
    | enumerated value bare isArray noMap first =>
      rw [step_of_enumerated bare isArray noMap first,
        step_of_enumerated bare isArray noMap first]
      exact .refl rfl
    | object properties bare isArray first hproperties =>
      rw [step_of_object bare isArray first hproperties,
        step_of_object bare isArray first hproperties]
      refine truncates_objectExample fun p hp => ?_
      exact ih (calls visits p.2 (.holds (.property bare isArray first hproperties hp)))
    | plain bare isArray first properties values =>
      rw [step_of_plain bare isArray first properties values,
        step_of_plain bare isArray first properties values]
      exact .refl rfl

/-- Where compositions stand at the top only, a schema has an example under each of two limits,
the one under the smaller limit truncates the other one, and they are the same unless a
definition was refused under the smaller limit. -/
theorem generate_truncates (defs : g.ComposesAtTop) (hs : s.ComposesAtTop)
    (hle : limit.val ≤ limit'.val) (hlimit : limit'.val ≤ 254) :
    ∃ v w, ((g.withLimit limit).generate s).result = some v ∧
      ((g.withLimit limit').generate s).result = some w ∧ Truncates v w ∧
      (NeverRefuses ((g.withLimit limit).generate s).notices →
        (g.withLimit limit).generate s = (g.withLimit limit').generate s) := by
  have defs' : (g.withLimit limit').ComposesAtTop := defs
  have hends : (g.withLimit limit').Ends {} s := defs'.ends hlimit hs (Visits.within_empty _)
  have h : Draft.Truncates _ ((g.withLimit limit').generate s) :=
    truncates_exampleWithin hle (isSome_generate_iff.2 hends)
  obtain ⟨v, w, hv, hw, truncates⟩ := h.values
  rw [generate_eq (Option.isSome_iff_exists.2 ⟨v, hv⟩)]
  exact ⟨v, w, hv, hw, truncates, h.same⟩

/-- Two definitions that hold each other in a property. -/
def pingPong : Generator where
  definitions := (Definitions.empty.insert "Ping"
      { properties := some [("pong", { reference := some "Pong" })] }).insert "Pong"
    { properties := some [("ping", { reference := some "Ping" })] }
  options := { generates := true }

theorem generate_truncates_pingPong :
    (pingPong.ComposesAtTop ∧ Schema.ComposesAtTop { reference := some "Ping" } ∧
      (1 : Nat) ≤ 2 ∧ (2 : Nat) ≤ 254) ∧
    ∃ v w,
      ((pingPong.withLimit { val := 1 }).generate { reference := some "Ping" }).result = some v ∧
      ((pingPong.withLimit { val := 2 }).generate { reference := some "Ping" }).result = some w ∧
      Truncates v w ∧ v = .obj [("pong", .obj [("ping", sentinel)])] ∧
      w = .obj [("pong", .obj [("ping", .obj [("pong", .obj [("ping", sentinel)])])])] := by
  have hdefinitions : ∀ name ∈ pingPong.definitions.names,
      ∀ t, pingPong.definitions.get? name = some t → t.NeverComposes := by decide
  have defs : pingPong.ComposesAtTop := fun name t get =>
    (hdefinitions name (Definitions.mem_names_of_get? get) t get).composesAtTop
  have hs : Schema.ComposesAtTop { reference := some "Ping" } :=
    Schema.NeverComposes.composesAtTop (by decide)
  have hle : ({ val := 1 } : Limit).val ≤ ({ val := 2 } : Limit).val := by decide
  obtain ⟨v, w, hv, hw, truncates, -⟩ := generate_truncates defs hs hle (by decide)
  refine ⟨⟨defs, hs, hle, by decide⟩, v, w, hv, hw, truncates, ?_, ?_⟩
  · exact Option.some.inj (hv.symm.trans rfl)
  · exact Option.some.inj (hw.symm.trans rfl)

end Generator

end OpenApiDoc.Example
