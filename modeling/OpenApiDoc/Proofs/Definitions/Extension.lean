import Mathlib.Data.Set.Insert
import Mathlib.Logic.Relation
import OpenApiDoc.Proofs.Definitions.Required

/-!
# What a schema requires

A schema *extends* what its `allOf` branches stand for: the branch itself, or the definition that
the branch refers to. It requires what it lists, and what everything lists that it extends,
directly or indirectly (`Definitions.mem_requiredProperties`).

The walk visits each definition once, in whichever list of branches it comes up first. No name is
lost: what was visited has been looked at, or is still pending (`Definitions.Searched`).

The walk keeps a list of pending branches. `Definitions.searchWithin` calls itself for each
branch instead, and all calls share the names visited so far; it ends, with the same names in the
same order (`Definitions.exists_run_searchBranches`).
-/

namespace OpenApiDoc.Definitions

variable {d : Definitions} {s t branch : Schema} {name : String}
  {names required visited before : List String} {pending rest : List Schema}

/-! ### Adding names -/

lemma addNames_cons (names : List String) (name : String) (added : List String) :
    addNames names (name :: added) =
      addNames (if names.contains name then names else names ++ [name]) added := rfl

lemma mem_addNames {added : List String} :
    name ∈ addNames names added ↔ name ∈ names ∨ name ∈ added := by
  induction added generalizing names with
  | nil => simp [addNames]
  | cons first added ih =>
    rw [addNames_cons, ih]
    split
    · next hmem =>
      rw [List.contains_iff_mem] at hmem
      grind
    · grind

/-- Names that are added to names that were added are names added. -/
lemma addNames_addNames (before names added : List String) :
    addNames before (addNames names added) = addNames (addNames before names) added := by
  induction added generalizing names with
  | nil => rfl
  | cons name added ih =>
    rw [addNames_cons, addNames_cons, ih]
    congr 1
    split
    · next hmem =>
      rw [List.contains_iff_mem] at hmem
      rw [if_pos (List.contains_iff_mem.2 (mem_addNames.2 (.inr hmem)))]
    · simp [addNames, List.foldl_append]

/-- A list of names goes on with distinct names that are not in it. -/
def GrowsTo (names result : List String) : Prop :=
  ∃ added, result = names ++ added ∧ added.Nodup ∧ names.Disjoint added

lemma GrowsTo.refl (names : List String) : GrowsTo names names :=
  ⟨[], (List.append_nil names).symm, List.nodup_nil, List.disjoint_nil_right names⟩

lemma GrowsTo.trans {result : List String} (h : GrowsTo before names)
    (h' : GrowsTo names result) : GrowsTo before result := by
  obtain ⟨added, rfl, hnodup, hdisjoint⟩ := h
  obtain ⟨added', rfl, hnodup', hdisjoint'⟩ := h'
  obtain ⟨hbefore, hadded⟩ := List.disjoint_append_left.1 hdisjoint'
  exact ⟨added ++ added', List.append_assoc _ _ _, hnodup.append hnodup' hadded,
    List.disjoint_append_right.2 ⟨hdisjoint, hbefore⟩⟩

lemma growsTo_addNames (names added : List String) : GrowsTo names (addNames names added) := by
  induction added generalizing names with
  | nil => exact .refl names
  | cons name added ih =>
    rw [addNames_cons]
    refine GrowsTo.trans ?_ (ih _)
    split
    · exact .refl names
    · next hmem =>
      rw [List.contains_iff_mem] at hmem
      exact ⟨[name], rfl, List.nodup_singleton name, List.disjoint_singleton.2 hmem⟩

/-- The walk leaves the names that it has collected as they are and goes on with new ones. -/
lemma growsTo_collectRequired (d : Definitions) (required visited : List String)
    (pending : List Schema) : GrowsTo required (d.collectRequired required visited pending) := by
  fun_induction d.collectRequired required visited pending with
  | case1 required visited => exact .refl required
  | case2 required visited branch rest refers ih => exact (growsTo_addNames _ _).trans ih
  | case3 required visited branch rest reference refers name hvisited ih => exact ih
  | case4 required visited branch rest reference refers name hvisited get ih => exact ih
  | case5 required visited branch rest reference refers name hvisited target get ih =>
    exact (growsTo_addNames _ _).trans ih

/-! ### Extension -/

/-- What a branch stands for: the definition that it refers to, if there is one, or itself. -/
def branchTarget? (d : Definitions) (branch : Schema) : Option Schema :=
  match branch.reference with
  | none => some branch
  | some reference => d.lookup? reference

/-- One schema extends another if a branch of the one stands for the other. -/
def Extends (d : Definitions) (s t : Schema) : Prop :=
  ∃ branch ∈ s.branchList, d.branchTarget? branch = some t

/-- A name is required by what a branch stands for, or by something that this extends. -/
def Contributes (d : Definitions) (branch : Schema) (name : String) : Prop :=
  ∃ t, d.branchTarget? branch = some t ∧
    ∃ u, Relation.ReflTransGen d.Extends t u ∧ name ∈ u.required

lemma branchTarget?_of_inline (refers : branch.reference = none) :
    d.branchTarget? branch = some branch := by
  simp [branchTarget?, refers]

lemma branchTarget?_of_reference {reference : String}
    (refers : branch.reference = some reference) :
    d.branchTarget? branch = d.get? (d.referenceName reference) := by
  simp [branchTarget?, refers, lookup?]

lemma exists_extends_iff :
    (∃ u, Relation.ReflTransGen d.Extends s u ∧ name ∈ u.required) ↔
      name ∈ s.required ∨ ∃ branch ∈ s.branchList, d.Contributes branch name := by
  constructor
  · rintro ⟨u, hu, hname⟩
    rcases hu.cases_head with rfl | ⟨t, ⟨branch, hbranch, htarget⟩, hu⟩
    · exact .inl hname
    · exact .inr ⟨branch, hbranch, t, htarget, u, hu, hname⟩
  · rintro (hname | ⟨branch, hbranch, t, htarget, u, hu, hname⟩)
    · exact ⟨s, .refl, hname⟩
    · exact ⟨u, .head ⟨branch, hbranch, htarget⟩ hu, hname⟩

lemma contributes_iff (target : d.branchTarget? branch = some t) :
    d.Contributes branch name ↔
      name ∈ t.required ∨ ∃ branch' ∈ t.branchList, d.Contributes branch' name := by
  rw [← exists_extends_iff, Contributes, target]
  simp

/-! ### The walk finds nothing else -/

/-- Where the walk enters what a branch stands for, it has no more to find than before. -/
lemma contributes_of_entered (target : d.branchTarget? branch = some t)
    (h : name ∈ addNames required t.required ∨
      ∃ branch' ∈ t.branchList ++ rest, d.Contributes branch' name) :
    name ∈ required ∨ ∃ branch' ∈ branch :: rest, d.Contributes branch' name := by
  simp only [mem_addNames, List.mem_append, List.mem_cons, or_and_right, exists_or,
    exists_eq_left, contributes_iff target, or_assoc] at h ⊢
  exact h

lemma contributes_of_mem_collectRequired
    (h : name ∈ d.collectRequired required visited pending) :
    name ∈ required ∨ ∃ branch ∈ pending, d.Contributes branch name := by
  fun_induction d.collectRequired required visited pending with
  | case1 required visited => exact .inl h
  | case2 required visited branch rest refers ih =>
    exact contributes_of_entered (branchTarget?_of_inline refers) (ih h)
  | case3 required visited branch rest reference refers key hvisited ih =>
    exact (ih h).imp_right List.exists_mem_cons_of_exists
  | case4 required visited branch rest reference refers key hvisited get ih =>
    exact (ih h).imp_right List.exists_mem_cons_of_exists
  | case5 required visited branch rest reference refers key hvisited target get ih =>
    exact contributes_of_entered ((branchTarget?_of_reference refers).trans get) (ih h)

/-! ### The walk loses nothing -/

/-- The schemas that were entered: what they list has been collected, what was visited is among
them, and so is what their branches stand for, unless the branch is pending. -/
structure Searched (d : Definitions) (entered : Set Schema) (required visited : List String)
    (pending : List Schema) : Prop where
  required : ∀ t ∈ entered, t.required ⊆ required
  visited : ∀ name ∈ visited, ∀ t, d.get? name = some t → t ∈ entered
  branches : ∀ t ∈ entered, ∀ branch ∈ t.branchList,
    branch ∈ pending ∨ ∀ u, d.branchTarget? branch = some u → u ∈ entered

variable {entered : Set Schema}

/-- A branch that stands for nothing new may be passed over. -/
lemma Searched.skip (h : d.Searched entered required visited (branch :: rest))
    (hbranch : ∀ u, d.branchTarget? branch = some u → u ∈ entered) :
    d.Searched entered required visited rest where
  required := h.required
  visited := h.visited
  branches := by
    intro t ht b hb
    rcases h.branches t ht b hb with hpending | hentered
    · rcases List.mem_cons.1 hpending with rfl | hrest
      · exact .inr hbranch
      · exact .inl hrest
    · exact .inr hentered

/-- Entering what a branch stands for leaves its branches pending. -/
lemma Searched.enter {visited' : List String}
    (h : d.Searched entered required visited (branch :: rest))
    (target : d.branchTarget? branch = some t)
    (hvisited : ∀ name ∈ visited', name ∈ visited ∨ d.get? name = some t) :
    d.Searched ({t} ∪ entered) (addNames required t.required) visited'
      (t.branchList ++ rest) where
  required := by
    rintro u (rfl | hu) name hname
    · exact mem_addNames.2 (.inr hname)
    · exact mem_addNames.2 (.inl (h.required u hu hname))
  visited := by
    intro name hname u hget
    rcases hvisited name hname with hname | hname
    · exact .inr (h.visited name hname u hget)
    · exact .inl (Option.some.inj (hget.symm.trans hname))
  branches := by
    rintro u (rfl | hu) b hb
    · exact .inl (List.mem_append_left rest hb)
    · rcases h.branches u hu b hb with hpending | hentered
      · rcases List.mem_cons.1 hpending with rfl | hrest
        · exact .inr fun u hu => .inl (Option.some.inj (hu.symm.trans target))
        · exact .inl (List.mem_append_right _ hrest)
      · exact .inr fun u hu => .inr (hentered u hu)

/-- At its end the walk has entered all that it set out for, and nothing is pending. -/
lemma exists_searched {start : Set Schema}
    (h : ∃ entered, start ⊆ entered ∧ d.Searched entered required visited pending) :
    ∃ entered visited', start ⊆ entered ∧
      d.Searched entered (d.collectRequired required visited pending) visited' [] := by
  fun_induction d.collectRequired required visited pending with
  | case1 required visited =>
    obtain ⟨entered, hstart, h⟩ := h
    exact ⟨entered, visited, hstart, h⟩
  | case2 required visited branch rest refers ih =>
    obtain ⟨entered, hstart, h⟩ := h
    have hentered := h.enter (branchTarget?_of_inline refers) fun _ => .inl
    exact ih ⟨_, hstart.trans Set.subset_union_right, hentered⟩
  | case3 required visited branch rest reference refers key hvisited ih =>
    obtain ⟨entered, hstart, h⟩ := h
    refine ih ⟨entered, hstart, h.skip fun u hu => ?_⟩
    rw [branchTarget?_of_reference refers] at hu
    exact h.visited key hvisited u hu
  | case4 required visited branch rest reference refers key hvisited get ih =>
    obtain ⟨entered, hstart, h⟩ := h
    refine ih ⟨entered, hstart, h.skip fun u hu => ?_⟩
    rw [branchTarget?_of_reference refers] at hu
    cases hu.symm.trans get
  | case5 required visited branch rest reference refers key hvisited target get ih =>
    obtain ⟨entered, hstart, h⟩ := h
    have hentered := h.enter ((branchTarget?_of_reference refers).trans get) fun name hname =>
      (List.mem_cons.1 hname).symm.imp_right (by rintro rfl; exact get)
    exact ih ⟨_, hstart.trans Set.subset_union_right, hentered⟩

/-- Where nothing is pending, what an entered schema extends was entered. -/
lemma Searched.closed (h : d.Searched entered required visited []) (hs : s ∈ entered)
    (hst : Relation.ReflTransGen d.Extends s t) : t ∈ entered := by
  induction hst with
  | refl => exact hs
  | tail _ hstep ih =>
    obtain ⟨branch, hbranch, htarget⟩ := hstep
    exact (h.branches _ ih branch hbranch).resolve_left List.not_mem_nil _ htarget

/-- A schema requires what is listed by it and by what it extends. -/
theorem mem_requiredProperties :
    name ∈ d.requiredProperties s ↔
      ∃ t, Relation.ReflTransGen d.Extends s t ∧ name ∈ t.required := by
  constructor
  · intro h
    exact exists_extends_iff.2 (contributes_of_mem_collectRequired h)
  · rintro ⟨t, hst, hname⟩
    have hstart : d.Searched {s} s.required [] s.branchList := by
      refine ⟨?_, by simp, ?_⟩
      · rintro t rfl
        exact List.Subset.refl _
      · rintro t rfl b hb
        exact .inl hb
    obtain ⟨entered, visited', hs, hentered⟩ := exists_searched ⟨{s}, subset_rfl, hstart⟩
    exact hentered.required t (hentered.closed (hs rfl) hst) hname

/-! ### The walk as a search that calls itself -/

/-- A part of a search, with the names visited so far, which all calls share; none where the
depth did not suffice. -/
abbrev Search (α : Type) := StateT (List String) Option α

/-- Enter what a branch stands for; a definition is entered once. -/
def enter (d : Definitions) (branch : Schema) : Search (Option Schema) :=
  match branch.reference with
  | none => pure (some branch)
  | some reference => do
    let visited ← get
    if d.referenceName reference ∈ visited then pure none
    else do
      set (d.referenceName reference :: visited)
      pure (d.lookup? reference)

/-- Extend a list by what branches contribute, given a way to search a schema. -/
def searchBranches (d : Definitions) (recur : Schema → Search (List String)) :
    List String → List Schema → Search (List String)
  | required, [] => pure required
  | required, branch :: rest => do
    match ← d.enter branch with
    | none => d.searchBranches recur required rest
    | some target => do
      let names ← recur target
      d.searchBranches recur (addNames required names) rest

/-- The required list of a schema, extended by those of its branches, up to a depth of calls. -/
def searchWithin (d : Definitions) : Nat → Schema → Search (List String)
  | 0 => fun _ => failure
  | depth + 1 => fun s => d.searchBranches (d.searchWithin depth) s.required s.branchList

variable {recur : Schema → Search (List String)} {visited' visited'' : List String}

lemma run_searchBranches_of_skipped (h : (d.enter branch).run visited = some (none, visited')) :
    (d.searchBranches recur required (branch :: rest)).run visited =
      (d.searchBranches recur required rest).run visited' := by
  rw [searchBranches, StateT.run_bind, h]
  rfl

lemma run_searchBranches_of_entered (h : (d.enter branch).run visited = some (some t, visited'))
    (hrun : (recur t).run visited' = some (names, visited'')) :
    (d.searchBranches recur required (branch :: rest)).run visited =
      (d.searchBranches recur (addNames required names) rest).run visited'' := by
  rw [searchBranches, StateT.run_bind, h]
  simp [hrun]

lemma collectRequired_addNames (before required visited : List String) (pending : List Schema) :
    d.collectRequired (addNames before required) visited pending =
      addNames before (d.collectRequired required visited pending) := by
  fun_induction d.collectRequired required visited pending with
  | case1 required visited => rw [collectRequired_nil]
  | case2 required visited branch rest refers ih =>
    rw [collectRequired_of_inline refers, ← addNames_addNames, ih]
  | case3 required visited branch rest reference refers name hvisited ih =>
    rw [collectRequired_of_visited refers hvisited, ih]
  | case4 required visited branch rest reference refers name hvisited get ih =>
    rw [collectRequired_of_missing refers get, ih]
  | case5 required visited branch rest reference refers name hvisited target get ih =>
    rw [collectRequired_of_found refers hvisited get, ← addNames_addNames, ih]

/-- Visited names without a definition make no difference. -/
lemma collectRequired_filter (required visited : List String) (pending : List Schema) :
    d.collectRequired required (visited.filter d.contains) pending =
      d.collectRequired required visited pending := by
  fun_induction d.collectRequired required visited pending with
  | case1 required visited => rw [collectRequired_nil]
  | case2 required visited branch rest refers ih => rw [collectRequired_of_inline refers, ih]
  | case3 required visited branch rest reference refers name hvisited ih =>
    rw [← ih]
    by_cases hdefined : d.contains name = true
    · exact collectRequired_of_visited refers (List.mem_filter.2 ⟨hvisited, hdefined⟩)
    · exact collectRequired_of_missing refers (by simpa [contains] using hdefined)
  | case4 required visited branch rest reference refers name hvisited get ih =>
    rw [collectRequired_of_missing refers get, ih]
  | case5 required visited branch rest reference refers name hvisited target get ih =>
    have hdefined : d.contains name = true := by simp [contains, get]
    have hnot : name ∉ visited.filter d.contains := fun h => hvisited (List.mem_filter.1 h).1
    rw [collectRequired_of_found refers hnot get, ← ih, List.filter_cons_of_pos hdefined]

lemma collectRequired_cons_of_missing (get : d.get? name = none) (required : List String)
    (pending : List Schema) :
    d.collectRequired required (name :: visited) pending =
      d.collectRequired required visited pending := by
  have hundefined : ¬ d.contains name = true := by simp [contains, get]
  rw [← collectRequired_filter, List.filter_cons_of_neg hundefined, collectRequired_filter]

/-- The more is visited, the less is left. -/
lemma unvisited_le (h : visited ⊆ visited') : d.unvisited visited' ≤ d.unvisited visited := by
  refine List.countP_mono_left fun name _ hname => ?_
  simp only [Bool.not_eq_true', ← Bool.not_eq_true, List.contains_iff_mem] at hname ⊢
  exact fun hmem => hname (h hmem)

/-- What the search does at a branch, the walk does too: either both pass on to the next branch,
or they enter the same schema, with fewer definitions or fewer schemas left. -/
lemma run_enter (d : Definitions) (branch : Schema) (visited : List String) :
    (∃ visited', (d.enter branch).run visited = some (none, visited') ∧ visited ⊆ visited' ∧
      ∀ required rest, d.collectRequired required visited (branch :: rest) =
        d.collectRequired required visited' rest) ∨
    ∃ t visited', (d.enter branch).run visited = some (some t, visited') ∧ visited ⊆ visited' ∧
      (d.unvisited visited' < d.unvisited visited ∨ t = branch) ∧
      ∀ required rest, d.collectRequired required visited (branch :: rest) =
        d.collectRequired (addNames required t.required) visited' (t.branchList ++ rest) := by
  rcases refers : branch.reference with _ | reference
  · refine .inr ⟨branch, visited, ?_, List.Subset.refl _, .inr rfl, fun required rest => ?_⟩
    · simp [enter, refers]
    · exact collectRequired_of_inline refers
  have hsub : visited ⊆ d.referenceName reference :: visited := List.subset_cons_self _ _
  by_cases hvisited : d.referenceName reference ∈ visited
  · refine .inl ⟨visited, ?_, List.Subset.refl _, fun required rest => ?_⟩
    · simp [enter, refers, hvisited]
    · exact collectRequired_of_visited refers hvisited
  rcases get : d.get? (d.referenceName reference) with _ | t
  · refine .inl ⟨_, ?_, hsub, fun required rest => ?_⟩
    · simp [enter, refers, hvisited, lookup?, get]
    · rw [collectRequired_of_missing refers get, collectRequired_cons_of_missing get]
  · refine .inr ⟨t, _, ?_, hsub, .inl (unvisited_cons_lt get hvisited), fun required rest => ?_⟩
    · simp [enter, refers, hvisited, lookup?, get]
    · exact collectRequired_of_found refers hvisited get

/-- From some depth on the search of branches ends, and the walk goes on from where it ends. -/
theorem exists_run_searchBranches (d : Definitions) (required visited : List String)
    (pending : List Schema) :
    ∃ depth names visited',
      (∀ more ≥ depth, (d.searchBranches (d.searchWithin more) required pending).run visited =
        some (names, visited')) ∧
      visited ⊆ visited' ∧
      ∀ rest, d.collectRequired required visited (pending ++ rest) =
        d.collectRequired names visited' rest := by
  match pending with
  | [] => exact ⟨0, required, visited, fun _ _ => rfl, List.Subset.refl _, fun _ => rfl⟩
  | branch :: pending =>
    rcases d.run_enter branch visited with
      ⟨visited₁, hrun, hsub, hwalk⟩ | ⟨t, visited₁, hrun, hsub, hless, hwalk⟩
    · obtain ⟨depth, names, visited₂, hpending, hsub', hwalk'⟩ :=
        exists_run_searchBranches d required visited₁ pending
      refine ⟨depth, names, visited₂, fun more hmore => ?_, List.Subset.trans hsub hsub',
        fun rest => ?_⟩
      · rw [run_searchBranches_of_skipped hrun, hpending more hmore]
      · rw [List.cons_append, hwalk, hwalk']
    · obtain ⟨depth, names, visited₂, htarget, hsub', hwalk'⟩ :=
        exists_run_searchBranches d t.required visited₁ t.branchList
      obtain ⟨depth', names', visited₃, hpending, hsub'', hwalk''⟩ :=
        exists_run_searchBranches d (addNames required names) visited₂ pending
      refine ⟨max (depth + 1) depth', names', visited₃, fun more hmore => ?_,
        List.Subset.trans hsub (List.Subset.trans hsub' hsub''), fun rest => ?_⟩
      · obtain ⟨k, rfl⟩ : ∃ k, more = k + 1 := ⟨more - 1, by omega⟩
        rw [run_searchBranches_of_entered hrun (htarget k (by omega)), hpending _ (by omega)]
      · rw [List.cons_append, hwalk, collectRequired_addNames, hwalk',
          ← collectRequired_addNames, hwalk'']
termination_by (d.unvisited visited, Schema.countList pending)
decreasing_by
  all_goals have hpos := Schema.count_pos branch
  · have hle := unvisited_le (d := d) hsub
    simp only [Prod.lex_def, Schema.countList]
    omega
  · have hlt := Schema.countList_branchList_lt branch
    have hle := unvisited_le (d := d) hsub
    simp only [Prod.lex_def, Schema.countList]
    rcases hless with hless | rfl <;> omega
  · have hle := unvisited_le (d := d) (List.Subset.trans hsub hsub')
    simp only [Prod.lex_def, Schema.countList]
    omega

/-- Whatever the branches of a schema refer to, the search for what it requires ends. It finds
what the schema lists, followed by further names without repetition, and these are all the names
listed by what the schema extends. -/
theorem requiredProperties_exact (d : Definitions) (s : Schema) :
    (∃ depth visited, ∀ more ≥ depth,
      (d.searchWithin more s).run [] = some (d.requiredProperties s, visited)) ∧
    (∃ added, d.requiredProperties s = s.required ++ added ∧ added.Nodup ∧
      s.required.Disjoint added) ∧
    ∀ name, name ∈ d.requiredProperties s ↔
      ∃ t, Relation.ReflTransGen d.Extends s t ∧ name ∈ t.required := by
  refine ⟨?_, growsTo_collectRequired d s.required [] s.branchList,
    fun name => mem_requiredProperties⟩
  obtain ⟨depth, names, visited, hrun, -, hwalk⟩ :=
    exists_run_searchBranches d s.required [] s.branchList
  have hnames : d.requiredProperties s = names := by
    simpa [requiredProperties] using hwalk []
  refine ⟨depth + 1, visited, fun more hmore => ?_⟩
  obtain ⟨k, rfl⟩ : ∃ k, more = k + 1 := ⟨more - 1, by omega⟩
  rw [hnames]
  exact hrun k (by omega)

end OpenApiDoc.Definitions
