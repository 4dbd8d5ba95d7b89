import OpenApiDoc.Proofs.Example.Expansion

/-!
# Paths through examples

A path goes from a schema to the ones that its example asks for, and from there on;
definitions are entered on it as the visits allow. A *way* is a path as it would be without a
limit, and the limit alone decides how far a way is a path (`Generator.path_iff`). So on a
path that ends or never ends, in an example that is finished or not, no definition is entered
more often than allowed.

A way can be cut short where it comes back to a definition, and a way that comes back can be gone
again. So a path that enters a definition twice has one beside it that enters the definition as
often as allowed.
-/

namespace OpenApiDoc.Example.Generator

variable {g : Generator} {visits visits' : Visits} {s t : Schema} {names : List String}
variable {name : String}

/-! ### Ways -/

/-- The example of a schema would ask for that of another one if there were no limit; the
definitions that are entered on the way are given in order. -/
inductive Way (g : Generator) : Schema → List String → Schema → Prop where
  | here (s : Schema) : g.Way s [] s
  | holds {s s' t : Schema} {names : List String} (h : g.Holds s s') (way : g.Way s' names t) :
      g.Way s names t
  | entered {s target t : Schema} {names : List String} {reference : String}
      (follows : Follows s reference)
      (get : g.definitions.get? (g.definitions.referenceName reference) = some target)
      (generated : target.authored = none) (way : g.Way target names t) :
      g.Way s (g.definitions.referenceName reference :: names) t

lemma Way.trans {u : Schema} {more : List String} (way : g.Way s names t)
    (way' : g.Way t more u) : g.Way s (names ++ more) u := by
  induction way with
  | here s => exact way'
  | holds h _ ih => exact .holds h (ih way')
  | entered follows get generated _ ih => exact .entered follows get generated (ih way')

/-- Where a definition is entered, a way stands at its schema. -/
lemma Way.split {before after : List String} (way : g.Way s (before ++ name :: after) t) :
    ∃ target, g.definitions.get? name = some target ∧ g.Way s (before ++ [name]) target ∧
      g.Way target after t := by
  generalize hnames : before ++ name :: after = names at way
  induction way generalizing before with
  | here s => simp at hnames
  | holds h _ ih =>
    obtain ⟨target, get, first, rest⟩ := ih hnames
    exact ⟨target, get, .holds h first, rest⟩
  | @entered s target t names reference follows get generated way ih =>
    cases before with
    | nil =>
      obtain ⟨rfl, rfl⟩ := List.cons.inj hnames
      exact ⟨target, get, .entered follows get generated (.here target), way⟩
    | cons first before =>
      obtain ⟨rfl, hrest⟩ := List.cons.inj hnames
      obtain ⟨target', get', first, rest⟩ := ih hrest
      exact ⟨target', get', .entered follows get generated first, rest⟩

/-- A way can be cut short so that no definition is entered twice, and the last one is entered
still. -/
lemma Way.exists_nodup (way : g.Way s names t) :
    ∃ short : List String, short.Nodup ∧ short.getLast? = names.getLast? ∧ g.Way s short t := by
  induction way with
  | here s => exact ⟨[], List.nodup_nil, rfl, .here s⟩
  | holds h _ ih =>
    obtain ⟨short, hnodup, hlast, hway⟩ := ih
    exact ⟨short, hnodup, hlast, .holds h hway⟩
  | @entered s target t names reference follows get generated _ ih =>
    obtain ⟨short, hnodup, hlast, hway⟩ := ih
    by_cases hmem : g.definitions.referenceName reference ∈ short
    · -- the way comes back to the definition, and all that lies between is left out
      obtain ⟨before, after, rfl⟩ := List.append_of_mem hmem
      obtain ⟨target', get', -, hrest⟩ := hway.split
      obtain rfl := Option.some.inj (get'.symm.trans get)
      refine ⟨g.definitions.referenceName reference :: after,
        hnodup.sublist (List.sublist_append_right _ _), ?_, .entered follows get generated hrest⟩
      rw [List.getLast?_append_cons] at hlast
      rw [hlast, List.getLast?_cons, ← hlast, List.getLast?_cons]
      rfl
    · refine ⟨g.definitions.referenceName reference :: short, List.nodup_cons.2 ⟨hmem, hnodup⟩,
        ?_, .entered follows get generated hway⟩
      rw [List.getLast?_cons, List.getLast?_cons, hlast]

/-- A way to a definition can be cut short so that each definition is entered at most
once, and this one is. -/
lemma Way.exists_once {before : List String} (way : g.Way s (before ++ [name]) t) :
    ∃ short : List String, (∀ n, short.count n ≤ 1) ∧ short.count name = 1 ∧
      g.Way s short t := by
  obtain ⟨short, hnodup, hlast, hway⟩ := way.exists_nodup
  rw [List.getLast?_concat] at hlast
  exact ⟨short, List.nodup_iff_count_le_one.1 hnodup,
    List.count_eq_one_of_mem hnodup (List.mem_of_getLast? hlast), hway⟩

/-- A way that enters a definition twice comes back from the schema of the
definition to itself. -/
lemma Way.exists_back (way : g.Way s names t) (twice : 2 ≤ names.count name) :
    ∃ before between target, g.Way s (before ++ [name]) target ∧
      g.Way target (between ++ [name]) target := by
  have hmem : name ∈ names := List.count_pos_iff.1 (by omega)
  obtain ⟨before, rest, rfl, hbefore⟩ := List.eq_append_cons_of_mem hmem
  rw [List.count_append, List.count_cons_self, List.count_eq_zero.2 hbefore] at twice
  have hmem' : name ∈ rest := List.count_pos_iff.1 (by omega)
  obtain ⟨between, after, rfl⟩ := List.append_of_mem hmem'
  obtain ⟨target, get, first, hrest⟩ := way.split
  obtain ⟨target', get', back, -⟩ := hrest.split
  obtain rfl := Option.some.inj (get'.symm.trans get)
  exact ⟨before, between, _, first, back⟩

/-- What a way comes back to it can come back to as often as one likes, with no
definition entered more often. -/
lemma Way.exists_count {before between : List String} (first : g.Way s (before ++ [name]) t)
    (back : g.Way t (between ++ [name]) t) (times : Nat) :
    ∃ more : List String, g.Way s more t ∧ more.count name = times + 1 ∧
      ∀ n, more.count n ≤ times + 1 := by
  induction times with
  | zero =>
    obtain ⟨more, hle, hname, hway⟩ := first.exists_once
    exact ⟨more, hway, hname, hle⟩
  | succ times ih =>
    obtain ⟨more, hway, hname, hle⟩ := ih
    obtain ⟨round, hle', hname', hback⟩ := back.exists_once
    refine ⟨more ++ round, hway.trans hback, ?_, fun n => ?_⟩
    · rw [List.count_append, hname, hname']
    · rw [List.count_append]
      exact Nat.add_le_add (hle n) (hle' n)

/-! ### Paths -/

/-- The example of a schema that is reached after some visits asks for that of another one,
directly or not; the definitions that are entered on the path are given in order. -/
inductive Path (g : Generator) : Visits → Schema → List String → Visits → Schema → Prop where
  | here (visits : Visits) (s : Schema) : g.Path visits s [] visits s
  | holds {visits visits' : Visits} {s s' t : Schema} {names : List String} (h : g.Holds s s')
      (path : g.Path visits s' names visits' t) : g.Path visits s names visits' t
  | entered {visits inner visits' : Visits} {s target t : Schema} {names : List String}
      {reference : String} (follows : Follows s reference)
      (get : g.definitions.get? (g.definitions.referenceName reference) = some target)
      (generated : target.authored = none)
      (enter : visits.enter (g.definitions.referenceName reference) g.options.limit = some inner)
      (path : g.Path inner target names visits' t) :
      g.Path visits s (g.definitions.referenceName reference :: names) visits' t

/-- A path is a way on which all definitions can be entered. -/
lemma path_iff : g.Path visits s names visits' t ↔
    g.Way s names t ∧ visits.enterAll g.options.limit names = some visits' := by
  constructor
  · intro path
    induction path with
    | here visits s => exact ⟨.here s, rfl⟩
    | holds h _ ih => exact ⟨.holds h ih.1, ih.2⟩
    | entered follows get generated enter _ ih =>
      exact ⟨.entered follows get generated ih.1, by rw [Visits.enterAll, enter]; exact ih.2⟩
  · rintro ⟨way, enter⟩
    induction way generalizing visits with
    | here s =>
      cases enter
      exact .here _ s
    | holds h _ ih => exact .holds h (ih enter)
    | entered follows get generated _ ih =>
      obtain ⟨inner, hinner, hrest⟩ := Option.bind_eq_some_iff.1 enter
      exact .entered follows get generated hinner (ih hrest)

/-- Below the limit of a byte, a way is a path just if no definition is entered more often than
allowed. -/
lemma exists_path_iff (hlimit : g.options.limit.val ≤ 254) :
    (∃ visits, g.Path {} s names visits t) ↔
      g.Way s names t ∧ ∀ n, names.count n ≤ g.options.limit.val := by
  have hallowed : (({} : Visits).enterAll g.options.limit names).isSome ↔ _ :=
    Visits.isSome_enterAll_iff hlimit (Visits.within_empty _)
  simp only [Visits.count_empty, Nat.zero_add] at hallowed
  simp only [path_iff, exists_and_left, ← Option.isSome_iff_exists, hallowed]

/-! ### The limit -/

/-- What the limit says of a schema that is reached after entering some definitions. None of them
was entered more often than allowed. A reference to a definition without an authored example
enters the definition if that was entered less often, and `...` stands for it otherwise. -/
structure Kept (g : Generator) (names : List String) (visits : Visits) (t : Schema) : Prop where
  le : ∀ n, names.count n ≤ g.options.limit.val
  entered : ∀ reference target, Follows t reference →
    g.definitions.get? (g.definitions.referenceName reference) = some target →
    target.authored = none →
    names.count (g.definitions.referenceName reference) < g.options.limit.val →
    ∃ inner, visits.enter (g.definitions.referenceName reference) g.options.limit = some inner ∧
      ∀ depth, g.exampleWithin (depth + 1) visits t = g.exampleWithin depth inner target
  refused : ∀ reference target, Follows t reference →
    g.definitions.get? (g.definitions.referenceName reference) = some target →
    target.authored = none →
    names.count (g.definitions.referenceName reference) = g.options.limit.val →
    ∀ depth, g.exampleWithin (depth + 1) visits t =
      .done sentinel [.exampleBounded (g.definitions.referenceName reference)]

theorem Path.kept (hlimit : g.options.limit.val ≤ 254) (path : g.Path {} s names visits t) :
    g.Kept names visits t := by
  have hle := ((exists_path_iff hlimit).1 ⟨visits, path⟩).2
  have hcount : ∀ n, visits.count n = names.count n := by
    intro n
    rw [Visits.count_enterAll (path_iff.1 path).2 (Visits.within_empty _), Visits.count_empty,
      Nat.zero_add]
    have := hle n
    omega
  refine ⟨hle, fun reference target follows get generated hlt => ?_,
    fun reference target follows get generated heq depth => ?_⟩
  · rw [← hcount] at hlt
    obtain ⟨inner, enter⟩ := Visits.enter_of_lt hlt
    refine ⟨inner, enter, fun depth => ?_⟩
    rw [exampleWithin, step_of_follows follows, referenceExample_of_entered get generated enter]
  · rw [← hcount] at heq
    have enter := (Visits.enter_eq_none_iff hlimit).2 (Nat.le_of_eq heq.symm)
    rw [exampleWithin, step_of_follows follows, referenceExample_of_refused get generated enter]

end OpenApiDoc.Example.Generator
