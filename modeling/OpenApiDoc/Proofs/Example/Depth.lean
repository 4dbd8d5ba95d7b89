import Mathlib.Data.Set.Card
import OpenApiDoc.Proofs.Example.Calls
import OpenApiDoc.Proofs.Example.Visits

/-!
# The depth suffices

Making an example may go on for ever, and `Generator.Ends` says when it does not. More depth
never changes a finished example, and the depth that `Generator.depth` gives is enough for every
example that comes to an end: between two visits that change a count no schema repeats, since it
would repeat for ever, and there are only so many schemas and so many visits.
-/

namespace OpenApiDoc.Example.Generator

variable {g : Generator} {visits visits' : Visits} {s s' : Schema}

/-! ### Examples that come to an end -/

/-- Making the example of a schema that is reached after some visits comes to an end. -/
inductive Ends (g : Generator) : Visits → Schema → Prop where
  | intro {visits : Visits} {s : Schema}
      (h : ∀ visits' s', g.Calls visits s visits' s' → g.Ends visits' s') : g.Ends visits s

/-- A finished example came to an end. -/
theorem ends_of_isSome {depth : Nat} (h : (g.exampleWithin depth visits s).result.isSome) :
    g.Ends visits s := by
  induction depth generalizing visits s with
  | zero => cases h
  | succ depth ih => exact .intro fun visits' s' call => ih (isSome_step.1 h visits' s' call)

/-- More depth does not change a finished example. -/
theorem exampleWithin_mono {depth more : Nat}
    (h : (g.exampleWithin depth visits s).result.isSome) (hle : depth ≤ more) :
    g.exampleWithin more visits s = g.exampleWithin depth visits s := by
  induction depth generalizing more visits s with
  | zero => cases h
  | succ depth ih =>
    obtain ⟨more, rfl⟩ : ∃ k, more = k + 1 := ⟨more - 1, by omega⟩
    refine step_congr_of_calls fun visits' s' call => ?_
    exact ih (isSome_step.1 h visits' s' call) (by omega)

/-! ### The schemas at hand -/

/-- Everything in the definitions and in some further schemas. -/
def known (g : Generator) (roots : List Schema) : List Schema :=
  (Entries.values g.definitions.entries ++ roots).flatMap Schema.subschemas

lemma length_known (g : Generator) (roots : List Schema) :
    (g.known roots).length =
      Schema.countEntries g.definitions.entries + Schema.countList roots := by
  rw [known, Schema.length_flatMap_subschemas fun s _ => s.length_subschemas,
    Schema.countList_append, Schema.countEntries_eq_countList]

lemma mem_known_of_root {roots : List Schema} (hs : s ∈ roots) : s ∈ g.known roots :=
  List.mem_flatMap.2 ⟨s, List.mem_append_right _ hs, s.self_mem_subschemas⟩

lemma mem_known_of_get? {roots : List Schema} {name : String}
    (get : g.definitions.get? name = some s) : s ∈ g.known roots := by
  have hmem : s ∈ Entries.values g.definitions.entries :=
    List.mem_map_of_mem (Entries.mem_of_get? get)
  exact List.mem_flatMap.2 ⟨s, List.mem_append_left _ hmem, s.self_mem_subschemas⟩

lemma mem_known_of_mem_subschemas {roots : List Schema} (hs : s ∈ g.known roots)
    (hs' : s' ∈ s.subschemas) : s' ∈ g.known roots := by
  obtain ⟨root, hroot, hs⟩ := List.mem_flatMap.1 hs
  exact List.mem_flatMap.2 ⟨root, hroot, Schema.mem_subschemas_trans hs' hs⟩

lemma Calls.mem_known {roots : List Schema} (call : g.Calls visits s visits' s')
    (hs : s ∈ g.known roots) : s' ∈ g.known roots := by
  rcases call.leads with ⟨hmem, -⟩ | ⟨name, t, -, get, hmem⟩
  · exact mem_known_of_mem_subschemas hs hmem
  · exact mem_known_of_mem_subschemas (mem_known_of_get? get) hmem

/-! ### Between two visits -/

/-- The schemas that are asked for, directly or not, before a visit changes a count. -/
def below (g : Generator) (visits : Visits) (s : Schema) : Set Schema :=
  {t | Relation.ReflTransGen (fun a b => g.Calls visits a visits b) s t}

lemma below_subset {roots : List Schema} (hs : s ∈ g.known roots) :
    g.below visits s ⊆ {t | t ∈ g.known roots} := by
  intro t ht
  induction ht with
  | refl => exact hs
  | tail _ call ih => exact call.mem_known ih

lemma finite_below {roots : List Schema} (hs : s ∈ g.known roots) :
    (g.below visits s).Finite :=
  (List.finite_toSet (g.known roots)).subset (below_subset hs)

lemma ncard_below_le {roots : List Schema} (hs : s ∈ g.known roots) :
    (g.below visits s).ncard ≤ (g.known roots).length := by
  classical
  calc (g.below visits s).ncard
      ≤ {t | t ∈ g.known roots}.ncard :=
        Set.ncard_le_ncard (below_subset hs) (List.finite_toSet _)
    _ = (g.known roots).toFinset.card := by
        rw [← Set.ncard_coe_finset]
        simp
    _ ≤ (g.known roots).length := List.toFinset_card_le _

lemma ncard_below_pos {roots : List Schema} (hs : s ∈ g.known roots) :
    0 < (g.below visits s).ncard :=
  (Set.ncard_pos (finite_below hs)).2 ⟨s, .refl⟩

/-- An example that comes to an end does not ask for itself. -/
lemma Ends.not_transGen (h : g.Ends visits s) :
    ¬ Relation.TransGen (fun a b => g.Calls visits a visits b) s s := by
  induction h with
  | @intro visits s _ ih =>
    intro hcycle
    obtain ⟨t, call, hback⟩ := Relation.TransGen.head'_iff.1 hcycle
    exact ih visits t call (.tail' hback call)

lemma Ends.ncard_below_lt {roots : List Schema} (h : g.Ends visits s) (hs : s ∈ g.known roots)
    (call : g.Calls visits s visits s') :
    (g.below visits s').ncard < (g.below visits s).ncard := by
  refine Set.ncard_lt_ncard ⟨fun t ht => .head call ht, fun hsub => ?_⟩ (finite_below hs)
  exact h.not_transGen (.head' call (hsub .refl))

/-! ### Enough depth -/

/-- A depth that is enough for a schema: so many schemas for each visit that remains, and those
that are asked for before the next visit. -/
noncomputable def enough (g : Generator) (roots : List Schema) (visits : Visits)
    (s : Schema) : Nat :=
  visits.remaining g.options.limit g.definitions.names * (g.known roots).length
    + (g.below visits s).ncard

lemma Ends.enough_lt {roots : List Schema} (h : g.Ends visits s) (hs : s ∈ g.known roots)
    (hv : visits.Within g.options.limit) (call : g.Calls visits s visits' s') :
    g.enough roots visits' s' < g.enough roots visits s := by
  have same : visits' = visits → g.enough roots visits' s' < g.enough roots visits s := by
    rintro rfl
    exact Nat.add_lt_add_left (h.ncard_below_lt hs call) _
  cases call with
  | holds _ => exact same rfl
  | entered follows get generated enter =>
    rcases Visits.eq_or_remaining_lt_of_enter hv enter (Definitions.mem_names_of_get? get)
      with heq | hlt
    · exact same heq
    · have hs' : s' ∈ g.known roots := mem_known_of_get? get
      have hle : (g.below visits' s').ncard ≤ (g.known roots).length := ncard_below_le hs'
      have hpos : 0 < (g.below visits s).ncard := ncard_below_pos hs
      have hmul := Nat.mul_le_mul_right (g.known roots).length hlt
      rw [Nat.succ_mul] at hmul
      unfold enough
      omega

theorem Ends.isSome_exampleWithin {roots : List Schema} (h : g.Ends visits s)
    (hs : s ∈ g.known roots) (hv : visits.Within g.options.limit) :
    (g.exampleWithin (g.enough roots visits s) visits s).result.isSome := by
  -- the induction is on what ends; `enough` goes down with every call
  induction h with
  | @intro visits s hcalls ih =>
    have hend : g.Ends visits s := .intro hcalls
    obtain ⟨depth, hdepth⟩ : ∃ depth, g.enough roots visits s = depth + 1 := by
      have hpos : 0 < (g.below visits s).ncard := ncard_below_pos hs
      refine ⟨g.enough roots visits s - 1, ?_⟩
      unfold enough
      omega
    rw [hdepth]
    refine isSome_step.2 fun visits' s' call => ?_
    have hv' : visits'.Within g.options.limit := by
      cases call with
      | holds _ => exact hv
      | entered _ _ _ enter => exact hv.enter enter
    have hfinished := ih visits' s' call (call.mem_known hs) hv'
    have hlt := hend.enough_lt hs hv call
    rwa [exampleWithin_mono hfinished (by omega)]

lemma enough_le_depth {roots : List Schema} {schemas : Nat}
    (hroots : Schema.countList roots ≤ schemas) (hs : s ∈ g.known roots) :
    g.enough roots visits s ≤ g.depth schemas := by
  have hbelow : (g.below visits s).ncard ≤ (g.known roots).length := ncard_below_le hs
  have hremaining := visits.remaining_le g.options.limit g.definitions.names
  have hlength := length_known g roots
  have hsize : g.definitions.names.length = g.definitions.size := by
    simp [Definitions.names, Definitions.size, Entries.keys]
  rw [hsize] at hremaining
  calc g.enough roots visits s
      ≤ g.options.limit.val * g.definitions.size * (g.known roots).length
          + (g.known roots).length :=
        Nat.add_le_add (Nat.mul_le_mul_right _ hremaining) hbelow
    _ = (g.options.limit.val * g.definitions.size + 1) * (g.known roots).length := by
        rw [Nat.succ_mul]
    _ ≤ g.depth schemas := Nat.mul_le_mul_left _ (by omega)

/-- The depth that is given is enough for every example that comes to an end. -/
theorem Ends.isSome_of_depth {roots : List Schema} {schemas : Nat} (h : g.Ends visits s)
    (hroots : Schema.countList roots ≤ schemas) (hs : s ∈ g.known roots)
    (hv : visits.Within g.options.limit) :
    (g.exampleWithin (g.depth schemas) visits s).result.isSome := by
  have hfinished := h.isSome_exampleWithin hs hv
  rwa [exampleWithin_mono hfinished (enough_le_depth hroots hs)]

/-- The depth of an object type is enough for its properties. -/
lemma Ends.isSome_of_property {shape : ObjectType} {p : String × Schema} (h : g.Ends {} p.2)
    (hp : p ∈ shape.properties) :
    (g.exampleWithin (g.depth (schemasIn (.object shape))) {} p.2).result.isSome := by
  have hroots :
      Schema.countList (Entries.values shape.properties) ≤ schemasIn (.object shape) := by
    rw [schemasIn, Schema.countEntries_eq_countList]
  have hmem : p.2 ∈ g.known (Entries.values shape.properties) :=
    mem_known_of_root (List.mem_map_of_mem hp)
  exact h.isSome_of_depth hroots hmem (Visits.within_empty _)

/-- The example of a schema is generated exactly if making it comes to an end. -/
theorem isSome_generate_iff : (g.generate s).result.isSome ↔ g.Ends {} s := by
  refine ⟨ends_of_isSome, fun h => ?_⟩
  have hs : s ∈ g.known [s] := mem_known_of_root List.mem_cons_self
  refine h.isSome_of_depth ?_ hs (Visits.within_empty _)
  simp [Schema.countList]

/-- Any depth that finishes an example gives the generated one. -/
theorem generate_eq {depth : Nat} (h : (g.exampleWithin depth {} s).result.isSome) :
    g.generate s = g.exampleWithin depth {} s := by
  have hgenerate : (g.generate s).result.isSome := isSome_generate_iff.2 (ends_of_isSome h)
  rcases Nat.le_total depth (g.depth s.count) with hle | hle
  · exact exampleWithin_mono h hle
  · exact (exampleWithin_mono hgenerate hle).symm

end OpenApiDoc.Example.Generator
