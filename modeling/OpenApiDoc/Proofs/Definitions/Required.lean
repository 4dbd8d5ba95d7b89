import OpenApiDoc.Definitions.Required
import OpenApiDoc.Proofs.Definitions.Reachability

/-!
# The walk over required properties

A step of the walk looks at one branch: an inline branch adds its required list, a reference adds
that of its definition unless the definition is missing or was visited. So the walk reads the
table of definitions at reachable names only.
-/

namespace OpenApiDoc.Definitions

variable {d d₁ d₂ : Definitions} {required visited : List String} {branch s : Schema}
  {rest : List Schema} {reference : String}

/-! ### Steps -/

@[simp] lemma collectRequired_nil (d : Definitions) (required visited : List String) :
    d.collectRequired required visited [] = required := by
  rw [collectRequired]

lemma collectRequired_of_inline (refers : branch.reference = none) :
    d.collectRequired required visited (branch :: rest) =
      d.collectRequired (addNames required branch.required) visited
        (branch.branchList ++ rest) := by
  rw [collectRequired.eq_def]
  simp only [refers]

lemma collectRequired_of_visited (refers : branch.reference = some reference)
    (hvisited : d.referenceName reference ∈ visited) :
    d.collectRequired required visited (branch :: rest) =
      d.collectRequired required visited rest := by
  rw [collectRequired.eq_def]
  simp only [refers]
  rw [dif_pos hvisited]

lemma collectRequired_of_missing (refers : branch.reference = some reference)
    (get : d.get? (d.referenceName reference) = none) :
    d.collectRequired required visited (branch :: rest) =
      d.collectRequired required visited rest := by
  rw [collectRequired.eq_def]
  simp only [refers]
  split
  · rfl
  · split
    · rfl
    · simp_all

lemma collectRequired_of_found {target : Schema} (refers : branch.reference = some reference)
    (hvisited : d.referenceName reference ∉ visited)
    (get : d.get? (d.referenceName reference) = some target) :
    d.collectRequired required visited (branch :: rest) =
      d.collectRequired (addNames required target.required)
        (d.referenceName reference :: visited) (target.branchList ++ rest) := by
  rw [collectRequired.eq_def]
  simp only [refers]
  rw [dif_neg hvisited]
  split
  · simp_all
  · next target' get' =>
    obtain rfl : target' = target := Option.some.inj (get'.symm.trans get)
    rfl

/-! ### Agreement -/

lemma Agree.branchList (agree : Agree d₁ d₂ s) : ∀ b ∈ s.branchList, Agree d₁ d₂ b := by
  intro b hb
  exact agree.of_mem_subschemas (Schema.child_mem_subschemas (List.mem_append_right _ hb))

theorem collectRequired_congr {pending : List Schema} (agree : ∀ b ∈ pending, Agree d₁ d₂ b)
    (required visited : List String) :
    d₁.collectRequired required visited pending =
      d₂.collectRequired required visited pending := by
  fun_induction d₁.collectRequired required visited pending with
  | case1 required visited => rw [collectRequired_nil]
  | case2 required visited branch rest refers ih =>
    obtain ⟨hbranch, hrest⟩ := List.forall_mem_cons.1 agree
    rw [collectRequired_of_inline refers]
    exact ih (List.forall_mem_append.2 ⟨hbranch.branchList, hrest⟩)
  | case3 required visited branch rest reference refers name hvisited ih =>
    obtain ⟨hbranch, hrest⟩ := List.forall_mem_cons.1 agree
    have hnamed := congrFun (referenceName_congr hbranch.self) reference
    rw [collectRequired_of_visited refers (hnamed ▸ hvisited)]
    exact ih hrest
  | case4 required visited branch rest reference refers name hvisited get ih =>
    obtain ⟨hbranch, hrest⟩ := List.forall_mem_cons.1 agree
    have hnamed := congrFun (referenceName_congr hbranch.self) reference
    have hget := hbranch.get name (reaches_of_reference refers)
    rw [collectRequired_of_missing refers (hnamed ▸ hget.symm.trans get)]
    exact ih hrest
  | case5 required visited branch rest reference refers name hvisited target get ih =>
    obtain ⟨hbranch, hrest⟩ := List.forall_mem_cons.1 agree
    have hnamed := congrFun (referenceName_congr hbranch.self) reference
    have hreach : d₁.Reaches branch name := reaches_of_reference refers
    have hget : d₂.get? (d₁.referenceName reference) = some target :=
      (hbranch.get name hreach).symm.trans get
    have htarget : Agree d₁ d₂ target := hbranch.of_reaches hreach get
    rw [collectRequired_of_found refers (hnamed ▸ hvisited) (hnamed ▸ hget), ← hnamed]
    exact ih (List.forall_mem_append.2 ⟨htarget.branchList, hrest⟩)

/-- Tables that agree on a schema give it the same required properties. -/
theorem Agree.requiredProperties_eq (agree : Agree d₁ d₂ s) :
    d₁.requiredProperties s = d₂.requiredProperties s :=
  collectRequired_congr agree.branchList s.required []

end OpenApiDoc.Definitions
