import OpenApiDoc.Proofs.Definitions.Required
import OpenApiDoc.Proofs.Example.Depth
import OpenApiDoc.Proofs.Resolver.Locality

/-!
# Locality

What is made of a schema reads the table of definitions at the names that the schema reaches and
nowhere else. So two tables that agree on a schema cannot be told apart by its type, its required
properties, its authored example and its generated example, and writing a definition that the
schema does not reach changes none of them.
-/

namespace OpenApiDoc

variable {d₁ d₂ : Definitions} {s : Schema}

/-! ### Examples -/

namespace Example.Generator

lemma authoredExample_congr (agree : Definitions.Agree d₁ d₂ s) (options : Options) :
    authoredExample ⟨d₁, options⟩ s = authoredExample ⟨d₂, options⟩ s := by
  rw [authoredExample, authoredExample]
  rcases refers : s.reference with _ | reference
  · rfl
  · have hnamed := congrFun (Definitions.referenceName_congr agree.self) reference
    have hget := agree.get _ (Definitions.reaches_of_reference refers)
    simp only [Option.bind_some, Definitions.lookup?, hget, ← hnamed]

lemma Leads.agree {g : Generator} {d : Definitions} {s' : Schema} (h : g.Leads s s')
    (agree : Definitions.Agree g.definitions d s) : Definitions.Agree g.definitions d s' := by
  rcases h with ⟨hmem, -⟩ | ⟨name, t, hreach, get, hmem⟩
  · exact agree.of_mem_subschemas hmem
  · exact (agree.of_reaches hreach get).of_mem_subschemas hmem

/-- Tables that agree on a schema give it the same example at every depth. -/
theorem exampleWithin_congr (agree : Definitions.Agree d₁ d₂ s) (options : Options) (depth : Nat)
    (visits : Visits) :
    exampleWithin ⟨d₁, options⟩ depth visits s = exampleWithin ⟨d₂, options⟩ depth visits s := by
  induction depth generalizing visits s with
  | zero => rfl
  | succ depth ih =>
    refine step_congr rfl (Resolver.resolveSchema_congr agree _) agree.requiredProperties_eq
      (Definitions.referenceName_congr agree.self) (fun reference refers => ?_)
      (fun s' hs' => ?_) fun reference target follows get _ => ?_
    · exact agree.get _ (Definitions.reaches_of_reference refers)
    · exact ih (hs'.leads.agree agree) visits
    · have htarget := agree.of_reaches (Definitions.reaches_of_reference follows.refers) get
      congr 1
      funext inner
      exact ih htarget inner

/-- Where one of two tables that agree on a schema has an example, both have it. -/
theorem generate_congr (agree : Definitions.Agree d₁ d₂ s) (options : Options)
    (finished : (generate ⟨d₁, options⟩ s).result.isSome) :
    generate ⟨d₁, options⟩ s = generate ⟨d₂, options⟩ s := by
  have heq := exampleWithin_congr agree options (depth ⟨d₁, options⟩ s.count) {}
  rw [generate] at finished ⊢
  rw [heq] at finished ⊢
  exact (generate_eq finished).symm

end Example.Generator

/-! ### All results -/

/-- Nothing that is made of a schema tells two tables apart. -/
structure Indistinguishable (links : LinkTargets) (options : Example.Options)
    (d₁ d₂ : Definitions) (s : Schema) : Prop where
  type : Resolver.resolveSchema ⟨d₁, links⟩ s = Resolver.resolveSchema ⟨d₂, links⟩ s
  required : d₁.requiredProperties s = d₂.requiredProperties s
  authored : Example.Generator.authoredExample ⟨d₁, options⟩ s =
    Example.Generator.authoredExample ⟨d₂, options⟩ s
  finished : (Example.Generator.generate ⟨d₁, options⟩ s).result.isSome =
    (Example.Generator.generate ⟨d₂, options⟩ s).result.isSome
  generated : (Example.Generator.generate ⟨d₁, options⟩ s).result.isSome →
    Example.Generator.generate ⟨d₁, options⟩ s = Example.Generator.generate ⟨d₂, options⟩ s

lemma Definitions.Agree.indistinguishable (agree : Agree d₁ d₂ s) (links : LinkTargets)
    (options : Example.Options) : Indistinguishable links options d₁ d₂ s where
  type := Resolver.resolveSchema_congr agree links
  required := agree.requiredProperties_eq
  authored := Example.Generator.authoredExample_congr agree options
  finished := by
    rw [Bool.eq_iff_iff]
    constructor
    · intro h
      rwa [← Example.Generator.generate_congr agree options h]
    · intro h
      rwa [← Example.Generator.generate_congr agree.symm options h]
  generated := Example.Generator.generate_congr agree options

/-- Tables that agree on a schema make the same of it, and so does a table after writing a
definition that the schema does not reach. -/
theorem definitions_local (links : LinkTargets) (options : Example.Options) :
    (∀ (d₁ d₂ : Definitions) (s : Schema), Definitions.Agree d₁ d₂ s →
      Indistinguishable links options d₁ d₂ s) ∧
    ∀ (d : Definitions) (s : Schema) (name : String) (schema : Schema), ¬ d.Reaches s name →
      Indistinguishable links options d (d.insert name schema) s :=
  ⟨fun _ _ _ agree => agree.indistinguishable links options,
    fun _ _ _ schema h => (Definitions.agree_insert schema h).indistinguishable links options⟩

/-- Two definitions that refer to each other, and one that refers to both. -/
def mutualDefinitions : Definitions :=
  ((Definitions.empty.insert "Left"
    { properties := some [("right", { reference := some "Right" })] }).insert "Right"
    { properties := some [("left", { reference := some "Left" })] }).insert "Pair"
    { allOf := some [{ reference := some "Left" }, { reference := some "Right" }] }

theorem definitions_local_mutual :
    ¬ mutualDefinitions.Reaches { reference := some "Left" } "Pair" ∧
    Definitions.Agree mutualDefinitions (mutualDefinitions.insert "Pair" {})
      { reference := some "Left" } ∧
    Indistinguishable .sameDocument {} mutualDefinitions (mutualDefinitions.insert "Pair" {})
      { reference := some "Left" } := by
  have hreach : ¬ mutualDefinitions.Reaches { reference := some "Left" } "Pair" := by
    intro h
    have hpair : "Pair" ∈ ["Left", "Right"] := h.mem_of_closed (by decide) (by decide)
    simp at hpair
  have agree := Definitions.agree_insert {} hreach
  exact ⟨hreach, agree, (definitions_local .sameDocument {}).1 _ _ _ agree⟩

end OpenApiDoc
