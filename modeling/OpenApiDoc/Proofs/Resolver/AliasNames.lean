import Mathlib.Data.List.Chain
import Mathlib.Tactic.Common
import OpenApiDoc.Link
import OpenApiDoc.Proofs.Resolver.Unfolding
import OpenApiDoc.Proofs.Schema.Shape
import OpenApiDoc.Resolver.Parameters

/-!
# Names along a row of aliases

An expanded reference is a link that is named after its definition, and so is the type right
behind the link. If the definition is an alias, that type is a link itself, made for the
next definition, and what stands behind it keeps the name of the next definition. So the
names on the way through the links are those of the row of aliases, and the type at the end
has the name of the last one.
-/

namespace OpenApiDoc

namespace Definitions

/-- The definition of the first name is nothing but a reference to the second one. -/
def AliasOf (d : Definitions) (name next : String) : Prop :=
  ∃ s reference, d.get? name = some s ∧ s.allOf = none ∧ s.reference = some reference ∧
    d.referenceName reference = next

end Definitions

namespace ResolvedType

/-- The types on the way through the links of a type, from the outside in. -/
def behindLinks : ResolvedType → List ResolvedType
  | .link names document target => .link names document target :: target.behindLinks
  | t => [t]

variable {t : ResolvedType}

/-- The last type on the way through the links is the one behind all of them. -/
lemma getLast?_behindLinks (t : ResolvedType) : t.behindLinks.getLast? = some t.unwrap := by
  induction t with
  | link names document target ih => rw [behindLinks, List.getLast?_cons, ih]; rfl
  | _ => rfl

/-- Renaming a type renames only the first one on the way. -/
lemma behindLinks_withNames (names : TypeNames) (t : ResolvedType) :
    (t.withNames names).behindLinks = t.withNames names :: t.behindLinks.tail := by
  cases t <;> rfl

/-- Hoisting out of a type that is no object keeps its names. -/
lemma names_hoist (h : t.isObject = false) (display unique : String) :
    (t.hoist display unique).value.value.names = t.names := by
  cases t with
  | object shape => cases h
  | map names value =>
    rw [hoist]
    split <;> rfl
  | _ => rfl

end ResolvedType

namespace Resolver

open Definitions

variable {r : Resolver} {chain : List String} {name : String} {s : Schema}

/-- A schema that is no alias resolves to a type that is no link. -/
lemma behindLinks_resolveIn (h : s.allOf = none → s.reference = none) (chain : List String) :
    ∃ t, (r.resolveIn chain (s.model r.definitions)).value.behindLinks = [t] := by
  cases s.shape with
  | composed branches allOf =>
    rw [Schema.model_of_composed allOf, resolveIn]
    exact ⟨_, rfl⟩
  | reference reference allOf refers => simp [h allOf] at refers
  | array allOf refers isArray =>
    rw [Schema.model_of_array allOf refers isArray]
    cases s.items <;> rw [Option.map, resolveIn] <;> exact ⟨_, rfl⟩
  | map value allOf refers isArray properties values =>
    rw [Schema.model_of_map allOf refers isArray properties values, resolveIn]
    exact ⟨_, rfl⟩
  | leaf allOf refers isArray noMap =>
    rw [Schema.model_of_leaf allOf refers isArray noMap, Model.ofLeaf.eq_def]
    split <;> rw [resolveIn] <;> exact ⟨_, rfl⟩

/-- A stub is a link to an object, and both are named after the definition. -/
lemma names_behindLinks_stub (name : String) :
    (r.stub name).behindLinks.map ResolvedType.names = [.both name, .both name] := rfl

/-- A link to a definition and the type right behind it are named after the definition. -/
lemma names_behindLinks_linkTo (name : String) (inner : ResolvedType) :
    (r.linkTo name inner).behindLinks.map ResolvedType.names =
      .both name :: .both name :: inner.behindLinks.tail.map ResolvedType.names := by
  have hbehind : (inner.withNames (.both name)).behindLinks.map ResolvedType.names =
      .both name :: inner.behindLinks.tail.map ResolvedType.names := by
    rw [ResolvedType.behindLinks_withNames, List.map_cons, ResolvedType.names_withNames]
  have houter : (r.linkTo name inner).names = .both name := by
    rw [linkTo, ResolvedType.linkTo, ResolvedType.name, ResolvedType.identity,
      ResolvedType.names_withNames]
    rfl
  show (r.linkTo name inner).names ::
    (inner.withNames (.both name)).behindLinks.map ResolvedType.names = _
  rw [houter, hbehind]

/-- The names on the way through the links of an expanded reference: the name that is referenced,
and then those of the row of aliases that starts with it. The row ends where a definition is no
alias, or where it comes back. -/
theorem exists_names_expand (r : Resolver) (chain : List String) (name : String) :
    ∃ row last, (row ++ [last]).head? = some name ∧
      (row ++ [last]).IsChain r.definitions.AliasOf ∧
      ((∀ next, ¬ r.definitions.AliasOf last next) ∨ last ∈ chain ∨ last ∈ row) ∧
      (r.expand chain name).value.behindLinks.map ResolvedType.names =
        (name :: (row ++ [last])).map TypeNames.both := by
  -- each alias that is followed lengthens the chain
  by_cases hchain : r.definitions.get? name = none ∨ name ∈ chain
  · refine ⟨[], name, rfl, .singleton name, ?_, ?_⟩
    · rcases hchain with missing | hmem
      · left
        rintro next ⟨s, reference, get, -⟩
        simp [missing] at get
      · exact .inr (.inl hmem)
    · rw [expand_eq_of_unexpanded hchain]
      exact names_behindLinks_stub name
  · obtain ⟨hget, hname⟩ := not_or.1 hchain
    obtain ⟨s, get⟩ := Option.ne_none_iff_exists'.1 hget
    rw [expand_of_not_mem get hname, Noted.value_map, names_behindLinks_linkTo]
    by_cases follows : s.allOf = none ∧ s.reference.isSome
    · obtain ⟨allOf, href⟩ := follows
      obtain ⟨reference, refers⟩ := Option.isSome_iff_exists.1 href
      obtain ⟨row, last, head, links, ends, names⟩ :=
        exists_names_expand r (name :: chain) (r.definitions.referenceName reference)
      have first : r.definitions.AliasOf name (r.definitions.referenceName reference) :=
        ⟨s, reference, get, allOf, refers, rfl⟩
      refine ⟨name :: row, last, rfl, ?_, ?_, ?_⟩
      · rw [List.cons_append, List.isChain_cons]
        refine ⟨fun next hnext => ?_, links⟩
        obtain rfl := Option.some.inj (head.symm.trans hnext)
        exact first
      · simp only [List.mem_cons] at ends ⊢
        tauto
      · rw [Schema.model_of_reference allOf refers, resolveIn, List.map_tail, names]
        rfl
    · refine ⟨[], name, rfl, .singleton name, .inl ?_, ?_⟩
      · rintro next ⟨s', reference, get', allOf, refers, -⟩
        obtain rfl := Option.some.inj (get'.symm.trans get)
        exact follows ⟨allOf, by simp [refers]⟩
      · obtain ⟨t, ht⟩ := behindLinks_resolveIn (r := r) (s := s)
          (fun allOf => by simpa [allOf] using follows) (name :: chain)
        rw [ht]
        rfl
termination_by r.definitions.unvisited chain
decreasing_by exact Definitions.unvisited_cons_lt get hname

/-- The type of a definition has the names of the type behind the links of its reference. -/
lemma names_definitionType (r : Resolver) (config : Config) (name : String) :
    (r.definitionType config name).value.value.names =
      (r.resolveReference name).value.unwrap.names := by
  rw [definitionType, Noted.value_bind]
  dsimp only
  split
  · rfl
  · next hcondition =>
    rw [Bool.not_eq_true, Bool.or_eq_false_iff] at hcondition
    exact ResolvedType.names_hoist hcondition.1 _ _

/-- A name that stands twice in a row of aliases is, in the end, an alias of itself. -/
lemma transGen_of_mem_row {d : Definitions} {row : List String} {last : String}
    (links : (row ++ [last]).IsChain d.AliasOf) (h : last ∈ row) :
    Relation.TransGen d.AliasOf last last := by
  have hpairs : (row ++ [last]).Pairwise (Relation.TransGen d.AliasOf) :=
    List.isChain_iff_pairwise.1 (links.imp fun _ _ => .single)
  exact (List.pairwise_append.1 hpairs).2.2 last h last (List.mem_singleton_self last)

/-- On the way through the links of a definition the types are named after the definition and
then after the definitions of its row of aliases, and the type of the definition is named after
the last one. The row ends where a definition is no alias, unless it comes back to itself. -/
theorem names_of_definition (r : Resolver) (config : Config) (name : String) :
    ∃ row last, (row ++ [last]).head? = some name ∧
      (row ++ [last]).IsChain r.definitions.AliasOf ∧
      ((∀ next, ¬ r.definitions.AliasOf last next) ∨
        Relation.TransGen r.definitions.AliasOf last last) ∧
      (r.resolveReference name).value.behindLinks.map ResolvedType.names =
        (name :: (row ++ [last])).map TypeNames.both ∧
      (r.definitionType config name).value.value.names = .both last := by
  obtain ⟨row, last, head, links, ends, names⟩ := exists_names_expand r [] name
  refine ⟨row, last, head, links, ?_, names, ?_⟩
  · rcases ends with ends | hmem | hmem
    · exact .inl ends
    · cases hmem
    · exact .inr (transGen_of_mem_row links hmem)
  · have hlast := congrArg List.getLast? names
    rw [List.getLast?_map, ResolvedType.getLast?_behindLinks] at hlast
    rw [List.map_cons, List.map_append, ← List.cons_append, List.map_singleton,
      List.getLast?_concat] at hlast
    rw [names_definitionType]
    exact Option.some.inj hlast

/-- An object and an alias of it. -/
def petAndAnimal : Resolver where
  definitions := (Definitions.empty.insert "Pet"
    { properties := some [("id", { type := some (.single "string") })] }).insert "Animal"
    { reference := some "Pet" }
  links := .sameDocument

/-- The type of the alias has the name of the object. -/
theorem animal_named_pet :
    (petAndAnimal.definitions.get? "Animal").isSome ∧
    (petAndAnimal.definitionType {} "Animal").value.value.names = .both "Pet" ∧
    (petAndAnimal.resolveReference "Animal").value.behindLinks.map ResolvedType.names =
      [.both "Animal", .both "Animal", .both "Pet"] ∧
    (petAndAnimal.definitionType {} "Animal").value.value.names ≠ .both "Animal" := by
  have hnames :
      (petAndAnimal.definitionType {} "Animal").value.value.names = .both "Pet" := by cbv
  refine ⟨by decide, hnames, by cbv, ?_⟩
  rw [hnames]
  decide

end Resolver

end OpenApiDoc
