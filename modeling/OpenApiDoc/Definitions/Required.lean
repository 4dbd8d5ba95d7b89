import OpenApiDoc.Definitions

/-!
# Required properties

The required list of a schema is extended by those of its `allOf` branches, at any depth.
References are followed once each, so the walk ends on cyclic definitions too: every step either
visits a definition for the first time or leaves fewer schemas to look at.
-/

namespace OpenApiDoc

namespace Definitions

/-- Names with those of a list added that are not among them. -/
def addNames (names : List String) (added : List String) : List String :=
  added.foldl (fun names name => if names.contains name then names else names ++ [name]) names

/-- Walk over branches that are still to be looked at. -/
def collectRequired (d : Definitions) (required visited : List String) :
    List Schema → List String
  | [] => required
  | branch :: rest =>
    match branch.reference with
    | none =>
      d.collectRequired (addNames required branch.required) visited (branch.branchList ++ rest)
    | some reference =>
      let name := d.referenceName reference
      if _ : name ∈ visited then d.collectRequired required visited rest
      else
        match _ : d.get? name with
        | none => d.collectRequired required visited rest
        | some target =>
          d.collectRequired (addNames required target.required) (name :: visited)
            (target.branchList ++ rest)
termination_by pending => (d.unvisited visited, Schema.countList pending)
decreasing_by
  · refine Prod.Lex.right _ ?_
    have := Schema.countList_branchList_lt branch
    simp only [Schema.countList_append, Schema.countList]
    omega
  · refine Prod.Lex.right _ ?_
    have := Schema.count_pos branch
    simp only [Schema.countList]
    omega
  · refine Prod.Lex.right _ ?_
    have := Schema.count_pos branch
    simp only [Schema.countList]
    omega
  · exact Prod.Lex.left _ _ (unvisited_cons_lt ‹_› ‹_›)

/-- The required list of a schema, extended by those of its branches. -/
def requiredProperties (d : Definitions) (s : Schema) : List String :=
  d.collectRequired s.required [] s.branchList

end Definitions

end OpenApiDoc
