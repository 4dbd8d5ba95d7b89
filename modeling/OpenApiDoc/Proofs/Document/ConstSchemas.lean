import Mathlib.Data.List.Induction
import OpenApiDoc.Document
import OpenApiDoc.Proofs.Document.Places

/-!
# Where constants are rewritten

The keyword `const` is rewritten in every object that no key of data stands above, whatever
the object is. What stands at a path is rewritten or left as it is by the keys on the path
alone; the value of a key `const` is gone, and the keys `type` and `enum` may be new. In
which way the constant is removed makes no difference to the value of any key, so lookups are
stated for every removal.
-/

namespace OpenApiDoc.Document

open Json (Step Path)

/-- Whether a step leads into data. -/
def entersData : Step → Bool
  | .key name => holdsData name
  | .index _ => false

/-- What the rewriting of constants makes of a value that a path leads to. -/
def rewrittenAt (path : Path) (v : Json) : Json :=
  if path.any entersData then v else withoutConst v

/-- The path does not go through a constant that is rewritten. -/
def Kept (path : Path) : Prop := path.find? entersData ≠ some (.key "const")

/-- Whether some object within a value, but outside of its data, has a member `const`. -/
def CarriesConst (v : Json) : Prop :=
  ∃ path : Path, path.any entersData = false ∧ (v.follow? (path ++ [.key "const"])).isSome = true

/-- What is put under a key in place of a constant, if the key is missing. -/
def inPlaceOfConst (key : String) (c : Json) : Option Json :=
  if key = "type" then (typeNameOf c).map .str
  else if key = "enum" then some (.arr [c])
  else none

variable {v x : Json} {s : Step} {path : Path} {members : List (String × Json)}

/-! ### One object -/

/-- The members of an object with `const` replaced, where the constant is removed in some way. -/
def constToEnumBy (r : Entries.Removal Json) (members : List (String × Json)) :
    List (String × Json) :=
  match Entries.get? "const" members with
  | none => members
  | some value =>
    let members := r.erase "const" members
    let members :=
      match typeNameOf value with
      | some name =>
        if Entries.has "type" members then members else Entries.insert "type" (.str name) members
      | none => members
    if Entries.has "enum" members then members else Entries.insert "enum" (.arr [value]) members

lemma constToEnumBy_swap (members : List (String × Json)) :
    constToEnumBy .swap members = constToEnum members := rfl

/-- The value of a key does not depend on the way in which the constant is removed. -/
lemma get?_constToEnumBy (r : Entries.Removal Json) (nodup : (Entries.keys members).Nodup)
    (key : String) :
    Entries.get? key (constToEnumBy r members) =
      if key = "const" then none
      else (Entries.get? key members).or
        ((Entries.get? "const" members).bind (inPlaceOfConst key)) := by
  rw [constToEnumBy]
  cases hconst : Entries.get? "const" members with
  | none =>
    by_cases hkey : key = "const"
    · simp [hkey, hconst]
    · simp [hkey]
  | some c =>
    dsimp only
    rw [Entries.get?_insert_of_missing, Option.bind_some, inPlaceOfConst]
    cases typeNameOf c with
    | none =>
      dsimp only
      rw [r.get?_erase nodup, Option.map_none]
      by_cases hkey : key = "const"
      · simp [hkey]
      by_cases htype : key = "type" <;> simp [hkey, htype]
    | some name =>
      dsimp only
      rw [Entries.get?_insert_of_missing, r.get?_erase nodup, Option.map_some]
      by_cases hkey : key = "const"
      · simp [hkey]
      by_cases htype : key = "type" <;> simp [hkey, htype]

mutual

/-- A value with `const` replaced in every object outside of data, where constants are removed in
some way. -/
def withoutConstBy (r : Entries.Removal Json) : Json → Json
  | .obj members => .obj (constToEnumBy r (withoutConstMembersBy r members))
  | .arr items => .arr (withoutConstItemsBy r items)
  | value => value

/-- The members of an object with `const` replaced within them. -/
def withoutConstMembersBy (r : Entries.Removal Json) : List (String × Json) →
    List (String × Json)
  | [] => []
  | (key, value) :: rest =>
    (key, if holdsData key then value else withoutConstBy r value) ::
      withoutConstMembersBy r rest

/-- The items of an array with `const` replaced within them. -/
def withoutConstItemsBy (r : Entries.Removal Json) : List Json → List Json
  | [] => []
  | value :: rest => withoutConstBy r value :: withoutConstItemsBy r rest

end

/-- What the rewriting of constants makes of the value of a key. -/
def rewrittenBy (r : Entries.Removal Json) (key : String) (v : Json) : Json :=
  if holdsData key then v else withoutConstBy r v

lemma withoutConstBy_obj (r : Entries.Removal Json) (members : List (String × Json)) :
    withoutConstBy r (.obj members) =
      .obj (constToEnumBy r (members.map fun m => (m.1, rewrittenBy r m.1 m.2))) := by
  have hmembers : ∀ members, withoutConstMembersBy r members =
      members.map fun m => (m.1, rewrittenBy r m.1 m.2) := by
    intro members
    induction members with
    | nil => rfl
    | cons m rest ih => rw [withoutConstMembersBy, List.map_cons, ih, rewrittenBy]
  rw [withoutConstBy, hmembers]

lemma withoutConstBy_arr (r : Entries.Removal Json) (items : List Json) :
    withoutConstBy r (.arr items) = .arr (items.map (withoutConstBy r)) := by
  have hitems : ∀ items, withoutConstItemsBy r items = items.map (withoutConstBy r) := by
    intro items
    induction items with
    | nil => rfl
    | cons item rest ih => rw [withoutConstItemsBy, List.map_cons, ih]
  rw [withoutConstBy, hitems]

lemma withoutConstBy_swap (v : Json) : withoutConstBy .swap v = withoutConst v := by
  have hobj : ∀ members : List (String × Json),
      (∀ m ∈ members, withoutConstBy .swap m.2 = withoutConst m.2) →
      withoutConstMembersBy .swap members = withoutConstMembers members := by
    intro members ih
    induction members with
    | nil => rfl
    | cons m rest ih' =>
      rw [withoutConstMembersBy, withoutConstMembers, ih m List.mem_cons_self,
        ih' fun m hm => ih m (List.mem_cons_of_mem _ hm)]
  have harr : ∀ items : List Json,
      (∀ item ∈ items, withoutConstBy .swap item = withoutConst item) →
      withoutConstItemsBy .swap items = withoutConstItems items := by
    intro items ih
    induction items with
    | nil => rfl
    | cons item rest ih' =>
      rw [withoutConstItemsBy, withoutConstItems, ih item List.mem_cons_self,
        ih' fun item hitem => ih item (List.mem_cons_of_mem _ hitem)]
  induction v using Json.induction_on with
  | obj members ih => rw [withoutConstBy, withoutConst, hobj members ih, constToEnumBy_swap]
  | arr items ih => rw [withoutConstBy, withoutConst, harr items ih]
  | leaf v hentries hitems =>
    cases v with
    | obj members => cases hentries
    | arr items => cases hitems
    | _ => rfl

lemma rewrittenBy_swap (key : String) : rewrittenBy .swap key = rewrittenAt [.key key] := by
  funext v
  simp [rewrittenBy, rewrittenAt, entersData, withoutConstBy_swap]

lemma withoutConst_obj (members : List (String × Json)) :
    withoutConst (.obj members) =
      .obj (constToEnum (members.map fun m => (m.1, rewrittenAt [.key m.1] m.2))) := by
  rw [← withoutConstBy_swap, withoutConstBy_obj, constToEnumBy_swap]
  exact congrArg (fun f => Json.obj (constToEnum (members.map fun m => (m.1, f m.1 m.2))))
    (funext rewrittenBy_swap)

lemma withoutConst_arr (items : List Json) :
    withoutConst (.arr items) = .arr (items.map withoutConst) := by
  rw [← withoutConstBy_swap, withoutConstBy_arr]
  exact congrArg Json.arr (List.map_congr_left fun item _ => withoutConstBy_swap item)

/-! ### Steps into a rewritten value -/

lemma rewrittenAt_of_any (h : path.any entersData = true) (v : Json) : rewrittenAt path v = v :=
  if_pos h

lemma rewrittenAt_of_not_any (h : path.any entersData = false) (v : Json) :
    rewrittenAt path v = withoutConst v :=
  if_neg (by simp [h])

lemma rewrittenAt_concat (path : Path) (s : Step) (v : Json) :
    rewrittenAt (path ++ [s]) v = if path.any entersData then v else rewrittenAt [s] v := by
  rw [rewrittenAt, List.any_append]
  cases path.any entersData with
  | true => rfl
  | false => simp [rewrittenAt]

lemma keys_rewrittenBy (r : Entries.Removal Json) (members : List (String × Json)) :
    Entries.keys (members.map fun m => (m.1, rewrittenBy r m.1 m.2)) = Entries.keys members :=
  List.map_map

/-- The member of a rewritten value is the rewritten member, but for the three keys concerned. -/
lemma get?_withoutConstBy (r : Entries.Removal Json) (wellKeyed : v.WellKeyed) (key : String) :
    (withoutConstBy r v).get? key =
      if key = "const" then none
      else ((v.get? key).map (rewrittenBy r key)).or
        ((v.get? "const").bind (inPlaceOfConst key)) := by
  cases v with
  | obj members =>
    have hdata : rewrittenBy r "const" = id := rfl
    rw [withoutConstBy_obj, Json.get?_obj,
      get?_constToEnumBy r ((keys_rewrittenBy r members).symm ▸ wellKeyed.1),
      Entries.get?_map (f := rewrittenBy r), Entries.get?_map (f := rewrittenBy r), hdata,
      Option.map_id, id]
    rfl
  | arr items => rw [withoutConstBy_arr]; exact (ite_self none).symm
  | _ => exact (ite_self none).symm

lemma get?_withoutConst (wellKeyed : v.WellKeyed) (key : String) :
    (withoutConst v).get? key =
      if key = "const" then none
      else ((v.get? key).map (rewrittenAt [.key key])).or
        ((v.get? "const").bind (inPlaceOfConst key)) := by
  rw [← withoutConstBy_swap, get?_withoutConstBy .swap wellKeyed, rewrittenBy_swap]

/-- A step into a rewritten value leads to the rewritten value that the step leads to, unless the
step goes to a constant that is rewritten. -/
lemma child?_rewrittenAt (wellKeyed : v.WellKeyed) (hchild : v.child? s = some x)
    (kept : s = .key "const" → path.any entersData = true) :
    (rewrittenAt path v).child? s = some (rewrittenAt (path ++ [s]) x) := by
  rw [rewrittenAt_concat]
  cases hany : path.any entersData with
  | true => rw [rewrittenAt_of_any hany, if_pos rfl, hchild]
  | false =>
    rw [rewrittenAt_of_not_any hany, if_neg (by simp)]
    cases s with
    | key name =>
      have hname : name ≠ "const" := by
        rintro rfl
        rw [kept rfl] at hany
        cases hany
      rw [Json.child?_key] at hchild ⊢
      rw [get?_withoutConst wellKeyed, if_neg hname, hchild, Option.map_some, Option.some_or]
    | index i =>
      cases v with
      | arr items =>
        rw [Json.child?_index_arr] at hchild
        rw [withoutConst_arr, Json.child?_index_arr, List.getElem?_map, hchild]
        rfl
      | _ => cases hchild

/-- A step into a rewritten value leads to the rewritten value that the step leads to, or to a
type or an enumeration that was put in place of a constant. -/
lemma exists_child_of_rewrittenAt (wellKeyed : v.WellKeyed)
    (hchild : (rewrittenAt path v).child? s = some x) :
    (∃ u, v.child? s = some u ∧ x = rewrittenAt (path ++ [s]) u ∧
      (s = .key "const" → path.any entersData = true)) ∨
    (s = .key "type" ∧ ∃ name, x = .str name) ∨ (s = .key "enum" ∧ ∃ c, x = .arr [c]) := by
  cases hany : path.any entersData with
  | true =>
    rw [rewrittenAt_of_any hany] at hchild
    refine .inl ⟨x, hchild, ?_, fun _ => rfl⟩
    rw [rewrittenAt_concat, hany, if_pos rfl]
  | false =>
    rw [rewrittenAt_of_not_any hany] at hchild
    cases s with
    | key name =>
      have hname : name ≠ "const" := by
        rintro rfl
        rw [Json.child?_key, get?_withoutConst wellKeyed, if_pos rfl] at hchild
        cases hchild
      rw [Json.child?_key, get?_withoutConst wellKeyed, if_neg hname,
        Option.or_eq_some_iff] at hchild
      rcases hchild with h | ⟨-, h⟩
      · obtain ⟨u, hu, rfl⟩ := Option.map_eq_some_iff.1 h
        refine .inl ⟨u, (Json.child?_key _ _).trans hu, ?_,
          fun h => absurd (Step.key.inj h) hname⟩
        rw [rewrittenAt_concat, hany, if_neg (by simp)]
      · obtain ⟨c, -, hc⟩ := Option.bind_eq_some_iff.1 h
        rw [inPlaceOfConst] at hc
        split at hc
        · next htype =>
          obtain ⟨typeName, -, rfl⟩ := Option.map_eq_some_iff.1 hc
          exact .inr (.inl ⟨congrArg Step.key htype, typeName, rfl⟩)
        · split at hc
          · next henum =>
            cases hc
            exact .inr (.inr ⟨congrArg Step.key henum, c, rfl⟩)
          · cases hc
    | index i =>
      cases v with
      | arr items =>
        rw [withoutConst_arr, Json.child?_index_arr, List.getElem?_map] at hchild
        obtain ⟨u, hu, rfl⟩ := Option.map_eq_some_iff.1 hchild
        refine .inl ⟨u, hu, ?_, nofun⟩
        rw [rewrittenAt_concat, hany, if_neg (by simp)]
        rfl
      | obj members => rw [withoutConst_obj] at hchild; cases hchild
      | _ => cases hchild

/-! ### Distinct keys -/

lemma wellKeyed_insert_of_missing (h : (Json.obj members).WellKeyed) (key : String)
    (hx : x.WellKeyed) :
    (Json.obj (if Entries.has key members then members
      else Entries.insert key x members)).WellKeyed := by
  cases hhas : Entries.has key members with
  | true => exact h
  | false =>
    obtain ⟨nodup, hvalues⟩ := Json.wellKeyed_obj.1 h
    have hmissing := Entries.has_eq_false.1 hhas
    rw [if_neg (by simp), Entries.insert_of_not_mem hmissing, Json.wellKeyed_obj]
    refine ⟨Entries.nodup_keys_concat nodup hmissing, fun m hm => ?_⟩
    rcases List.mem_append.1 hm with hm | hm
    · exact hvalues m hm
    · rw [List.mem_singleton.1 hm]
      exact hx

lemma wellKeyed_constToEnumBy (r : Entries.Removal Json) (h : (Json.obj members).WellKeyed) :
    (Json.obj (constToEnumBy r members)).WellKeyed := by
  obtain ⟨nodup, hvalues⟩ := Json.wellKeyed_obj.1 h
  rw [constToEnumBy]
  cases hconst : Entries.get? "const" members with
  | none => exact h
  | some c =>
    have hc : c.WellKeyed := hvalues _ (Entries.mem_of_get? hconst)
    have herased : (Json.obj (r.erase "const" members)).WellKeyed := by
      refine Json.wellKeyed_obj.2 ⟨r.nodup_keys_erase "const" nodup, fun m hm => ?_⟩
      exact hvalues m (List.mem_of_mem_filter ((r.perm "const" members nodup).mem_iff.1 hm))
    refine wellKeyed_insert_of_missing ?_ "enum" (Json.wellKeyed_arr.2 (by simpa using hc))
    cases typeNameOf c with
    | none => exact herased
    | some name => exact wellKeyed_insert_of_missing herased "type" trivial

lemma wellKeyed_withoutConstBy (r : Entries.Removal Json) (h : v.WellKeyed) :
    (withoutConstBy r v).WellKeyed := by
  induction v using Json.induction_on with
  | obj members ih =>
    obtain ⟨nodup, hvalues⟩ := Json.wellKeyed_obj.1 h
    rw [withoutConstBy_obj]
    refine wellKeyed_constToEnumBy r (Json.wellKeyed_obj.2 ⟨?_, fun m hm => ?_⟩)
    · rwa [keys_rewrittenBy]
    · obtain ⟨m', hm', rfl⟩ := List.mem_map.1 hm
      rw [rewrittenBy]
      split
      · exact hvalues m' hm'
      · exact ih m' hm' (hvalues m' hm')
  | arr items ih =>
    rw [withoutConstBy_arr, Json.wellKeyed_arr]
    intro item hitem
    obtain ⟨item', hitem', rfl⟩ := List.mem_map.1 hitem
    exact ih item' hitem' (Json.wellKeyed_arr.1 h item' hitem')
  | leaf v hentries hitems =>
    cases v with
    | obj members => cases hentries
    | arr items => cases hitems
    | _ => exact h

lemma wellKeyed_withoutConst (h : v.WellKeyed) : (withoutConst v).WellKeyed :=
  withoutConstBy_swap v ▸ wellKeyed_withoutConstBy .swap h

/-! ### Paths into a rewritten value -/

lemma kept_concat : Kept (path ++ [s]) ↔
    Kept path ∧ (s = .key "const" → path.any entersData = true) := by
  rw [Kept, Kept, List.find?_append]
  cases hfind : path.find? entersData with
  | none =>
    have hany : path.any entersData = false := by simpa using hfind
    have hconst : entersData (.key "const") = true := rfl
    rw [hany, Option.none_or, List.find?_singleton]
    constructor
    · refine fun h => ⟨nofun, ?_⟩
      rintro rfl
      exact absurd (by rw [hconst]; rfl) h
    · rintro ⟨-, h⟩ heq
      split at heq
      · cases h (Option.some.inj heq)
      · cases heq
  | some s' =>
    have hany : path.any entersData = true :=
      List.any_eq_true.2 ⟨s', List.mem_of_find?_eq_some hfind, List.find?_some hfind⟩
    simp [hany]

/-- What stands at a path of a rewritten value is the rewritten value that stood there, unless
the path goes through a constant that is rewritten. -/
lemma follow?_withoutConst (wellKeyed : v.WellKeyed) (hx : v.follow? path = some x)
    (kept : Kept path) : (withoutConst v).follow? path = some (rewrittenAt path x) := by
  induction path using List.reverseRecOn generalizing x with
  | nil =>
    cases hx
    rfl
  | append_singleton path s ih =>
    obtain ⟨w, hw, hchild⟩ := Json.follow?_concat_eq_some.1 hx
    obtain ⟨hpath, hconst⟩ := kept_concat.1 kept
    rw [Json.follow?_concat_of_eq (ih hw hpath)]
    exact child?_rewrittenAt (wellKeyed.follow? hw) hchild hconst

/-- What stood behind a constant that was rewritten, stands there no more. -/
lemma follow?_withoutConst_eq_none (wellKeyed : v.WellKeyed) (hx : v.follow? path = some x)
    (lost : path.find? entersData = some (.key "const")) :
    (withoutConst v).follow? path = none := by
  obtain ⟨-, before, after, rfl, hbefore⟩ := List.find?_eq_some_iff_append.1 lost
  have hany : before.any entersData = false := by simpa using hbefore
  have hfind : before.find? entersData = none := by simpa using hbefore
  rw [Json.follow?_append] at hx
  obtain ⟨w, hw, -⟩ := Option.bind_eq_some_iff.1 hx
  rw [Json.follow?_append, follow?_withoutConst wellKeyed hw (by simp [Kept, hfind]),
    Option.bind_some,
    rewrittenAt_of_not_any hany, Json.follow?_cons, Json.child?_key,
    get?_withoutConst (wellKeyed.follow? hw), if_pos rfl, Option.bind_none]

/-- Rewriting constants changes nothing exactly if no object outside of data has a member
`const`, be it a schema or not. -/
theorem withoutConst_eq_self_iff (wellKeyed : v.WellKeyed) :
    withoutConst v = v ↔ ¬CarriesConst v := by
  constructor
  · rintro hself ⟨path, hany, hconst⟩
    obtain ⟨c, hc⟩ := Option.isSome_iff_exists.1 hconst
    have hlost : (path ++ [Step.key "const"]).find? entersData = some (.key "const") := by
      have hfind : path.find? entersData = none := by simpa using hany
      rw [List.find?_append, hfind]
      rfl
    have hnone := follow?_withoutConst_eq_none wellKeyed hc hlost
    rw [hself, hc] at hnone
    cases hnone
  · intro hclear
    induction v using Json.induction_on with
    | obj members ih =>
      obtain ⟨nodup, hvalues⟩ := Json.wellKeyed_obj.1 wellKeyed
      have hmembers : members.map (fun m => (m.1, rewrittenAt [.key m.1] m.2)) = members := by
        refine (List.map_congr_left fun m hm => ?_).trans (List.map_id members)
        rw [rewrittenAt]
        split
        · rfl
        · next hdata =>
          have hm' : ¬CarriesConst m.2 := by
            rintro ⟨path, hany, hconst⟩
            refine hclear ⟨.key m.1 :: path, ?_, ?_⟩
            · rw [List.any_cons, hany, Bool.or_false]
              simpa using hdata
            · rw [List.cons_append, Json.follow?_cons, Json.child?_key, Json.get?_obj,
                Entries.get?_of_mem nodup hm]
              exact hconst
          rw [ih m hm (hvalues m hm) hm']
          rfl
      have hnone : Entries.get? "const" members = none := by
        by_contra hsome
        refine hclear ⟨[], rfl, ?_⟩
        rw [List.nil_append, Json.follow?_cons, Json.child?_key, Json.get?_obj]
        obtain ⟨c, hc⟩ := Option.ne_none_iff_exists'.1 hsome
        rw [hc]
        rfl
      rw [withoutConst_obj, hmembers, constToEnum, hnone]
    | arr items ih =>
      have hitems : items.map withoutConst = items := by
        refine (List.map_congr_left fun item hitem => ?_).trans (List.map_id items)
        refine ih item hitem (Json.wellKeyed_arr.1 wellKeyed item hitem) ?_
        rintro ⟨path, hany, hconst⟩
        obtain ⟨i, hi⟩ := List.getElem?_of_mem hitem
        refine hclear ⟨.index i :: path, by simpa [entersData] using hany, ?_⟩
        rw [List.cons_append, Json.follow?_cons, Json.child?_index_arr, hi]
        exact hconst
      rw [withoutConst_arr, hitems]
    | leaf v hentries hitems =>
      cases v with
      | obj members => cases hentries
      | arr items => cases hitems
      | _ => rfl

/-! ### Maps of names -/

lemma keys_constToEnum_eq_iff (nodup : (Entries.keys members).Nodup) :
    Entries.keys (constToEnum members) = Entries.keys members ↔
      "const" ∉ Entries.keys members := by
  constructor
  · intro heq hmem
    have hnone := get?_constToEnumBy .swap nodup "const"
    rw [if_pos rfl, Entries.get?_eq_none, constToEnumBy_swap, heq] at hnone
    exact hnone hmem
  · intro hnot
    rw [constToEnum, Entries.get?_eq_none.2 hnot]

/-- Rewriting constants leaves a map of names with the same schemas exactly if it does not come
to the map, because some other data stands above it, or finds no object with a member `const` in
it. Where it comes to the map, names and order stay the same exactly if no name is `const`. -/
theorem withoutConst_namedSchemas {d : Json} {q : Path} {named : List (String × Json)}
    (wellKeyed : d.WellKeyed) (hnamed : d.follow? q = some (.obj named)) :
    ((withoutConst d).follow? q = some (.obj named) ↔
      (q.find? entersData = none ∧ ¬CarriesConst (.obj named)) ∨
        ∃ s, q.find? entersData = some s ∧ s ≠ .key "const") ∧
    (q.find? entersData = none → ∃ named', (withoutConst d).follow? q = some (.obj named') ∧
      (Entries.keys named' = Entries.keys named ↔ "const" ∉ Entries.keys named)) := by
  have wellKeyedNamed := wellKeyed.follow? hnamed
  cases hfind : q.find? entersData with
  | none =>
    have hany : q.any entersData = false := by simpa using hfind
    have hafter : (withoutConst d).follow? q = some (withoutConst (.obj named)) := by
      rw [follow?_withoutConst wellKeyed hnamed (by simp [Kept, hfind]),
        rewrittenAt_of_not_any hany]
    constructor
    · rw [hafter, Option.some.injEq, withoutConst_eq_self_iff wellKeyedNamed]
      simp
    · intro _
      refine ⟨_, hafter.trans (congrArg some (withoutConst_obj named)), ?_⟩
      have hkeys : Entries.keys (named.map fun m => (m.1, rewrittenAt [.key m.1] m.2)) =
          Entries.keys named := List.map_map
      have hiff := keys_constToEnum_eq_iff (hkeys.symm ▸ wellKeyedNamed.1)
      rwa [hkeys] at hiff
  | some s =>
    have hany : q.any entersData = true :=
      List.any_eq_true.2 ⟨s, List.mem_of_find?_eq_some hfind, List.find?_some hfind⟩
    refine ⟨?_, nofun⟩
    by_cases hs : s = .key "const"
    · subst hs
      rw [follow?_withoutConst_eq_none wellKeyed hnamed hfind]
      simp
    · rw [follow?_withoutConst wellKeyed hnamed (by simpa [Kept, hfind] using hs),
        rewrittenAt_of_any hany]
      simpa using hs

/-- A definition with a constant in its data only. -/
def circles : Json :=
  .obj [("definitions", .obj [("Circle", .obj [
    ("type", .str "object"),
    ("properties", .obj [("radius", .obj [("type", .str "number")])]),
    ("default", .obj [("const", .str "unit")])])])]

/-- Its properties are left as they are, and its name is. -/
theorem withoutConst_namedSchemas_circles :
    (withoutConst circles).follow? [.key "definitions", .key "Circle", .key "properties"] =
        some (.obj [("radius", .obj [("type", .str "number")])]) ∧
      ∃ named, (withoutConst circles).follow? [.key "definitions"] = some (.obj named) ∧
        Entries.keys named = ["Circle"] := by
  have wellKeyed : circles.WellKeyed := by
    simp [circles, Json.WellKeyed, Json.WellKeyedEntries, Entries.keys]
  have clear : ¬CarriesConst (.obj [("radius", .obj [("type", .str "number")])]) := by
    rw [← withoutConst_eq_self_iff]
    · rfl
    · simp [Json.WellKeyed, Json.WellKeyedEntries, Entries.keys]
  constructor
  · exact (withoutConst_namedSchemas wellKeyed rfl).1.2 (.inl ⟨rfl, clear⟩)
  · obtain ⟨named, hnamed, hkeys⟩ := (withoutConst_namedSchemas wellKeyed
      (q := [.key "definitions"]) rfl).2 rfl
    exact ⟨named, hnamed, hkeys.2 (by decide)⟩

/-- Properties of which one is called `const`. -/
def constProperties : Json := .obj [("const", .obj [("type", .str "string")])]

/-- A schema with a property that is called `const`. -/
def constPet : Json := .obj [("type", .str "object"), ("properties", constProperties)]

/-- A document with that schema. -/
def constProperty : Json :=
  .obj [("components", .obj [("schemas", .obj [("Pet", constPet)])])]

/-- No schema of the document has a constant, but the name of the property is taken for one. -/
theorem constProperty_lost :
    (∀ path orFlag x, Reads path (.schema orFlag) → constProperty.follow? path = some x →
      x.get? "const" = none) ∧
    constProperty.follow? [.key "components", .key "schemas", .key "Pet", .key "properties"] =
      some constProperties ∧
    (withoutConst constProperty).follow?
        [.key "components", .key "schemas", .key "Pet", .key "properties"] =
      some (.obj [("type", .str "object"),
        ("enum", .arr [.obj [("type", .str "string")]])]) := by
  refine ⟨?_, rfl, rfl⟩
  intro path orFlag x reads hx
  -- Whatever is read there, is one of six values.
  have hplaces := reads.holds (motive := fun a v =>
    (a = .document ∧ v = constProperty) ∨
    (a = .components ∧ v = .obj [("schemas", .obj [("Pet", constPet)])]) ∨
    (a = .schemas ∧ v = .obj [("Pet", constPet)]) ∨ (a = .schema false ∧ v = constPet) ∨
    (a = .schemas ∧ v = constProperties) ∨
    (a = .schema false ∧ v = .obj [("type", .str "string")])) (.inl ⟨rfl, rfl⟩) ?_ hx
  · rcases hplaces with ⟨ha, rfl⟩ | ⟨ha, rfl⟩ | ⟨ha, rfl⟩ | ⟨ha, rfl⟩ | ⟨ha, rfl⟩ | ⟨ha, rfl⟩
    · cases ha
    · cases ha
    · cases ha
    · rfl
    · cases ha
    · rfl
  · intro a b s v x leads hv hchild
    rcases hv with ⟨rfl, rfl⟩ | ⟨rfl, rfl⟩ | ⟨rfl, rfl⟩ | ⟨rfl, rfl⟩ | ⟨rfl, rfl⟩ |
      ⟨rfl, rfl⟩ <;>
      cases leads <;>
      simp_all [constProperty, constPet, constProperties, Entries.get?_cons]

end OpenApiDoc.Document
