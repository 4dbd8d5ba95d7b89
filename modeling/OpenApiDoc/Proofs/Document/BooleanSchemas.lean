import Mathlib.Data.List.Induction
import OpenApiDoc.Document
import OpenApiDoc.Proofs.Json.Path

/-!
# Where Boolean schemas are eliminated

Boolean schemas are eliminated in two sweeps over a document: one over the sections of
definitions, one over everything under a key `schema`. Both come down the document in *stages*.
The stage of a value follows from the keys on the path to it alone, and what stands at a path
afterwards is what its stage makes of what stood there before.
-/

namespace OpenApiDoc.Document

open Json (Step Path)

/-- What a sweep does to a value that it has come to. -/
inductive Stage where
  /-- The document: its definitions are made plain. -/
  | document
  /-- The components of the document: their schemas are made plain. -/
  | components
  /-- A map of names to schemas. -/
  | schemas
  | schema
  /-- A schema that may be a flag. -/
  | value
  /-- The branches of a composition. -/
  | branches
  /-- Anything else within a schema, or outside of the definitions: it is left as it is. -/
  | untouched
  /-- A part of the document in which schemas stand under a key `schema`. -/
  | part
deriving DecidableEq

/-- A schema with what a Boolean stands for written out. -/
def writtenOut : Json → Json
  | .bool b => ofBoolean b
  | v => v

namespace Stage

/-- The value that a stage makes of a value. -/
def apply : Stage → Json → Json
  | document, v =>
    (v.modify "components" (.modify "schemas" (.mapValues plainSchema))).modify "definitions"
      (.mapValues plainSchema)
  | components, v => v.modify "schemas" (.mapValues plainSchema)
  | schemas, v => v.mapValues plainSchema
  | schema, v => plainSchema v
  | value, v => plainValue true v
  | branches, v => v.mapItems plainSchema
  | untouched, v => v
  | part, v => plainParts v

/-- The stage of a keyword within a schema. -/
def keyword (name : String) : Stage :=
  if name = "properties" then schemas
  else if name = "items" then schema
  else if name = "allOf" then branches
  else if name = "additionalProperties" then value
  else untouched

/-- The stage of what a step leads to. -/
def next : Stage → Step → Stage
  | document, .key name =>
    if name = "components" then components
    else if name = "definitions" then schemas else untouched
  | components, .key name => if name = "schemas" then schemas else untouched
  | schemas, .key _ => schema
  | schema, .key name => keyword name
  | value, .key name => keyword name
  | branches, .index _ => schema
  | part, .key name => if name = "schema" then schema else part
  | part, .index _ => part
  | _, _ => untouched

/-- The stage of what a path leads to. -/
def along (stage : Stage) (path : Path) : Stage := path.foldl next stage

@[simp] lemma along_nil (stage : Stage) : stage.along [] = stage := rfl

@[simp] lemma along_cons (stage : Stage) (s : Step) (path : Path) :
    stage.along (s :: path) = (stage.next s).along path := rfl

lemma along_append (stage : Stage) (path path' : Path) :
    stage.along (path ++ path') = (stage.along path).along path' := List.foldl_append

@[simp] lemma along_concat (stage : Stage) (path : Path) (s : Step) :
    stage.along (path ++ [s]) = (stage.along path).next s := by
  rw [along_append, along_cons, along_nil]

@[simp] lemma untouched_along (path : Path) : untouched.along path = untouched := by
  induction path with
  | nil => rfl
  | cons s path ih => cases s <;> exact ih

lemma next_eq_part {stage : Stage} {s : Step} :
    stage.next s = part ↔ stage = part ∧ s ≠ .key "schema" := by
  cases s with
  | index i => cases stage <;> simp [next]
  | key name =>
    have hkeyword : keyword name ≠ part := by
      rw [keyword]
      split_ifs <;> simp
    cases stage <;> simp [next, hkeyword]
    all_goals split_ifs <;> simp

lemma along_eq_part {stage : Stage} {path : Path} :
    stage.along path = part ↔ stage = part ∧ .key "schema" ∉ path := by
  induction path using List.reverseRecOn with
  | nil => simp
  | append_singleton path s ih =>
    rw [along_concat, next_eq_part, ih, List.mem_append, List.mem_singleton, not_or, ne_comm,
      and_assoc]

/-! ### Sweeping a value -/

lemma plainSchema_leaf {v : Json} (hentries : v.entries? = none) (hbool : v.isBool = false) :
    plainSchema v = v := by
  cases v with
  | obj members => cases hentries
  | bool b => cases hbool
  | _ => rw [plainSchema] <;> simp

lemma plainValue_eq (flagged : Bool) (v : Json) :
    plainValue flagged v = if flagged = true ∧ v.isBool = true then v else plainSchema v := by
  cases v with
  | bool b => cases flagged <;> simp [plainValue, plainSchema, Json.isBool]
  | obj members => simp [plainValue, plainSchema, Json.isBool]
  | _ => rw [plainSchema_leaf rfl rfl, ite_self, plainValue] <;> simp

lemma plainValues_eq (members : List (String × Json)) :
    plainValues members = Entries.mapValues plainSchema members := by
  induction members with
  | nil => rw [plainValues, Entries.mapValues, List.map_nil]
  | cons m rest ih => rw [plainValues, ih, Entries.mapValues, Entries.mapValues, List.map_cons]

lemma plainItems_eq (items : List Json) : plainItems items = items.map plainSchema := by
  induction items with
  | nil => rw [plainItems, List.map_nil]
  | cons item rest ih => rw [plainItems, ih, List.map_cons]

lemma plainPartItems_eq (items : List Json) : plainPartItems items = items.map plainParts := by
  induction items with
  | nil => rfl
  | cons item rest ih => rw [plainPartItems, ih, List.map_cons]

lemma apply_keyword (name : String) (v : Json) :
    (keyword name).apply v = plainKeyword name v := by
  rw [plainKeyword.eq_def, keyword]
  by_cases hproperties : name = "properties"
  · rw [if_pos hproperties, if_pos hproperties]
    cases v with
    | obj members => exact congrArg Json.obj (plainValues_eq members).symm
    | _ => rfl
  rw [if_neg hproperties, if_neg hproperties]
  by_cases hallOf : name = "allOf"
  · have hitems : name ≠ "items" := by simp [hallOf]
    rw [if_pos hallOf, if_neg hitems, if_pos hallOf]
    cases v with
    | arr items => exact congrArg Json.arr (plainItems_eq items).symm
    | _ => rfl
  rw [if_neg hallOf, if_neg hallOf]
  by_cases hitems : name = "items"
  · rw [if_pos hitems, if_pos hitems, plainValue_eq, if_neg (by simp)]
    rfl
  rw [if_neg hitems, if_neg hitems]
  split <;> rfl

lemma plainMembers_eq (members : List (String × Json)) :
    plainMembers members = members.map fun m => (m.1, (keyword m.1).apply m.2) := by
  induction members with
  | nil => rw [plainMembers, List.map_nil]
  | cons m rest ih => rw [plainMembers, List.map_cons, ih, apply_keyword]

lemma plainPartMembers_eq (members : List (String × Json)) :
    plainPartMembers members = members.map fun m => (m.1, (part.next (.key m.1)).apply m.2) := by
  induction members with
  | nil => rfl
  | cons m rest ih =>
    rw [plainPartMembers, List.map_cons, ih, next]
    split <;> rfl

/-- A stage changes each member of an object by the stage of its key. -/
lemma apply_obj (stage : Stage) (members : List (String × Json)) :
    stage.apply (.obj members) =
      .obj (members.map fun m => (m.1, (stage.next (.key m.1)).apply m.2)) := by
  cases stage with
  | document =>
    rw [apply, Json.modify_obj, Json.modify_obj, List.map_map]
    congr 1
    refine List.map_congr_left fun m _ => ?_
    by_cases hcomponents : m.1 = "components"
    · simp [next, hcomponents, apply]
    by_cases hdefinitions : m.1 = "definitions"
    · simp [next, hdefinitions, apply]
    · simp [next, hcomponents, hdefinitions, apply]
  | components =>
    rw [apply, Json.modify_obj]
    congr 1
    refine List.map_congr_left fun m _ => ?_
    by_cases hschemas : m.1 = "schemas"
    · simp [next, hschemas, apply]
    · simp [next, hschemas, apply]
  | schemas => rfl
  | schema =>
    rw [apply, plainSchema, plainMembers_eq]
    rfl
  | value =>
    rw [apply, plainValue, plainMembers_eq]
    rfl
  | part => exact congrArg Json.obj (plainPartMembers_eq members)
  | branches | untouched => exact congrArg Json.obj (List.map_id members).symm

/-- A stage changes each item of an array by the stage of items. -/
lemma apply_arr (stage : Stage) (items : List Json) (i : Nat) :
    stage.apply (.arr items) = .arr (items.map (stage.next (.index i)).apply) := by
  have hid : items.map (untouched.apply) = items := List.map_id items
  cases stage with
  | branches => rfl
  | part => exact congrArg Json.arr (plainPartItems_eq items)
  | schema => rw [apply, plainSchema_leaf rfl rfl, next, hid] <;> simp
  | value => rw [apply, plainValue_eq, if_neg (by simp [Json.isBool]), plainSchema_leaf rfl rfl,
      next, hid] <;> simp
  | document | components | schemas | untouched => exact congrArg Json.arr hid.symm

lemma apply_bool (stage : Stage) (b : Bool) :
    stage.apply (.bool b) = if stage = schema then ofBoolean b else .bool b := by
  cases stage with
  | schema => rw [apply, plainSchema, if_pos rfl]
  | value => rw [apply, plainValue, if_pos rfl, if_neg (by simp)]
  | _ => rfl

lemma apply_of_leaf (stage : Stage) {v : Json} (hentries : v.entries? = none)
    (hitems : v.items? = none) (hbool : v.isBool = false) : stage.apply v = v := by
  cases stage with
  | schema => exact plainSchema_leaf hentries hbool
  | value =>
    rw [apply, plainValue_eq, if_neg (by simp [hbool])]
    exact plainSchema_leaf hentries hbool
  | untouched => rfl
  | document | components | schemas | branches | part =>
    cases v with
    | obj members => cases hentries
    | arr items => cases hitems
    | _ => rfl

variable {stage : Stage} {v x : Json} {s : Step} {path : Path}

lemma isBool_apply (stage : Stage) (h : v.isBool = false) : (stage.apply v).isBool = false := by
  cases v with
  | obj members => rw [apply_obj]; rfl
  | arr items => rw [apply_arr stage items 0]; rfl
  | bool b => cases h
  | null | num _ | str _ => rwa [apply_of_leaf stage rfl rfl rfl]

lemma wellKeyed_apply (stage : Stage) (h : v.WellKeyed) : (stage.apply v).WellKeyed := by
  induction v using Json.induction_on generalizing stage with
  | obj members ih =>
    obtain ⟨nodup, hvalues⟩ := Json.wellKeyed_obj.1 h
    rw [apply_obj, Json.wellKeyed_obj]
    refine ⟨?_, fun m hm => ?_⟩
    · have hkeys : Entries.keys (members.map fun m => (m.1, (stage.next (.key m.1)).apply m.2)) =
          Entries.keys members := List.map_map
      rwa [hkeys]
    · obtain ⟨m', hm', rfl⟩ := List.mem_map.1 hm
      exact ih m' hm' _ (hvalues m' hm')
  | arr items ih =>
    rw [apply_arr stage items 0, Json.wellKeyed_arr]
    intro item hitem
    obtain ⟨item', hitem', rfl⟩ := List.mem_map.1 hitem
    exact ih item' hitem' _ (Json.wellKeyed_arr.1 h item' hitem')
  | leaf v hentries hitems =>
    cases v with
    | bool b =>
      rw [apply_bool]
      split
      · cases b <;> simp [ofBoolean, Json.WellKeyed, Json.WellKeyedEntries, Entries.keys]
      · exact trivial
    | _ => rwa [apply_of_leaf stage hentries hitems rfl]

/-! ### Steps and paths into a swept value -/

lemma child?_apply (stage : Stage) (s : Step) (hbool : v.isBool = false) :
    (stage.apply v).child? s = (v.child? s).map (stage.next s).apply := by
  cases v with
  | obj members =>
    rw [apply_obj]
    cases s with
    | key name =>
      exact Entries.get?_map (f := fun key v => (stage.next (.key key)).apply v) name members
    | index i => rfl
  | arr items =>
    cases s with
    | key name => rw [apply_arr stage items 0]; rfl
    | index i =>
      rw [apply_arr stage items i, Json.child?_index_arr, List.getElem?_map,
        Json.child?_index_arr]
  | bool b => cases hbool
  | null | num _ | str _ => rw [apply_of_leaf stage rfl rfl rfl]; cases s <;> rfl

lemma isBool_of_child? (h : v.child? s = some x) : v.isBool = false := by
  cases v with
  | bool b => cases s <;> cases h
  | _ => rfl

/-- What stands at a path of a swept value is the swept value that stood there. -/
lemma follow?_apply (stage : Stage) (h : v.follow? path = some x) :
    (stage.apply v).follow? path = some ((stage.along path).apply x) := by
  induction path generalizing stage v with
  | nil =>
    cases h
    rfl
  | cons s path ih =>
    obtain ⟨y, hy, hx⟩ := Option.bind_eq_some_iff.1 h
    rw [Json.follow?_cons, child?_apply stage s (isBool_of_child? hy), hy, Option.map_some,
      Option.bind_some, ih _ hx, along_cons]

/-- A step into a swept value leads to the swept value that the step leads to, or to a keyword of
the schema that a Boolean was replaced by. -/
lemma exists_child_of_apply (hchild : (stage.apply v).child? s = some x) :
    (∃ y, v.child? s = some y ∧ x = (stage.next s).apply y) ∨
      stage = schema ∧ ((s = .key "type" ∧ ∃ name, x = .str name) ∨
        (s = .key "additionalProperties" ∧ ∃ b, x = .bool b)) := by
  cases hbool : v.isBool with
  | false =>
    rw [child?_apply _ _ hbool] at hchild
    obtain ⟨u, hu, rfl⟩ := Option.map_eq_some_iff.1 hchild
    exact .inl ⟨u, hu, rfl⟩
  | true =>
    cases v with
    | bool b =>
      rw [apply_bool] at hchild
      split at hchild
      · next hschema =>
        refine .inr ⟨hschema, ?_⟩
        cases s with
        | index i => cases b <;> cases hchild
        | key name =>
          cases b with
          | true => cases hchild
          | false =>
            rw [ofBoolean, Json.child?_key, Json.get?_obj, Entries.get?_cons, Entries.get?_cons]
              at hchild
            split at hchild
            · next htype =>
              cases hchild
              exact .inl ⟨congrArg Step.key htype.symm, _, rfl⟩
            · split at hchild
              · next hadditional =>
                cases hchild
                exact .inr ⟨congrArg Step.key hadditional.symm, _, rfl⟩
              · cases hchild
      · cases s <;> cases hchild
    | _ => cases hbool

/-- Parts of a document without a key `schema` stay as they are. -/
lemma plainParts_eq_self (wellKeyed : v.WellKeyed)
    (clear : ∀ path : Path, v.follow? (path ++ [.key "schema"]) = none) : plainParts v = v := by
  change part.apply v = v
  induction v using Json.induction_on with
  | obj members ih =>
    obtain ⟨nodup, hvalues⟩ := Json.wellKeyed_obj.1 wellKeyed
    rw [apply_obj]
    refine congrArg Json.obj ((List.map_congr_left fun m hm => ?_).trans (List.map_id members))
    have hget := Entries.get?_of_mem nodup hm
    have hname : m.1 ≠ "schema" := by
      intro hname
      have hnone := clear []
      rw [List.nil_append, Json.follow?_cons, Json.child?_key, Json.get?_obj, ← hname,
        hget] at hnone
      cases hnone
    rw [next, if_neg hname, ih m hm (hvalues m hm) fun path => ?_]
    · rfl
    · have hnone := clear (.key m.1 :: path)
      rwa [List.cons_append, Json.follow?_cons, Json.child?_key, Json.get?_obj, hget] at hnone
  | arr items ih =>
    rw [apply_arr part items 0]
    refine congrArg Json.arr
      ((List.map_congr_left fun item hitem => ?_).trans (List.map_id items))
    refine ih item hitem (Json.wellKeyed_arr.1 wellKeyed item hitem) fun path => ?_
    obtain ⟨i, hi⟩ := List.getElem?_of_mem hitem
    have hnone := clear (.index i :: path)
    rwa [List.cons_append, Json.follow?_cons, Json.child?_index_arr, hi] at hnone
  | leaf v hentries hitems =>
    cases v with
    | obj members => cases hentries
    | arr items => cases hitems
    | _ => rfl

/-! ### Changes of a part -/

/-- A change of a part before a sweep is a change of the same part after the sweep. -/
lemma apply_modifyAt (stage : Stage) {f g : Json → Json} (wellKeyed : v.WellKeyed)
    (hx : v.follow? path = some x)
    (hfg : (stage.along path).apply (f x) = g ((stage.along path).apply x)) :
    stage.apply (v.modifyAt f path) = (stage.apply v).modifyAt g path := by
  induction path generalizing stage v with
  | nil =>
    cases hx
    exact hfg
  | cons s path ih =>
    obtain ⟨y, hy, hrest⟩ := Option.bind_eq_some_iff.1 hx
    cases v with
    | obj members =>
      obtain ⟨nodup, hvalues⟩ := Json.wellKeyed_obj.1 wellKeyed
      cases s with
      | index i => cases hy
      | key name =>
        rw [Json.modifyAt, Json.modify_obj, apply_obj, apply_obj, Json.modifyAt, Json.modify_obj,
          List.map_map, List.map_map]
        refine congrArg Json.obj (List.map_congr_left fun m hm => ?_)
        by_cases hname : m.1 = name
        · rw [Json.child?_key, Json.get?_obj, ← hname, Entries.get?_of_mem nodup hm] at hy
          have hm' : m.2 = y := Option.some.inj hy
          have hih := ih _ (hvalues m hm) (hm' ▸ hrest) hfg
          simp [hname, hih]
        · simp [hname]
    | arr items =>
      cases s with
      | key name => cases hy
      | index i =>
        rw [Json.modifyAt, apply_arr stage _ i, apply_arr stage items i, Json.modifyAt]
        refine congrArg Json.arr (List.ext_getElem? fun j => ?_)
        rw [List.getElem?_map, List.getElem?_modify, List.getElem?_modify, List.getElem?_map]
        by_cases hij : i = j
        · subst hij
          rw [Json.child?_index_arr] at hy
          have hih := ih _ (Json.wellKeyed_arr.1 wellKeyed y (List.mem_of_getElem? hy)) hrest hfg
          simp [hy, hih]
        · simp [hij]
    | _ => cases s <;> cases hy

/-- A sweep that comes to a Boolean schema writes it out. -/
lemma apply_writtenOut_of_schema (v : Json) : schema.apply (writtenOut v) = schema.apply v := by
  cases v with
  | bool b =>
    cases b <;> simp [writtenOut, apply, plainSchema, ofBoolean, plainMembers, plainKeyword,
      plainValue]
  | _ => rfl

/-- A sweep that comes to no schema there leaves what is written out as it is. -/
lemma apply_writtenOut (hschema : stage ≠ schema) (hschemas : stage ≠ schemas) (v : Json) :
    stage.apply (writtenOut v) = writtenOut (stage.apply v) := by
  cases hbool : v.isBool with
  | false =>
    have hkeep : ∀ u : Json, u.isBool = false → writtenOut u = u := by
      intro u hu
      cases u with
      | bool b => cases hu
      | _ => rfl
    rw [hkeep v hbool, hkeep _ (isBool_apply stage hbool)]
  | true =>
    cases v with
    | bool b =>
      rw [apply_bool, if_neg hschema, writtenOut, ofBoolean.eq_def]
      cases b with
      | true => exact apply_obj stage []
      | false =>
        dsimp only
        rw [apply_obj]
        cases stage with
        | schema => exact absurd rfl hschema
        | schemas => exact absurd rfl hschemas
        | _ => simp [next, keyword, apply, plainParts, plainValue]
    | _ => cases hbool

end Stage

end OpenApiDoc.Document
