import OpenApiDoc.Proofs.Document.DistinctNames
import OpenApiDoc.Proofs.Document.Parts
import OpenApiDoc.Proofs.Document.Unified
import OpenApiDoc.Proofs.Example.Form
import OpenApiDoc.Proofs.Example.Visits

/-!
# Definitions of constants

A definition that is nothing but a constant is read as the enumeration of this one value,
with the type of the value. It can always be decoded, and where examples are generated, its
example is the constant: unless the constant is an array, for an array has the example of its
items, and none are given.
-/

namespace OpenApiDoc

/-- The schema that a constant is read as. -/
def constantSchema (c : Json) : Schema :=
  { type := (Document.typeNameOf c).map .single, enum := some [c] }

/-- The example of a constant. -/
def exampleOfConstant : Json → Json
  | .arr _ => .arr [.obj []]
  | c => c

/-! ### The example -/

namespace Example.Generator

variable {g : Generator} {recur : Recur} {visits : Visits} {c : Json} {name : String}

lemma bare_constantSchema (c : Json) : Bare (constantSchema c) := ⟨rfl, rfl, rfl⟩

lemma step_constantSchema (c : Json) :
    g.step recur visits (constantSchema c) = pure (exampleOfConstant c) := by
  have henumerated : (constantSchema c).isArray = false →
      g.step recur visits (constantSchema c) = pure c :=
    fun noArray => step_of_enumerated (bare_constantSchema c) noArray (fun _ => rfl) rfl
  cases c with
  | arr items => exact step_of_itemless (bare_constantSchema _) rfl rfl
  | num n => cases n <;> exact henumerated rfl
  | _ => exact henumerated rfl

lemma result_definitionExample_of_constant (generates : g.options.generates = true)
    (get : g.definitions.get? name = some (constantSchema c)) :
    (g.definitionExample name).result = some (some (exampleOfConstant c)) := by
  have hauthored : (constantSchema c).authored = none := rfl
  obtain ⟨inner, enter⟩ : ∃ inner, ({} : Visits).enter name g.options.limit = some inner :=
    Visits.enter_of_lt g.options.limit.pos
  obtain ⟨depth, hdepth⟩ := g.exists_depth 0
  simp only [definitionExample, get, hauthored, generates, if_true]
  rw [referenceExample_of_entered get hauthored enter, hdepth, exampleWithin,
    step_constantSchema]
  rfl

end Example.Generator

namespace Document

open Json (Step Path)

variable {c d : Json} {name : String}

/-! ### Rewriting and decoding -/

/-- The schema that holds a constant and nothing else. -/
def constant (c : Json) : Json := .obj [("const", c)]

lemma get?_constant (c : Json) : (constant c).get? "const" = some c := rfl

lemma decode_withoutConst_constant (c : Json) :
    Schema.decode (withoutConst (constant c)) = .ok (constantSchema c) := by
  cases c with
  | num n => cases n <;> rfl
  | _ => rfl

/-! ### Where a definition stands -/

/-- The definition of a name as it is written; the older section goes before the newer one. -/
def definition? (d : Json) (name : String) : Option Json :=
  (d.follow? [.key "definitions", .key name]).or
    (d.follow? [.key "components", .key "schemas", .key name])

lemma get?_membersAt (D : Json) (path : List String) (name : String) :
    Entries.get? name (membersAt D path) = D.follow? (path.map .key ++ [.key name]) := by
  induction path generalizing D with
  | nil =>
    cases D with
    | obj members => exact (Option.bind_fun_some _).symm
    | _ => rfl
  | cons key rest ih =>
    rw [List.map_cons, List.cons_append, Json.follow?_cons, Json.child?_key]
    cases hget : D.get? key with
    | none => simp [membersAt, Json.at?, hget]
    | some v =>
      rw [Option.bind_some, ← ih]
      simp [membersAt, Json.at?, hget]

lemma nodup_keys_membersAt {D : Json} (wellKeyed : D.WellKeyed) (path : List String) :
    (Entries.keys (membersAt D path)).Nodup := by
  induction path generalizing D with
  | nil =>
    cases D with
    | obj members => exact (Json.wellKeyed_obj.1 wellKeyed).1
    | _ => exact List.nodup_nil
  | cons key rest ih =>
    cases hget : D.get? key with
    | none => simp [membersAt, Json.at?, hget, Entries.keys]
    | some v => simpa [membersAt, Json.at?, hget] using ih (wellKeyed.get? hget)

lemma get?_reverse {α : Type} {entries : List (String × α)}
    (nodup : (Entries.keys entries).Nodup) (name : String) :
    Entries.get? name entries.reverse = Entries.get? name entries :=
  (Entries.get?_perm entries.reverse_perm.symm nodup name).symm

/-- Of the parts of a document that define a name, the last one is that of the older section. -/
lemma get?_definitions_parts (wellKeyed : d.WellKeyed) (name : String) :
    Entries.get? name ((parts (unified d)).filterMap RawPart.definition?).reverse =
      definition? (unlifted d) name := by
  have hwell := wellKeyed_unlifted wellKeyed
  rw [definitions_parts, List.flatMap_cons, List.flatMap_cons, List.flatMap_nil, List.append_nil,
    membersAt_unified (by simp), membersAt_unified (by simp), List.reverse_append,
    Entries.get?_append, get?_reverse (nodup_keys_membersAt hwell _),
    get?_reverse (nodup_keys_membersAt hwell _), get?_membersAt, get?_membersAt]
  rfl

/-! ### A constant before lifting -/

lemma apply_constant {stage : Stage} (h : (stage.next (.key "const")).apply c = c) :
    stage.apply (constant c) = constant c := by
  rw [constant, Stage.apply_obj, List.map_singleton, h]

/-- No sweep changes a definition that is a constant. -/
lemma swept_constant (wellKeyed : c.WellKeyed)
    (clear : ∀ path : Path, c.follow? (path ++ [.key "schema"]) = none) {path : Path}
    (hpath : path = [.key "definitions"] ∨ path = [.key "components", .key "schemas"])
    (name : String) : swept (path ++ [.key name]) (constant c) = constant c := by
  have hdocument : Stage.document.along (path ++ [.key name]) = .schema := by
    rcases hpath with rfl | rfl <;> simp [Stage.next]
  have hpart : Stage.part.along (path ++ [.key name]) =
      if name = "schema" then .schema else .part := by
    rcases hpath with rfl | rfl <;> simp [Stage.next]
  have hconst : Stage.schema.next (.key "const") = .untouched := by
    simp [Stage.next, Stage.keyword]
  rw [swept, hdocument, hpart, apply_constant (by rw [hconst]; rfl)]
  apply apply_constant
  by_cases hname : name = "schema"
  · rw [if_pos hname, hconst]
    rfl
  · rw [if_neg hname]
    exact Stage.plainParts_eq_self wellKeyed clear

/-- A definition that is a constant is rewritten where it stands. -/
lemma follow?_unlifted_constant (wellKeyed : d.WellKeyed) (named : holdsData name = false)
    (clear : ∀ path : Path, c.follow? (path ++ [.key "schema"]) = none) {path : Path}
    (hpath : path = [.key "definitions"] ∨ path = [.key "components", .key "schemas"])
    (hv : d.follow? (path ++ [.key name]) = some (constant c)) :
    (unlifted d).follow? (path ++ [.key name]) = some (withoutConst (constant c)) := by
  have hany : (path ++ [Step.key name]).any entersData = false := by
    rcases hpath with rfl | rfl <;> simp [entersData, named] <;> decide
  have kept : Kept (path ++ [.key name]) := by
    rw [Kept, List.find?_eq_none.2 (List.any_eq_false.1 hany)]
    simp
  have hc : c.WellKeyed := (wellKeyed.follow? hv).get? (get?_constant c)
  rw [follow?_unlifted wellKeyed hv kept, swept_constant hc clear hpath,
    rewrittenAt_of_not_any hany]

lemma decode_ne_ok_of_made {p : Path} {x : Json} (made : Made p (.schema false) x) (s : Schema) :
    Schema.decode x ≠ .ok s := by
  cases made with
  | type _ word => nofun
  | enum value _ => nofun

/-- What the passes put among the definitions is no schema. -/
lemma decode_ne_ok_of_unwritten {x : Json} (wellKeyed : d.WellKeyed)
    (unwritten : d.follow? [.key "definitions", .key name] = none)
    (hx : (unlifted d).follow? [.key "definitions", .key name] = some x) (s : Schema) :
    Schema.decode x ≠ .ok s := by
  have hkept : Kept [.key "definitions"] := by
    simp [Kept, entersData, holdsData]
  have hlast : [Step.key "definitions", .key name] = [.key "definitions"] ++ [.key name] := rfl
  rw [hlast] at hx unwritten
  cases hdefinitions : d.follow? [.key "definitions"] with
  | some v =>
    have stem : ReadFrom d .schemas [.key "definitions"] [.key "definitions"] :=
      .step .document .definitions (by rw [List.nil_append, hdefinitions]; rfl)
    rcases exists_written_or_made wellKeyed stem hkept hx with ⟨written, -⟩ | ⟨-, -, made⟩
    · rw [unwritten] at written
      cases written
    · exact decode_ne_ok_of_made (made _ (.schema name)) s
  | none =>
    obtain ⟨y, hy, hchild⟩ := Json.follow?_concat_eq_some.1 hx
    rw [← List.nil_append [Step.key "definitions"]] at hy
    have hroot : Kept [] := by simp [Kept]
    rcases exists_written_or_made wellKeyed .document hroot hy with ⟨written, -⟩ | ⟨-, -, made⟩
    · rw [List.nil_append, hdefinitions] at written
      cases written
    · cases made _ .definitions <;> cases hchild

/-- The definition of a name that is decoded is the rewritten constant. -/
lemma decoded_constant (wellKeyed : d.WellKeyed)
    (named : holdsData name = false)
    (clear : ∀ path : Path, c.follow? (path ++ [.key "schema"]) = none)
    (defined : definition? d name = some (constant c)) :
    ∃ x, definition? (unlifted d) name = some x ∧
      ∀ s, Schema.decode x = .ok s → x = withoutConst (constant c) := by
  rcases Option.or_eq_some_iff.1 defined with hold | ⟨hnone, hnew⟩
  · have hx := follow?_unlifted_constant wellKeyed named clear (.inl rfl) hold
    refine ⟨withoutConst (constant c), ?_, fun _ _ => rfl⟩
    exact Option.or_eq_some_iff.2 (.inl hx)
  · have hx := follow?_unlifted_constant wellKeyed named clear (.inr rfl) hnew
    cases hmade : (unlifted d).follow? [.key "definitions", .key name] with
    | none =>
      refine ⟨withoutConst (constant c), ?_, fun _ _ => rfl⟩
      exact Option.or_eq_some_iff.2 (.inr ⟨hmade, hx⟩)
    | some x =>
      refine ⟨x, Option.or_eq_some_iff.2 (.inl hmade), fun s hs => ?_⟩
      exact absurd hs (decode_ne_ok_of_unwritten wellKeyed hnone hmade s)

/-- The part of a document that is the rewritten constant has no fault. -/
lemma fault?_constant {p : RawPart}
    (h : p.definition? = some (name, withoutConst (constant c))) : p.fault? = none := by
  obtain ⟨kind, location, v⟩ := p
  cases kind with
  | definition other =>
    obtain ⟨-, rfl⟩ := Prod.mk.inj (Option.some.inj h)
    rw [RawPart.fault?, PartKind.fault?, Decoder.fault?, decode_withoutConst_constant]
  | _ => cases h

/-! ### Loading -/

/-- A loaded document defines what the constant is read as. -/
lemma get?_definitions_constant {loaded : Noted Document} (wellKeyed : d.WellKeyed)
    (named : holdsData name = false)
    (clear : ∀ path : Path, c.follow? (path ++ [.key "schema"]) = none)
    (defined : definition? d name = some (constant c))
    (hloaded : ofUnified (unified d) = .ok loaded) :
    loaded.value.definitions.get? name = some (constantSchema c) := by
  obtain ⟨x, hx, hconstant⟩ := decoded_constant wellKeyed named clear defined
  have hschema := ((inOrder_ofUnified (unified d)).holds hloaded).schemas name
  rw [get?_definitions_parts wellKeyed, hx] at hschema
  generalize loaded.value.definitions.get? name = found at hschema ⊢
  cases hschema with
  | @some _ s hdecode =>
    rw [hconstant s hdecode, decode_withoutConst_constant] at hdecode
    cases hdecode
    rfl

/-- A document of one definition. -/
def soleDefinition (name : String) (v : Json) : Json :=
  .obj [("components", .obj [("schemas", .obj [(name, v)])])]

lemma withoutConst_soleDefinition (named : holdsData name = false) (v : Json) :
    withoutConst (soleDefinition name v) = soleDefinition name (withoutConst v) := by
  have hname : name ≠ "const" := by
    rintro rfl
    cases named
  have hcomponents : holdsData "components" = false := by decide
  have hschemas : holdsData "schemas" = false := by decide
  simp [soleDefinition, withoutConst, withoutConstMembers, constToEnum, Entries.get?,
    named, hname, hcomponents, hschemas]

/-- No sweep changes a document that defines a constant. -/
lemma withoutBooleanSchemas_soleDefinition (wellKeyed : c.WellKeyed)
    (clear : ∀ path : Path, c.follow? (path ++ [.key "schema"]) = none) (name : String) :
    withoutBooleanSchemas (soleDefinition name (constant c)) =
      soleDefinition name (constant c) := by
  have hswept := swept_constant wellKeyed clear (.inr rfl) name
  change Stage.part.apply (Stage.document.apply _) = _
  simp only [soleDefinition, Stage.apply_obj, List.map_cons, List.map_nil]
  exact congrArg (soleDefinition name) hswept

lemma parts_soleDefinition (name : String) (v : Json) : parts (lifted (soleDefinition name v)) =
    [⟨.definition name, ".".intercalate ["components", "schemas"] ++ "." ++ name, v⟩] := by
  rfl

/-- A document that defines a constant loads. -/
lemma exists_load_soleDefinition (named : holdsData name = false) (wellKeyed : c.WellKeyed)
    (clear : ∀ path : Path, c.follow? (path ++ [.key "schema"]) = none) :
    ∃ loaded, load (soleDefinition name (constant c)) = .ok loaded := by
  have hunified : unified (soleDefinition name (constant c)) =
      lifted (soleDefinition name (withoutConst (constant c))) := by
    rw [← withoutConst_soleDefinition named]
    conv_rhs => rw [← withoutBooleanSchemas_soleDefinition wellKeyed clear name]
    rfl
  apply (inOrder_ofUnified (unified (soleDefinition name (constant c)))).isOk_iff.2
  rw [hunified, parts_soleDefinition, firstFault?_eq_none]
  intro p hp
  rw [List.mem_singleton.1 hp]
  exact fault?_constant rfl

lemma load_eq_of_defined {v : Json} (defined : definition? d name = some v) :
    load d = ofUnified (unified d) := by
  cases d with
  | obj members => rfl
  | _ => cases defined

/-- A definition that is nothing but a constant can be loaded by itself, and it never keeps a
document from being loaded. Where examples are generated, its example is the constant; that of an
array is an array of one empty object. -/
theorem definition_of_constant (wellKeyed : d.WellKeyed) (named : holdsData name = false)
    (clear : ∀ path : Path, c.follow? (path ++ [.key "schema"]) = none)
    (defined : definition? d name = some (constant c)) :
    (∃ loaded, load (soleDefinition name (constant c)) = .ok loaded) ∧
    ((∃ loaded, load d = .ok loaded) ↔ ∀ p ∈ parts (unified d),
      p.definition? ≠ some (name, withoutConst (constant c)) → p.fault? = none) ∧
    ∀ loaded, load d = .ok loaded → ∀ options : Example.Options, options.generates = true →
      (Example.Generator.definitionExample ⟨loaded.value.definitions, options⟩ name).result =
        some (some (exampleOfConstant c)) := by
  have hc : c.WellKeyed := by
    rcases Option.or_eq_some_iff.1 defined with hv | ⟨-, hv⟩ <;>
      exact (wellKeyed.follow? hv).get? (get?_constant c)
  rw [load_eq_of_defined defined]
  refine ⟨exists_load_soleDefinition named hc clear, ?_, ?_⟩
  · rw [(inOrder_ofUnified (unified d)).isOk_iff, firstFault?_eq_none]
    refine ⟨fun h p hp _ => h p hp, fun h p hp => ?_⟩
    by_cases hconstant : p.definition? = some (name, withoutConst (constant c))
    · exact fault?_constant hconstant
    · exact h p hp hconstant
  · intro loaded hloaded options generates
    apply Example.Generator.result_definitionExample_of_constant generates
    exact get?_definitions_constant wellKeyed named clear defined hloaded

lemma follow?_str (text : String) (path : Path) (key : String) :
    (Json.str text).follow? (path ++ [.key key]) = none := by
  cases path with
  | nil => rfl
  | cons s rest => cases s <;> rfl

lemma wellKeyed_soleDefinition (name : String) (wellKeyed : c.WellKeyed) :
    (soleDefinition name (constant c)).WellKeyed := by
  simp [soleDefinition, constant, Json.WellKeyed, Json.WellKeyedEntries, Entries.keys, wellKeyed]

theorem definition_of_constant_color :
    ∃ loaded, load (soleDefinition "Color" (constant (.str "red"))) = .ok loaded ∧
      (Example.Generator.definitionExample ⟨loaded.value.definitions, { generates := true }⟩
        "Color").result = some (some (.str "red")) := by
  have wellKeyed : (soleDefinition "Color" (constant (.str "red"))).WellKeyed :=
    wellKeyed_soleDefinition "Color" (by simp [Json.WellKeyed])
  have clear : ∀ path : Path, (Json.str "red").follow? (path ++ [.key "schema"]) = none :=
    fun path => follow?_str "red" path "schema"
  have defined : definition? (soleDefinition "Color" (constant (.str "red"))) "Color" =
      some (constant (.str "red")) := rfl
  obtain ⟨⟨loaded, hloaded⟩, -, hexample⟩ := definition_of_constant wellKeyed rfl clear defined
  exact ⟨loaded, hloaded, hexample loaded hloaded _ rfl⟩

/-- The example of a constant array is not the array. -/
theorem constant_array_lost :
    (∀ path : Path, (Json.arr [.str "red"]).follow? (path ++ [.key "schema"]) = none) ∧
    ∃ loaded, load (soleDefinition "Colors" (constant (.arr [.str "red"]))) = .ok loaded ∧
      (Example.Generator.definitionExample ⟨loaded.value.definitions, { generates := true }⟩
        "Colors").result ≠ some (some (.arr [.str "red"])) := by
  have clear : ∀ path : Path,
      (Json.arr [.str "red"]).follow? (path ++ [.key "schema"]) = none := by
    intro path
    cases path with
    | nil => rfl
    | cons s rest =>
      cases s with
      | key name => rfl
      | index i =>
        cases i with
        | zero => exact follow?_str "red" rest "schema"
        | succ i => rfl
  have hc : (Json.arr [.str "red"]).WellKeyed := by simp [Json.WellKeyed, Json.WellKeyedItems]
  obtain ⟨loaded, hloaded⟩ : ∃ loaded,
      load (soleDefinition "Colors" (constant (.arr [.str "red"]))) = .ok loaded :=
    exists_load_soleDefinition rfl hc clear
  refine ⟨clear, loaded, hloaded, ?_⟩
  rw [Example.Generator.result_definitionExample_of_constant rfl
    (get?_definitions_constant (wellKeyed_soleDefinition "Colors" hc) rfl clear rfl hloaded)]
  simp [exampleOfConstant]

end Document

end OpenApiDoc
