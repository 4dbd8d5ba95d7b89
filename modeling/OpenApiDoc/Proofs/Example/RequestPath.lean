import OpenApiDoc.Proofs.Entries
import OpenApiDoc.Proofs.Example.Draft
import OpenApiDoc.Proofs.Example.PathTemplate

/-!
# The path of a request

The example of the path is rewritten parameter by parameter. Whatever the order of the
parameters is, the outcome is the template with all values put into its slots at once, and
behind it the query parameters in order. The invariant of the run is that the path is the text
of a template: a path parameter puts its value into the slots of its name, and a query parameter
adds a literal at the end.
-/

namespace OpenApiDoc.Example

/-- A parameter that a path can be expanded with: it has a schema and is no reference, and
its name holds no brace. -/
structure Expandable (p : Parameter) : Prop where
  reference : p.reference = none
  schema : p.schema.isSome
  name : BraceFree p.name.toList

namespace Generator

variable {g : Generator} {p : Parameter} {parameters : List Parameter} {pieces : List Piece}
  {examples found : List (String × Json)}

/-- Whether a parameter is put behind the path. -/
def showsInQuery (g : Generator) (p : Parameter) : Bool :=
  p.location = .query && (p.required || g.options.showsOptionalQuery)

/-- The entry holds the name and the value of a parameter. -/
def Values (g : Generator) (p : Parameter) (entry : String × Json) : Prop :=
  entry.1 = p.name ∧ ∃ s, p.schema = some s ∧ (g.parameterValue p s).result = some entry.2

/-! ### One parameter -/

/-- Whether the example of a parameter is finished does not depend on the examples before it. -/
lemma isSome_addParameter (examples : List (String × Json)) (p : Parameter) :
    (g.addParameter examples p).result.isSome ↔ (g.addParameter [] p).result.isSome := by
  rw [addParameter.eq_def, addParameter.eq_def]
  cases p.isBody <;> cases p.reference <;> cases p.schema <;> cases g.options.generates <;>
    simp [Option.isSome_map]

lemma addParameter_of_schema {s : Schema} (generates : g.options.generates = true)
    (notBody : p.location ≠ .body) (reference : p.reference = none)
    (schema : p.schema = some s) :
    g.addParameter examples p =
      (fun value => g.place p s value examples) <$> g.parameterValue p s := by
  simp [addParameter, Parameter.isBody, notBody, reference, schema, generates]

/-- A path parameter or a query parameter is placed with its value. -/
lemma exists_place_of_addParameter (generates : g.options.generates = true)
    (expandable : Expandable p) (notBody : p.location ≠ .body)
    (h : (g.addParameter examples p).result = some found) :
    ∃ s value, g.Values p (p.name, value) ∧ found = g.place p s value examples := by
  obtain ⟨s, schema⟩ := Option.isSome_iff_exists.1 expandable.schema
  rw [addParameter_of_schema generates notBody expandable.reference schema, Draft.result_map,
    Option.map_eq_some_iff] at h
  obtain ⟨value, hvalue, rfl⟩ := h
  exact ⟨s, value, ⟨rfl, s, schema, hvalue⟩, rfl⟩

lemma get?_path_insert_text (notPath : p.location ≠ .path) (value : Json) :
    Entries.get? "path" (Entries.insert p.location.text value examples) =
      Entries.get? "path" examples := by
  rw [Entries.get?_insert, if_neg]
  cases hlocation : p.location <;> simp_all [Location.text]

lemma get?_path_record (notPath : p.location ≠ .path) (value : Option Json) :
    Entries.get? "path" (record p examples value) = Entries.get? "path" examples := by
  rcases value with _ | value
  · rfl
  · exact get?_path_insert_text notPath value

lemma get?_path_place (notPath : p.location ≠ .path) (notQuery : p.location ≠ .query)
    (s : Schema) (value : Json) :
    Entries.get? "path" (g.place p s value examples) = Entries.get? "path" examples := by
  have htext : Entries.get? "path" (Entries.insert p.location.text value examples) =
      Entries.get? "path" examples := get?_path_insert_text notPath value
  rw [place]
  cases hlocation : p.location with
  | path => exact absurd hlocation notPath
  | query => exact absurd hlocation notQuery
  | header => exact Entries.get?_insert "header" "path" _ examples
  | _ =>
    rw [hlocation] at htext
    exact htext

/-- A parameter that goes elsewhere leaves the path as it is. -/
lemma get?_path_addParameter_of_other (notPath : p.location ≠ .path)
    (notQuery : p.location ≠ .query) (h : (g.addParameter examples p).result = some found) :
    Entries.get? "path" found = Entries.get? "path" examples := by
  rw [addParameter.eq_def] at h
  split at h
  · rw [Draft.result_map, Option.map_eq_some_iff] at h
    obtain ⟨value, -, rfl⟩ := h
    exact get?_path_record notPath value
  · split at h
    · rw [Draft.result_map, Option.map_eq_some_iff] at h
      obtain ⟨value, -, rfl⟩ := h
      exact get?_path_record notPath value
    · split at h
      · cases h
        rfl
      · next s _ =>
        split at h
        · rw [bind_pure_comp, Draft.result_map, Option.map_eq_some_iff] at h
          obtain ⟨value, -, rfl⟩ := h
          exact get?_path_place notPath notQuery s value
        · cases h
          rfl

/-! ### The run -/

/-- The run over the parameters is finished just if the example of each is. -/
lemma isSome_foldlM_addParameter :
    (parameters.foldlM g.addParameter examples).result.isSome ↔
      ∀ p ∈ parameters, (g.addParameter [] p).result.isSome := by
  induction parameters generalizing examples with
  | nil => simp
  | cons p rest ih =>
    rw [List.foldlM_cons, Draft.result_bind, List.forall_mem_cons,
      ← isSome_addParameter examples p]
    rcases (g.addParameter examples p).result with _ | found
    · simp
    · simpa using ih

/-- The path among examples is the text of a template. -/
def HasPath (examples : List (String × Json)) (text : List Char) : Prop :=
  Entries.get? "path" examples = some (.str (String.ofList text))

lemma HasPath.pathOf {text : List Char} (h : HasPath examples text) :
    (pathOf examples).toList = text := by
  rw [Example.pathOf, h, String.toList_ofList]

/-- A path parameter is put into the path in place of its placeholders. -/
lemma HasPath.place_path {text : List Char} {s : Schema} {value : Json}
    (h : HasPath examples text) (location : p.location = .path) :
    HasPath (g.place p s value examples)
      (Text.replace (placeholder p.name) (encodeValue value).toList text) := by
  rw [HasPath, place, location]
  dsimp only
  rw [Entries.get?_insert, if_pos rfl, expandPath, h.pathOf]

/-- A query parameter that is shown goes behind the path. -/
lemma HasPath.place_query {text : List Char} {s : Schema} {value : Json}
    (h : HasPath examples text) (location : p.location = .query)
    (shown : g.showsInQuery p = true) :
    HasPath (g.place p s value examples)
      (text ++ queryEntry (text.contains '?') p.name value) := by
  have wanted : (p.required || g.options.showsOptionalQuery) = true := by
    simpa [showsInQuery, location] using shown
  rw [HasPath, place, location]
  dsimp only
  rw [if_pos wanted, Entries.get?_insert, if_pos rfl, appendQuery, h.pathOf]
  congr 2
  apply String.toList_injective
  rw [String.toList_ofList]
  simp only [String.toList_append, h.pathOf, queryEntry]
  cases text.contains '?' <;> simp

/-- A path parameter puts its value into the slots of its name. -/
lemma hasPath_place_path {s : Schema} {value : Json} (location : p.location = .path)
    (hname : BraceFree p.name.toList) (plain : ∀ piece ∈ pieces, piece.Plain)
    (h : HasPath examples (templateText pieces)) :
    HasPath (g.place p s value examples)
      (templateText (pieces.map (Piece.put p.name (encodeValue value).toList))) := by
  rw [← replace_templateText plain hname]
  exact h.place_path location

/-- A query parameter that is shown adds a literal. -/
lemma hasPath_place_query {s : Schema} {value : Json} (location : p.location = .query)
    (shown : g.showsInQuery p = true) (plain : ∀ piece ∈ pieces, piece.Plain)
    (h : HasPath examples (templateText pieces)) :
    HasPath (g.place p s value examples)
      (templateText (pieces ++
        [.literal (queryEntry (pieces.any Piece.isMarked) p.name value)])) := by
  have hplaced : HasPath (g.place p s value examples) _ := h.place_query location shown
  rw [contains_templateText plain] at hplaced
  rw [templateText_append]
  simpa [templateText, Piece.text] using hplaced

/-- A query parameter that is not shown changes nothing. -/
lemma place_of_not_shown {s : Schema} {value : Json} (location : p.location = .query)
    (hidden : g.showsInQuery p = false) : g.place p s value examples = examples := by
  have unwanted : (p.required || g.options.showsOptionalQuery) = false := by
    simpa [showsInQuery, location] using hidden
  rw [place, location]
  dsimp only
  rw [unwanted]
  rfl

/-- The path among examples is a template with the values of the path parameters in its slots,
and behind it the query parameters that are shown, each in order. -/
def HasExpanded (g : Generator) (pieces : List Piece) (parameters : List Parameter)
    (examples : List (String × Json)) : Prop :=
  ∃ inPath inQuery,
    List.Forall₂ g.Values (parameters.filter fun p => p.location = .path) inPath ∧
    List.Forall₂ g.Values (parameters.filter g.showsInQuery) inQuery ∧
    HasPath examples (templateText (pieces.map (Piece.fill inPath)) ++
      queryText (pieces.any Piece.isMarked) inQuery)

lemma HasExpanded.nil (h : HasPath examples (templateText pieces)) :
    g.HasExpanded pieces [] examples := by
  refine ⟨[], [], .nil, .nil, ?_⟩
  rwa [Piece.map_fill_nil, queryText, List.append_nil]

/-- The first path parameter fills its slots before all others. -/
lemma HasExpanded.path {value : Json} (location : p.location = .path)
    (hvalue : g.Values p (p.name, value))
    (h : g.HasExpanded (pieces.map (Piece.put p.name (encodeValue value).toList)) parameters
      examples) :
    g.HasExpanded pieces (p :: parameters) examples := by
  obtain ⟨inPath, inQuery, hinPath, hinQuery, hpath⟩ := h
  refine ⟨(p.name, value) :: inPath, inQuery, ?_, ?_, ?_⟩
  · rw [List.filter_cons_of_pos (by simpa using location)]
    exact .cons hvalue hinPath
  · rwa [List.filter_cons_of_neg (by simp [showsInQuery, location])]
  · have hmark : '?' ∉ (encodeValue value).toList := by
      rw [encodeValue, String.toList_ofList]
      exact Text.Form.not_mem_encode (by decide) _
    rwa [Piece.map_fill_cons, ← Piece.any_isMarked_put hmark]

/-- The first query parameter that is shown goes before all others. -/
lemma HasExpanded.query {value : Json} (shown : g.showsInQuery p = true)
    (notPath : p.location ≠ .path) (hvalue : g.Values p (p.name, value))
    (h : g.HasExpanded
      (pieces ++ [.literal (queryEntry (pieces.any Piece.isMarked) p.name value)]) parameters
      examples) :
    g.HasExpanded pieces (p :: parameters) examples := by
  obtain ⟨inPath, inQuery, hinPath, hinQuery, hpath⟩ := h
  refine ⟨inPath, (p.name, value) :: inQuery, ?_, ?_, ?_⟩
  · rwa [List.filter_cons_of_neg (by simpa using notPath)]
  · rw [List.filter_cons_of_pos shown]
    exact .cons hvalue hinQuery
  · rw [any_isMarked_append_queryEntry, List.map_append, templateText_append] at hpath
    rw [queryText, ← List.append_assoc]
    simpa [templateText, Piece.text, Piece.fill] using hpath

lemma HasExpanded.other (notPath : p.location ≠ .path) (hidden : g.showsInQuery p = false)
    (h : g.HasExpanded pieces parameters examples) :
    g.HasExpanded pieces (p :: parameters) examples := by
  obtain ⟨inPath, inQuery, hinPath, hinQuery, hpath⟩ := h
  refine ⟨inPath, inQuery, ?_, ?_, hpath⟩
  · rwa [List.filter_cons_of_neg (by simpa using notPath)]
  · rwa [List.filter_cons_of_neg (by simp [hidden])]

/-- A run over parameters expands the path, whatever their order among each other is. -/
theorem hasExpanded_of_foldlM (generates : g.options.generates = true)
    (expandable : ∀ p ∈ parameters, p.location = .path ∨ p.location = .query → Expandable p)
    (plain : ∀ piece ∈ pieces, piece.Plain) (hpath : HasPath examples (templateText pieces))
    (h : (parameters.foldlM g.addParameter examples).result = some found) :
    g.HasExpanded pieces parameters found := by
  induction parameters generalizing pieces examples with
  | nil =>
    cases h
    exact .nil hpath
  | cons p rest ih =>
    obtain ⟨hp, hexpandable⟩ := List.forall_mem_cons.1 expandable
    rw [List.foldlM_cons, Draft.result_bind, Option.bind_eq_some_iff] at h
    obtain ⟨next, hstep, hrest⟩ := h
    by_cases inPath : p.location = .path
    · obtain ⟨s, value, hvalue, rfl⟩ :=
        exists_place_of_addParameter generates (hp (.inl inPath)) (by simp [inPath]) hstep
      have hput : ∀ piece ∈ pieces.map (Piece.put p.name (encodeValue value).toList),
          piece.Plain := by
        rw [List.forall_mem_map]
        exact fun piece hpiece => (plain piece hpiece).put (braceFree_encodeValue value)
      have hname : BraceFree p.name.toList := (hp (.inl inPath)).name
      exact .path inPath hvalue
        (ih hexpandable hput (hasPath_place_path inPath hname plain hpath) hrest)
    · by_cases inQuery : p.location = .query
      · obtain ⟨s, value, hvalue, rfl⟩ :=
          exists_place_of_addParameter generates (hp (.inr inQuery)) (by simp [inQuery]) hstep
        cases shown : g.showsInQuery p with
        | false =>
          rw [place_of_not_shown inQuery shown] at hrest
          exact .other inPath shown (ih hexpandable plain hpath hrest)
        | true =>
          have hadded : ∀ piece ∈ pieces ++
              [.literal (queryEntry (pieces.any Piece.isMarked) p.name value)], piece.Plain := by
            rw [List.forall_mem_append, List.forall_mem_singleton]
            exact ⟨plain, braceFree_queryEntry _ (hp (.inr inQuery)).name value⟩
          exact .query shown inPath hvalue
            (ih hexpandable hadded (hasPath_place_query inQuery shown plain hpath) hrest)
      · have hkept := get?_path_addParameter_of_other inPath inQuery hstep
        have hidden : g.showsInQuery p = false := by simp [showsInQuery, inQuery]
        exact .other inPath hidden (ih hexpandable plain (hkept.trans hpath) hrest)

/-- With generation on, the example of a path is its template with the values of all path
parameters put into the slots at once, followed by the query parameters that are shown. The
values are those of the parameters themselves, and the examples are finished just if those
of all parameters are. -/
theorem requestExamples_path {o : Operation} (generates : g.options.generates = true)
    (path : o.path.toList = templateText pieces) (plain : ∀ piece ∈ pieces, piece.Plain)
    (expandable : ∀ p ∈ o.parameters, p.location = .path ∨ p.location = .query → Expandable p) :
    ((g.requestExamples o).result.isSome ↔
      ∀ p ∈ o.parameters, (g.addParameter [] p).result.isSome) ∧
    ∀ examples, (g.requestExamples o).result = some examples →
      g.HasExpanded pieces o.parameters examples := by
  have hpath : HasPath [("path", .str o.path)] (templateText pieces) := by
    rw [HasPath, ← path, String.ofList_toList]
    rfl
  constructor
  · exact isSome_foldlM_addParameter
  · intro examples h
    rw [requestExamples, if_pos generates] at h
    exact hasExpanded_of_foldlM generates expandable plain hpath h

/-- A request for a toy of a pet. The name of the toy reads like a placeholder. -/
def toyRequest : Operation where
  method := .get
  path := "/pets/\x7bid\x7d/toys/\x7btoy\x7d"
  parameters :=
    [{ name := "limit", required := true, schema := some { type := some (.single "integer") } },
      { name := "toy", written := some .path, schema := some {},
        authored := some (.str "\x7bid\x7d?") },
      { name := "trace", written := some .header, schema := some {} },
      { name := "id", written := some .path, schema := some {}, authored := some (.str "7 a") },
      { name := "page", required := true, schema := some {}, authored := some (.str "&") }]

/-- The path of the request in pieces. -/
def toyPath : List Piece :=
  [.literal "/pets/".toList, .slot "id", .literal "/toys/".toList, .slot "toy"]

/-- A generator without definitions. -/
def generating : Generator := { definitions := .empty, options := { generates := true } }

theorem requestExamples_path_toyRequest :
    ∃ examples, (generating.requestExamples toyRequest).result = some examples ∧
      generating.HasExpanded toyPath toyRequest.parameters examples ∧
      Entries.get? "path" examples =
        some (.str "/pets/7+a/toys/%7Bid%7D%3F?limit=0&page=%26") := by
  have plain : ∀ piece ∈ toyPath, piece.Plain := by
    simp [toyPath, Piece.Plain, BraceFree]
  have expandable : ∀ p ∈ toyRequest.parameters,
      p.location = .path ∨ p.location = .query → Expandable p := by
    simp only [toyRequest, List.forall_mem_cons, List.not_mem_nil, IsEmpty.forall_iff,
      implies_true, and_true]
    refine ⟨?_, ?_, ?_, ?_, ?_⟩ <;> intro _ <;> exact ⟨rfl, rfl, by decide⟩
  obtain ⟨finished, hexpanded⟩ := requestExamples_path (g := generating) rfl
    (show toyRequest.path.toList = templateText toyPath by decide) plain expandable
  have hpath : (generating.requestExamples toyRequest).result.map (Entries.get? "path") =
      some (some (.str "/pets/7+a/toys/%7Bid%7D%3F?limit=0&page=%26")) := rfl
  obtain ⟨examples, hexamples, hpath⟩ := Option.map_eq_some_iff.1 hpath
  exact ⟨examples, hexamples, hexpanded examples hexamples, hpath⟩

end Generator

end OpenApiDoc.Example
