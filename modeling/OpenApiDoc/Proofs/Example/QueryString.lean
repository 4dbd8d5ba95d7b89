import OpenApiDoc.Proofs.Example.RequestPath
import OpenApiDoc.Proofs.Text.FormDecoding

/-!
# The query of a request

The query parameters of a request stand behind its path, and a reader of forms finds the name and
the value of each, in order, just if every name means itself in a query. The values are written
so that they are read back; the names are written as they are.

The invariant of the run over the parameters is that the path consists of a base without question
mark and of the query parameters so far. A path parameter that comes later is put into the base
alone, as long as no name in the query holds a brace.
-/

namespace OpenApiDoc.Example

/-! ### Values that are read -/

example : encodeValue (.str "a b+c%20é") = "a+b%2Bc%2520%C3%A9" := by decide

/-! ### Queries that are read -/

lemma queryText_concat (marked : Bool) (entries : List (String × Json)) (name : String)
    (value : Json) :
    queryText marked (entries ++ [(name, value)]) =
      queryText marked entries ++ queryEntry (marked || !entries.isEmpty) name value := by
  induction entries generalizing marked with
  | nil => simp [queryText]
  | cons e entries ih =>
    rw [List.cons_append, queryText, queryText, ih, List.append_assoc]
    simp

/-- The text of a query parameter in the path. -/
lemma queryEntry_eq (marked : Bool) (name : String) (value : Json) :
    queryEntry marked name value =
      (if marked then '&' else '?') :: Text.Form.part name.toList (valueText value).toList := by
  rw [queryEntry, encodeValue, String.toList_ofList]
  rfl

/-- The name and the value of a query parameter as texts. -/
def entryTexts (entry : String × Json) : List Char × List Char :=
  (entry.1.toList, (valueText entry.2).toList)

lemma decodePairs_append_queryText (text : List Char) (entries : List (String × Json)) :
    Text.Form.decodePairs (text ++ queryText true entries) =
      Text.Form.decodePairs text ++ entries.flatMap fun e =>
        Text.Form.decodePairs (Text.Form.part e.1.toList (valueText e.2).toList) := by
  induction entries generalizing text with
  | nil => simp [queryText]
  | cons e entries ih =>
    rw [queryText, queryEntry_eq, if_pos rfl, List.cons_append, Text.Form.decodePairs_append, ih,
      List.flatMap_cons]

/-- Parts that are not empty make up what single items make up just if each is a single item. -/
lemma flatMap_eq_map_iff {α β : Type} {f : α → List β} {g : α → β} {list : List α}
    (hne : ∀ a, f a ≠ []) : list.flatMap f = list.map g ↔ ∀ a ∈ list, f a = [g a] := by
  have hlength : ∀ list : List α, list.length ≤ (list.flatMap f).length := by
    intro list
    induction list with
    | nil => simp
    | cons a list ih =>
      have ha := List.length_pos_iff.2 (hne a)
      rw [List.flatMap_cons, List.length_append, List.length_cons]
      omega
  constructor
  · intro h
    induction list with
    | nil => simp
    | cons a list ih =>
      rw [List.flatMap_cons, List.map_cons] at h
      have ha := List.length_pos_iff.2 (hne a)
      have hrest := hlength list
      have htotal := congrArg List.length h
      rw [List.length_append, List.length_cons, List.length_map] at htotal
      obtain ⟨b, hb⟩ := List.length_eq_one_iff.1 (show (f a).length = 1 by omega)
      rw [hb, List.singleton_append, List.cons.injEq] at h
      rw [List.forall_mem_cons, hb, h.1]
      exact ⟨rfl, ih h.2⟩
  · intro h
    induction list with
    | nil => rfl
    | cons a list ih =>
      obtain ⟨ha, hlist⟩ := List.forall_mem_cons.1 h
      rw [List.flatMap_cons, List.map_cons, ha, ih hlist, List.singleton_append]

/-- Query parameters are read back just if their names mean themselves. -/
theorem decodeQuery_append_queryText_iff {base : List Char} (unmarked : '?' ∉ base)
    (entries : List (String × Json)) :
    Text.Form.decodeQuery (base ++ queryText false entries) = entries.map entryTexts ↔
      ∀ e ∈ entries, Text.Form.Verbatim e.1.toList := by
  have hread : Text.Form.decodeQuery (base ++ queryText false entries) =
      entries.flatMap fun e =>
        Text.Form.decodePairs (Text.Form.part e.1.toList (valueText e.2).toList) := by
    cases entries with
    | nil =>
      rw [queryText, List.append_nil, Text.Form.decodeQuery, Text.cutAt_of_not_mem unmarked]
      rfl
    | cons e entries =>
      rw [queryText, queryEntry_eq, if_neg Bool.false_ne_true, List.cons_append,
        Text.Form.decodeQuery, Text.cutAt_append_cons unmarked]
      exact decodePairs_append_queryText _ _
  rw [hread, flatMap_eq_map_iff fun _ => Text.Form.decodePairs_ne_nil _]
  exact forall₂_congr fun e _ => Text.Form.decodePairs_part_iff

namespace Generator

variable {g : Generator} {p : Parameter} {parameters : List Parameter}
  {examples found entries : List (String × Json)}

/-- Whether a parameter adds to the query of the path: it is shown there, has a schema and is no
reference. -/
def entersQuery (g : Generator) (p : Parameter) : Bool :=
  g.showsInQuery p && p.reference.isNone && p.schema.isSome

/-- No parameter of the path is a reference to a definition, whose example would
stand in place of the path. -/
def PathKept (g : Generator) (p : Parameter) : Prop :=
  p.location = .path → ∀ reference, p.reference = some reference →
    g.definitions.get? (g.definitions.referenceName reference) = none

/-- The path among examples is a base without question mark with these query parameters behind
it. -/
def HasQuery (examples : List (String × Json)) (entries : List (String × Json)) : Prop :=
  ∃ base : List Char, '?' ∉ base ∧ HasPath examples (base ++ queryText false entries)

/-! ### One parameter -/

lemma HasQuery.of_get? (h : HasQuery examples entries)
    (hpath : Entries.get? "path" found = Entries.get? "path" examples) :
    HasQuery found entries := by
  obtain ⟨base, unmarked, hbase⟩ := h
  exact ⟨base, unmarked, hpath.trans hbase⟩

lemma addParameter_of_reference {reference : String} (notBody : p.location ≠ .body)
    (refers : p.reference = some reference) :
    g.addParameter examples p =
      record p examples <$> g.definitionExample (g.definitions.referenceName reference) := by
  simp [addParameter, Parameter.isBody, notBody, refers]

lemma addParameter_of_schemaless (notBody : p.location ≠ .body) (reference : p.reference = none)
    (schema : p.schema = none) : g.addParameter examples p = pure examples := by
  simp [addParameter, Parameter.isBody, notBody, reference, schema]

lemma braceFree_queryText (marked : Bool)
    (h : ∀ e ∈ entries, BraceFree e.1.toList) : BraceFree (queryText marked entries) := by
  induction entries generalizing marked with
  | nil => exact ⟨List.not_mem_nil, List.not_mem_nil⟩
  | cons e entries ih =>
    obtain ⟨he, hentries⟩ := List.forall_mem_cons.1 h
    have hentry := braceFree_queryEntry marked he e.2
    have hrest := ih true hentries
    rw [queryText]
    constructor
    · rw [List.mem_append]
      exact not_or.2 ⟨hentry.1, hrest.1⟩
    · rw [List.mem_append]
      exact not_or.2 ⟨hentry.2, hrest.2⟩

/-- A path parameter is put into the base, and the query stays as it is. -/
lemma HasQuery.place_path {s : Schema} {value : Json} (h : HasQuery examples entries)
    (location : p.location = .path) (free : ∀ e ∈ entries, BraceFree e.1.toList) :
    HasQuery (g.place p s value examples) entries := by
  obtain ⟨base, unmarked, hbase⟩ := h
  obtain ⟨hopen, hclose⟩ := braceFree_queryText false free
  have hends : placeholder p.name = '\x7b' :: p.name.toList ++ ['\x7d'] := rfl
  have hplaced : HasPath (g.place p s value examples) _ := hbase.place_path location
  rw [Text.replace_append_of_not_mem_ends hends hopen hclose] at hplaced
  refine ⟨_, fun hmem => ?_, hplaced⟩
  rcases Text.mem_or_mem_of_mem_replaceFrom hmem with hmem | hmem
  · rw [encodeValue, String.toList_ofList] at hmem
    exact Text.Form.not_mem_encode (by decide) _ hmem
  · exact unmarked hmem

/-- A query parameter that is shown goes behind the query. -/
lemma HasQuery.place_query {s : Schema} {value : Json} (h : HasQuery examples entries)
    (location : p.location = .query) (shown : g.showsInQuery p = true) :
    HasQuery (g.place p s value examples) (entries ++ [(p.name, value)]) := by
  obtain ⟨base, unmarked, hbase⟩ := h
  have hmarked : (base ++ queryText false entries).contains '?' = !entries.isEmpty := by
    cases entries <;> simp [queryText, queryEntry, unmarked]
  have hplaced : HasPath (g.place p s value examples) _ := hbase.place_query location shown
  rw [hmarked, List.append_assoc] at hplaced
  refine ⟨base, unmarked, ?_⟩
  rwa [queryText_concat, Bool.false_or]

/-- A parameter either adds its name and its value to the query or leaves the query as it is. -/
lemma HasQuery.addParameter (h : HasQuery examples entries)
    (generates : g.options.generates = true) (kept : g.PathKept p)
    (free : p.location = .path → ∀ e ∈ entries, BraceFree e.1.toList)
    (hstep : (g.addParameter examples p).result = some found) :
    (g.entersQuery p = true ∧
      ∃ value, g.Values p (p.name, value) ∧ HasQuery found (entries ++ [(p.name, value)])) ∨
    (g.entersQuery p = false ∧ HasQuery found entries) := by
  by_cases other : p.location ≠ .path ∧ p.location ≠ .query
  · have hidden : g.entersQuery p = false := by simp [entersQuery, showsInQuery, other.2]
    exact .inr ⟨hidden, h.of_get? (get?_path_addParameter_of_other other.1 other.2 hstep)⟩
  have hlocation : p.location = .path ∨ p.location = .query := by
    rwa [not_and_or, not_not, not_not] at other
  have notBody : p.location ≠ .body := by rcases hlocation with e | e <;> simp [e]
  rcases refers : p.reference with _ | reference
  · rcases schema : p.schema with _ | s
    · rw [addParameter_of_schemaless notBody refers schema] at hstep
      cases hstep
      exact .inr ⟨by simp [entersQuery, schema], h⟩
    · rw [addParameter_of_schema generates notBody refers schema, Draft.result_map,
        Option.map_eq_some_iff] at hstep
      obtain ⟨value, hvalue, rfl⟩ := hstep
      rcases hlocation with inPath | inQuery
      · exact .inr ⟨by simp [entersQuery, showsInQuery, inPath],
          h.place_path inPath (free inPath)⟩
      · cases shown : g.showsInQuery p with
        | true =>
          refine .inl ⟨by simp [entersQuery, shown, refers, schema], value, ?_, ?_⟩
          · exact ⟨rfl, s, schema, hvalue⟩
          · exact h.place_query inQuery shown
        | false =>
          rw [place_of_not_shown inQuery shown]
          exact .inr ⟨by simp [entersQuery, shown], h⟩
  · refine .inr ⟨by simp [entersQuery, refers], ?_⟩
    rw [addParameter_of_reference notBody refers, Draft.result_map,
      Option.map_eq_some_iff] at hstep
    obtain ⟨value, hvalue, rfl⟩ := hstep
    rcases hlocation with inPath | inQuery
    · have missing :
          g.definitionExample (g.definitions.referenceName reference) = pure none := by
        simp only [definitionExample, kept inPath _ refers]
      rw [missing, Draft.result_pure, Option.some_inj] at hvalue
      rwa [← hvalue]
    · exact h.of_get? (get?_path_record (by simp [inQuery]) value)

/-! ### The run -/

lemma forall_name_iff_of_values {P : String → Prop}
    (h : List.Forall₂ g.Values parameters entries) :
    (∀ e ∈ entries, P e.1) ↔ ∀ p ∈ parameters, P p.name := by
  induction h with
  | nil => simp
  | cons hvalue _ ih => rw [List.forall_mem_cons, List.forall_mem_cons, hvalue.1, ih]

/-- A run over parameters adds those that enter the query, in order. -/
theorem HasQuery.foldlM (h : HasQuery examples entries) (generates : g.options.generates = true)
    (kept : ∀ p ∈ parameters, g.PathKept p)
    (free : ∀ p ∈ parameters, p.location = .path → ∀ e ∈ entries, BraceFree e.1.toList)
    (pairwise : parameters.Pairwise fun p q =>
      g.entersQuery p = true → q.location = .path → BraceFree p.name.toList)
    (hrun : (parameters.foldlM g.addParameter examples).result = some found) :
    ∃ added, List.Forall₂ g.Values (parameters.filter g.entersQuery) added ∧
      HasQuery found (entries ++ added) := by
  induction parameters generalizing examples entries with
  | nil =>
    cases hrun
    exact ⟨[], .nil, by rwa [List.append_nil]⟩
  | cons p rest ih =>
    obtain ⟨hkept, keptRest⟩ := List.forall_mem_cons.1 kept
    obtain ⟨hfree, freeRest⟩ := List.forall_mem_cons.1 free
    obtain ⟨hp, pairwiseRest⟩ := List.pairwise_cons.1 pairwise
    rw [List.foldlM_cons, Draft.result_bind, Option.bind_eq_some_iff] at hrun
    obtain ⟨next, hstep, hrest⟩ := hrun
    rcases h.addParameter generates hkept hfree hstep with
      ⟨enters, value, hvalue, hnext⟩ | ⟨hidden, hnext⟩
    · have freeNext : ∀ q ∈ rest, q.location = .path →
          ∀ e ∈ entries ++ [(p.name, value)], BraceFree e.1.toList := by
        intro q hq inPath e he
        rcases List.mem_append.1 he with he | he
        · exact freeRest q hq inPath e he
        · rw [List.mem_singleton.1 he]
          exact hp q hq enters inPath
      obtain ⟨added, hadded, hfound⟩ := ih hnext keptRest freeNext pairwiseRest hrest
      refine ⟨(p.name, value) :: added, ?_, ?_⟩
      · rw [List.filter_cons_of_pos enters]
        exact .cons hvalue hadded
      · rwa [List.append_assoc, List.singleton_append] at hfound
    · obtain ⟨added, hadded, hfound⟩ := ih hnext keptRest freeRest pairwiseRest hrest
      refine ⟨added, ?_, hfound⟩
      rwa [List.filter_cons_of_neg (by simp [hidden])]

/-- With generation on, a reader of forms finds the query parameters of a request in the example
of its path just if their names mean themselves in a query. They are the parameters that are
shown in the query, have a schema and are no references, each with the text of its value, in
order; and the examples are finished just if those of all parameters are. No question mark is in
the path itself, no parameter of the path stands for a definition, and the names in the query
that are there before a parameter of the path hold no brace. -/
theorem requestExamples_query {o : Operation} (generates : g.options.generates = true)
    (unmarked : '?' ∉ o.path.toList) (kept : ∀ p ∈ o.parameters, g.PathKept p)
    (pairwise : o.parameters.Pairwise fun p q =>
      g.entersQuery p = true → q.location = .path → BraceFree p.name.toList) :
    ((g.requestExamples o).result.isSome ↔
      ∀ p ∈ o.parameters, (g.addParameter [] p).result.isSome) ∧
    ∀ examples, (g.requestExamples o).result = some examples →
      ∃ path entries, Entries.get? "path" examples = some (.str path) ∧
        List.Forall₂ g.Values (o.parameters.filter g.entersQuery) entries ∧
        (Text.Form.decodeQuery path.toList = entries.map entryTexts ↔
          ∀ p ∈ o.parameters, g.entersQuery p = true → Text.Form.Verbatim p.name.toList) := by
  constructor
  · exact isSome_foldlM_addParameter
  · intro examples h
    rw [requestExamples, if_pos generates] at h
    have hstart : HasQuery [("path", .str o.path)] [] := by
      refine ⟨o.path.toList, unmarked, ?_⟩
      rw [HasPath, queryText, List.append_nil, String.ofList_toList]
      rfl
    obtain ⟨entries, hentries, base, hbase, hpath⟩ :=
      hstart.foldlM generates kept (by simp) pairwise h
    refine ⟨_, entries, hpath, hentries, ?_⟩
    rw [String.toList_ofList, List.nil_append, decodeQuery_append_queryText_iff hbase,
      forall_name_iff_of_values (P := fun name => Text.Form.Verbatim name.toList) hentries]
    simp only [List.mem_filter, and_imp]

/-- A request with a query that is written before a parameter of the path. -/
def owlRequest : Operation where
  method := .get
  path := "/owls/\x7bid\x7d"
  parameters :=
    [{ name := "sort-by", required := true, schema := some {},
       authored := some (.str "age & name") },
      { name := "id", written := some .path, schema := some {}, authored := some (.str "#1?") },
      { name := "awake", schema := some { type := some (.single "boolean") } },
      { name := "größe", required := true, schema := some { type := some (.single "integer") } }]

theorem requestExamples_query_owlRequest :
    ∃ examples path entries, (generating.requestExamples owlRequest).result = some examples ∧
      Entries.get? "path" examples = some (.str path) ∧
      List.Forall₂ generating.Values (owlRequest.parameters.filter generating.entersQuery)
        entries ∧
      Text.Form.decodeQuery path.toList = entries.map entryTexts ∧
      path = "/owls/%231%3F?sort-by=age+%26+name&größe=0" := by
  have kept : ∀ p ∈ owlRequest.parameters, generating.PathKept p := by
    simp [owlRequest, PathKept]
  have pairwise : owlRequest.parameters.Pairwise fun p q =>
      generating.entersQuery p = true → q.location = .path → BraceFree p.name.toList := by
    simp [owlRequest, Parameter.location, BraceFree]
  have verbatim : ∀ p ∈ owlRequest.parameters, generating.entersQuery p = true →
      Text.Form.Verbatim p.name.toList := by
    simp only [owlRequest, List.forall_mem_cons, List.not_mem_nil, IsEmpty.forall_iff,
      implies_true, and_true]
    refine ⟨?_, ?_, ?_, ?_⟩ <;> intro _ <;>
      exact Text.Form.verbatim_of_not_mem (by decide) (by decide) (by decide) (by decide)
  obtain ⟨-, hquery⟩ := requestExamples_query (g := generating) rfl
    (show '?' ∉ owlRequest.path.toList by decide) kept pairwise
  have hpath : (generating.requestExamples owlRequest).result.map (Entries.get? "path") =
      some (some (.str "/owls/%231%3F?sort-by=age+%26+name&größe=0")) := rfl
  obtain ⟨examples, hexamples, hpath⟩ := Option.map_eq_some_iff.1 hpath
  obtain ⟨path, entries, hget, hentries, hread⟩ := hquery examples hexamples
  refine ⟨examples, path, entries, hexamples, hget, hentries, hread.2 verbatim, ?_⟩
  simpa [hget] using hpath

/-- A request with an ampersand in the name of a query parameter. -/
def tornRequest : Operation where
  method := .get
  path := "/p"
  parameters :=
    [{ name := "a&b", required := true, schema := some { type := some (.single "string") } }]

/-- The ampersand is written as it is, and the parameter is read as two. -/
theorem tornRequest_not_read :
    '?' ∉ tornRequest.path.toList ∧
    (generating.requestExamples tornRequest).result = some [("path", .str "/p?a&b=string")] ∧
    Text.Form.decodeQuery "/p?a&b=string".toList =
      [("a".toList, []), ("b".toList, "string".toList)] ∧
    Text.Form.decodeQuery "/p?a&b=string".toList ≠ [("a&b".toList, "string".toList)] := by
  have hread : Text.Form.decodeQuery "/p?a&b=string".toList =
      [("a".toList, []), ("b".toList, "string".toList)] := by rfl
  refine ⟨by decide, rfl, hread, ?_⟩
  rw [hread]
  decide

end Generator

end OpenApiDoc.Example
