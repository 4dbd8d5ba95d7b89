import OpenApiDoc.Proofs.Definitions.Reachability
import OpenApiDoc.Proofs.Document.Dialects
import OpenApiDoc.Proofs.Document.Reading
import OpenApiDoc.Proofs.Document.Unified

/-!
# Distinct names in loaded documents

Where no object of a document has two members of one name, the same is true of the properties of
the schemas that are decoded from it: a keyword is read as it stands, and the last keyword of its
kind makes the part of the schema.
-/

namespace OpenApiDoc

open Decoder

/-! ### Schemas and keywords -/

/-- No schema in this one has two properties of one name. -/
def Schema.WellNamed (s : Schema) : Prop := ∀ t ∈ s.subschemas, t.DistinctNames

/-- What a keyword puts into a schema has no two properties of one name. -/
def Keyword.WellNamed : Keyword → Prop
  | .properties (some entries) =>
    (Entries.keys entries).Nodup ∧ ∀ value ∈ Entries.values entries, value.WellNamed
  | .additional (some (.schema value)) => value.WellNamed
  | .items (some item) => item.WellNamed
  | .allOf (some branches) => ∀ b ∈ branches, b.WellNamed
  | _ => True

namespace Schema

lemma wellNamed_iff {s : Schema} :
    s.WellNamed ↔ s.DistinctNames ∧ ∀ child ∈ s.children, child.WellNamed := by
  constructor
  · intro h
    refine ⟨h s s.self_mem_subschemas, fun child hc t ht => ?_⟩
    exact h t (mem_subschemas_of_child hc ht)
  · rintro ⟨hs, hchildren⟩ t ht
    rcases mem_subschemas.1 ht with rfl | ⟨child, hc, ht⟩
    · exact hs
    · exact hchildren child hc t ht

/-- A schema is as well named as its four keywords that hold schemas. -/
lemma wellNamed_iff_keywords {s : Schema} :
    s.WellNamed ↔ (Keyword.properties s.properties).WellNamed ∧
      (Keyword.additional s.additional).WellNamed ∧ (Keyword.items s.items).WellNamed ∧
      (Keyword.allOf s.allOf).WellNamed := by
  obtain ⟨facts, properties, additional, items, allOf⟩ := s
  rw [wellNamed_iff]
  rcases properties with _ | properties <;> rcases additional with _ | (allowed | value) <;>
    rcases items with _ | item <;> rcases allOf with _ | branches <;>
    simp [DistinctNames, children, parts, propertySchemas, branchList, valueSchema,
      Keyword.WellNamed, or_imp, forall_and, and_assoc, Entries.keys, Entries.values]

/-! ### Decoding -/

lemma wellNamed_addTo {s : Schema} {k : Keyword} (hs : s.WellNamed) (hk : k.WellNamed) :
    (k.addTo s).WellNamed := by
  obtain ⟨properties, additional, items, allOf⟩ := wellNamed_iff_keywords.1 hs
  rw [wellNamed_iff_keywords]
  cases k with
  | properties value => exact ⟨hk, additional, items, allOf⟩
  | additional value => exact ⟨properties, hk, items, allOf⟩
  | items value => exact ⟨properties, additional, hk, allOf⟩
  | allOf value => exact ⟨properties, additional, items, hk⟩
  | _ => exact ⟨properties, additional, items, allOf⟩

lemma wellNamed_ofKeywords {keywords : List Keyword} (h : ∀ k ∈ keywords, k.WellNamed) :
    (ofKeywords keywords).WellNamed := by
  have hfold : ∀ s : Schema, s.WellNamed → (keywords.foldl Keyword.addTo s).WellNamed := by
    induction keywords with
    | nil => exact fun s hs => hs
    | cons k rest ih =>
      intro s hs
      exact ih (fun k hk => h k (List.mem_cons_of_mem _ hk)) _
        (wellNamed_addTo hs (h k List.mem_cons_self))
  refine hfold {} ?_
  rw [wellNamed_iff_keywords]
  exact ⟨trivial, trivial, trivial, trivial⟩

lemma wellNamed_plainKeyword {name : String} {value : Json} {k : Keyword}
    (h : plainKeyword name value = .ok k) : k.WellNamed := by
  unfold plainKeyword at h
  split at h
  case h_21 => cases h; trivial
  all_goals
    obtain ⟨_, -, rfl⟩ := map_eq_ok.1 h
    trivial

lemma wellNamed_nestingOfScalar {nesting : Nesting} {value : Json} {k : Keyword}
    (h : nestingOfScalar nesting value = .ok k) : k.WellNamed := by
  unfold nestingOfScalar at h
  split at h <;> cases h <;> trivial

lemma wellNamed_of_keywords {members : List (String × Json)} {found : List Keyword}
    (hmembers : ∀ m ∈ members, ∀ name k, keyword name m.2 = .ok k → k.WellNamed)
    (h : keywords members = .ok found) : ∀ k ∈ found, k.WellNamed := by
  induction members generalizing found with
  | nil =>
    cases h
    simp
  | cons m rest ih =>
    simp only [keywords, bind_eq_ok, map_eq_ok] at h
    obtain ⟨k, hk, more, hmore, rfl⟩ := h
    refine List.forall_mem_cons.2 ⟨hmembers m List.mem_cons_self m.1 k hk, ?_⟩
    exact ih (fun m hm => hmembers m (List.mem_cons_of_mem _ hm)) hmore

lemma wellNamed_of_named {members : List (String × Json)} {found : List (String × Schema)}
    (hmembers : ∀ m ∈ members, ∀ s, decode m.2 = .ok s → s.WellNamed)
    (h : named members = .ok found) :
    Entries.keys found = Entries.keys members ∧ ∀ s ∈ Entries.values found, s.WellNamed := by
  induction members generalizing found with
  | nil =>
    cases h
    simp [Entries.keys, Entries.values]
  | cons m rest ih =>
    simp only [named, bind_eq_ok, map_eq_ok] at h
    obtain ⟨s, hs, more, hmore, rfl⟩ := h
    obtain ⟨hkeys, hvalues⟩ := ih (fun m hm => hmembers m (List.mem_cons_of_mem _ hm)) hmore
    refine ⟨congrArg (m.1 :: ·) hkeys, ?_⟩
    exact List.forall_mem_cons.2 ⟨hmembers m List.mem_cons_self s hs, hvalues⟩

lemma wellNamed_of_branches {items : List Json} {found : List Schema}
    (hitems : ∀ item ∈ items, ∀ s, decode item = .ok s → s.WellNamed)
    (h : branches items = .ok found) : ∀ s ∈ found, s.WellNamed := by
  induction items generalizing found with
  | nil =>
    cases h
    simp
  | cons item rest ih =>
    simp only [branches, bind_eq_ok, map_eq_ok] at h
    obtain ⟨s, hs, more, hmore, rfl⟩ := h
    refine List.forall_mem_cons.2 ⟨hitems item List.mem_cons_self s hs, ?_⟩
    exact ih (fun item hitem => hitems item (List.mem_cons_of_mem _ hitem)) hmore

/-- What is decoded from a value without repeated keys, as a keyword or as a schema, has no two
properties of one name. -/
lemma wellNamed_of_wellKeyed (value : Json) (wellKeyed : value.WellKeyed) :
    (∀ name k, keyword name value = .ok k → k.WellNamed) ∧
      ∀ s, decode value = .ok s → s.WellNamed := by
  induction value using Json.induction_on with
  | obj members ih =>
    obtain ⟨distinct, hmembers⟩ := Json.wellKeyed_obj.1 wellKeyed
    have hkeywords : ∀ found, keywords members = .ok found → (ofKeywords found).WellNamed :=
      fun found h => wellNamed_ofKeywords
        (wellNamed_of_keywords (fun m hm => (ih m hm (hmembers m hm)).1) h)
    constructor
    · intro name k h
      rcases hnesting : nesting? name with _ | nesting
      · simp only [keyword, hnesting] at h
        exact wellNamed_plainKeyword h
      simp only [keyword, hnesting] at h
      cases nesting with
      | properties =>
        obtain ⟨found, hfound, rfl⟩ := map_eq_ok.1 h
        obtain ⟨hkeys, hvalues⟩ :=
          wellNamed_of_named (fun m hm => (ih m hm (hmembers m hm)).2) hfound
        exact ⟨hkeys ▸ distinct, hvalues⟩
      | additional =>
        rcases hfound : keywords members with _ | found
        · simp [hfound] at h
        · simp only [hfound] at h
          cases h
          exact hkeywords found hfound
      | items =>
        obtain ⟨found, hfound, rfl⟩ := map_eq_ok.1 h
        exact hkeywords found hfound
      | allOf => cases h
    · intro s h
      rw [decode] at h
      obtain ⟨found, hfound, rfl⟩ := map_eq_ok.1 h
      exact hkeywords found hfound
  | arr items ih =>
    constructor
    · intro name k h
      rcases hnesting : nesting? name with _ | nesting
      · simp only [keyword, hnesting] at h
        exact wellNamed_plainKeyword h
      simp only [keyword, hnesting] at h
      cases nesting with
      | allOf =>
        obtain ⟨found, hfound, rfl⟩ := map_eq_ok.1 h
        exact wellNamed_of_branches
          (fun item hitem =>
            (ih item hitem (Json.wellKeyed_arr.1 wellKeyed item hitem)).2) hfound
      | _ => cases h
    · intro s h
      cases h
  | leaf value noEntries noItems =>
    constructor
    · intro name k h
      rcases hnesting : nesting? name with _ | nesting
      · simp only [keyword, hnesting] at h
        exact wellNamed_plainKeyword h
      · cases value with
        | obj members => cases noEntries
        | arr items => cases noItems
        | _ =>
          simp only [keyword, hnesting] at h
          exact wellNamed_nestingOfScalar h
    · intro s h
      cases value with
      | obj members => cases noEntries
      | _ => cases h

/-- A schema that is decoded from a value without repeated keys has no two properties of one
name. -/
theorem wellNamed_of_decode {value : Json} {s : Schema} (wellKeyed : value.WellKeyed)
    (h : decode value = .ok s) : s.WellNamed :=
  (wellNamed_of_wellKeyed value wellKeyed).2 s h

end Schema

/-! ### Documents -/

namespace Document

variable {d : Json}

lemma exists_of_mem_sectionEntries {α : Type} {decode : Decoder α} {location : String}
    {members : List (String × Json)} {found : List (String × α)} {e : String × α}
    (h : sectionEntries decode location members = .ok found) (he : e ∈ found) :
    ∃ m ∈ members, decode m.2 = .ok e.2 := by
  induction members generalizing found with
  | nil =>
    cases h
    cases he
  | cons m rest ih =>
    simp only [sectionEntries, do_eq_ok, part_eq_ok] at h
    obtain ⟨decoded, hdecoded, more, hmore, h⟩ := h
    cases h
    rcases List.mem_cons.1 he with rfl | he
    · exact ⟨m, List.mem_cons_self, hdecoded⟩
    · obtain ⟨m', hm', hdecode⟩ := ih hmore he
      exact ⟨m', List.mem_cons_of_mem _ hm', hdecode⟩

lemma exists_of_mem_decodeSections {α : Type} {decode : Decoder α} {paths : List (List String)}
    {found : List (String × α)} {e : String × α} (h : decodeSections decode d paths = .ok found)
    (he : e ∈ found) : ∃ path ∈ paths, ∃ m ∈ membersAt d path, decode m.2 = .ok e.2 := by
  simp only [decodeSections, do_eq_ok] at h
  obtain ⟨parts, hparts, h⟩ := h
  cases h
  replace he := (Entries.mem_of_mem_insertAll he).resolve_left List.not_mem_nil
  induction paths generalizing parts with
  | nil =>
    cases hparts
    cases he
  | cons first rest ih =>
    simp only [List.mapM_cons, do_eq_ok] at hparts
    obtain ⟨part, hpart, more, hmore, hparts⟩ := hparts
    cases hparts
    rcases List.mem_append.1 he with he | he
    · exact ⟨first, List.mem_cons_self, exists_of_mem_sectionEntries hpart he⟩
    · obtain ⟨path, hpath, hm⟩ := ih more hmore he
      exact ⟨path, List.mem_cons_of_mem _ hpath, hm⟩

/-- The sections of definitions are not lifted. -/
lemma membersAt_unified {path : List String}
    (hpath : path ∈ [["components", "schemas"], ["definitions"]]) :
    membersAt (unified d) path = membersAt (unlifted d) path := by
  have hunified : unified d = lifted (unlifted d) := rfl
  rw [hunified]
  rcases List.mem_pair.1 hpath with rfl | rfl
  · rw [membersAt_two, membersAt_two, get?_lifted]
    rcases (unlifted d).get? "components" with _ | v
    · rfl
    · simp [Json.get?_modify]
  · rw [membersAt_one, membersAt_one, get?_lifted]
    simp

/-- In a document that is loaded from one without repeated keys, the properties of every schema
of the definitions have distinct names. -/
theorem every_distinctNames_of_load {loaded : Noted Document} (wellKeyed : d.WellKeyed)
    (h : load d = .ok loaded) : loaded.value.definitions.Every Schema.DistinctNames := by
  obtain ⟨definitions, _, _, hdecoded, -, -, heq⟩ := exists_of_load h
  simp only [decodeDefinitions, do_eq_ok] at hdecoded
  obtain ⟨entries, hentries, hdecoded⟩ := hdecoded
  cases hdecoded
  rw [heq]
  intro name s get
  have hmem : (name, s) ∈ entries :=
    (Entries.mem_of_mem_insertAll (Entries.mem_of_get? get)).resolve_left List.not_mem_nil
  obtain ⟨path, hpath, m, hm, hdecode⟩ := exists_of_mem_decodeSections hentries hmem
  rw [membersAt_unified hpath] at hm
  have hkeyed : m.2.WellKeyed := wellKeyed_of_mem_membersAt (wellKeyed_unlifted wellKeyed) hm
  exact Schema.wellNamed_of_decode hkeyed hdecode

end Document

end OpenApiDoc
