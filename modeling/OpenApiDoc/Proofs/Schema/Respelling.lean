import OpenApiDoc.Proofs.Schema.Unordered

/-!
# Respelled schemas

One schema may be spelled in several ways: its keywords may stand in any order, and a known
keyword may be missing or have the value null. This holds for every schema within the schema as
well, and each spelling is decoded to the same.
-/

namespace OpenApiDoc.Schema

open Decoder

variable {name : String} {members members' before after : List (String × Json)} {v w : Json}

/-! ### Keywords that are decoded alike -/

/-- A keyword is decoded alike from two values. -/
abbrev KeywordAlike (name : String) (v w : Json) : Prop :=
  Alike Keyword.Same (keyword name v) (keyword name w)

lemma KeywordAlike.refl (name : String) (v : Json) : KeywordAlike name v v :=
  Alike.refl Keyword.Same.refl _

lemma KeywordAlike.of_eq (h : keyword name v = keyword name w) : KeywordAlike name v w := by
  rw [KeywordAlike, h]
  exact KeywordAlike.refl name w

lemma KeywordAlike.of_failed (h : ∃ e, keyword name v = .error e)
    (h' : ∃ e, keyword name w = .error e) : KeywordAlike name v w := by
  obtain ⟨e, he⟩ := h
  obtain ⟨e', he'⟩ := h'
  rw [KeywordAlike, he, he']
  exact .failed e e'

lemma keywordAlike_properties
    (h : List.Forall₂ (fun m m' => m.1 = m'.1 ∧ Alike Same (decode m.2) (decode m'.2))
      members members') :
    KeywordAlike "properties" (.obj members) (.obj members') := by
  have hentries : Alike (fun entries entries' => Entries.mapValues unordered entries =
      Entries.mapValues unordered entries') (entriesOf decode members)
      (entriesOf decode members') := by
    induction h with
    | nil => exact .done rfl
    | @cons m m' rest rest' hm _ ih =>
      obtain ⟨key, value⟩ := m
      obtain ⟨key', value'⟩ := m'
      obtain ⟨rfl, hvalue⟩ := hm
      refine hvalue.bind fun s t hst => ih.map fun _ _ hrest => ?_
      exact congrArg₂ List.cons (congrArg (Prod.mk key) hst) hrest
  have hsome : Alike (fun a b => a.map (Entries.mapValues unordered) =
      b.map (Entries.mapValues unordered)) ((entriesOf decode members).map some)
      ((entriesOf decode members').map some) := hentries.map fun _ _ h => congrArg some h
  rw [KeywordAlike, keyword_properties, keyword_properties]
  exact hsome.map fun _ _ h => Keyword.Same.properties h

lemma keywordAlike_allOf {items items' : List Json}
    (h : List.Forall₂ (fun v w => Alike Same (decode v) (decode w)) items items') :
    KeywordAlike "allOf" (.arr items) (.arr items') := by
  have hsome : Alike (fun a b => a.map (List.map unordered) = b.map (List.map unordered))
      ((items.mapM decode).map some) ((items'.mapM decode).map some) := by
    refine (Alike.mapM h fun _ _ => id).map fun found found' hfound => congrArg some ?_
    induction hfound with
    | nil => rfl
    | cons hst _ ih => exact congrArg₂ List.cons hst ih
  rw [KeywordAlike, keyword_allOf, keyword_allOf]
  exact hsome.map fun _ _ h => Keyword.Same.allOf h

lemma keywordAlike_items (h : Alike Same (decode (.obj members)) (decode (.obj members'))) :
    KeywordAlike "items" (.obj members) (.obj members') := by
  have hsome : Alike (fun a b => a.map unordered = b.map unordered)
      ((decode (.obj members)).map some) ((decode (.obj members')).map some) :=
    h.map fun _ _ hst => congrArg some hst
  rw [KeywordAlike, keyword_items, keyword_items]
  exact hsome.map fun _ _ h => Keyword.Same.items h

lemma keywordAlike_additional (h : Alike Same (decode (.obj members)) (decode (.obj members'))) :
    KeywordAlike "additionalProperties" (.obj members) (.obj members') := by
  rw [KeywordAlike, keyword_additional, keyword_additional, formOf_obj, formOf_obj,
    additionalForm?_obj, additionalForm?_obj]
  generalize decode (.obj members) = x, decode (.obj members') = y at h
  cases h with
  | failed e e' => exact .failed _ _
  | done hst =>
    exact .done (.additional (congrArg (fun s => some (AdditionalProperties.schema s)) hst))

/-- An unknown keyword is kept, whatever the order of members in its value. -/
lemma keywordAlike_extra (unknown : name ∉ knownKeywords) (h : v.unordered = w.unordered) :
    KeywordAlike name v w := by
  have hextra : ∀ value, keyword name value = .ok (.extra name value) := by
    intro value
    simp only [knownKeywords, plainKeywords, List.mem_append, List.mem_cons, List.not_mem_nil,
      or_false, not_or] at unknown
    rw [keyword_of_plain (by simp [nesting?, unknown]), plainKeyword]
    all_goals simp_all
  rw [KeywordAlike, hextra, hextra]
  exact .done (.extra name h)

/-! ### Schemas that are decoded alike -/

/-- Schemas whose keywords are decoded alike one by one are decoded alike. -/
lemma decode_alike (h : List.Forall₂ (fun m m' => Alike Keyword.Same (keyword m.1 m.2)
      (keyword m'.1 m'.2)) members members') :
    Alike Same (decode (.obj members)) (decode (.obj members')) := by
  rw [decode_obj, decode_obj]
  exact Alike.foldlM h (fun _ _ hk s t hst => hk.map fun _ _ hsame => hsame s t hst) (.refl {})

/-- The value of one keyword may be replaced by one that is decoded alike. -/
lemma decode_alike_at (h : KeywordAlike name v w) (before after : List (String × Json)) :
    Alike Same (decode (.obj (before ++ (name, v) :: after)))
      (decode (.obj (before ++ (name, w) :: after))) := by
  have hrefl : ∀ members : List (String × Json), List.Forall₂ (fun m m' =>
      Alike Keyword.Same (keyword m.1 m.2) (keyword m'.1 m'.2)) members members :=
    fun members => List.forall₂_same.2 fun m _ => KeywordAlike.refl m.1 m.2
  exact decode_alike (List.rel_append (hrefl before) (.cons h (hrefl after)))

/-- The keywords of a schema may stand in any order. -/
lemma same_of_perm (perm : members.Perm members') (nodup : (Entries.keys members).Nodup) :
    Alike Same (decode (.obj members)) (decode (.obj members')) := by
  refine alike_of_perm Same.refl (fun _ _ _ => Same.trans) Keyword.Same.refl perm nodup
    fun m _ m' _ hne k k' hk hk' s => ?_
  exact Keyword.addTo_exchange (by rwa [(name_of_keyword hk).1, (name_of_keyword hk').1]) s

/-- Schemas whose keywords are decoded alike name by name are decoded alike. -/
lemma decode_alike_of_get? (nodup : (Entries.keys members).Nodup)
    (nodup' : (Entries.keys members').Nodup)
    (h : ∀ name, Option.Rel (KeywordAlike name) (Entries.get? name members)
      (Entries.get? name members')) :
    Alike Same (decode (.obj members)) (decode (.obj members')) := by
  obtain ⟨aligned, perm, haligned⟩ := Entries.exists_perm_of_get? nodup nodup' h
  have halike : Alike Same (decode (.obj members)) (decode (.obj aligned)) := by
    refine decode_alike (haligned.imp fun m m' hm => ?_)
    obtain ⟨hname, hvalue⟩ := hm
    rw [← hname]
    exact hvalue
  exact halike.trans (fun _ _ _ => .trans)
    (same_of_perm perm ((Entries.nodup_keys_perm perm).2 nodup'))

/-- A known keyword with the value null may be left out. -/
lemma decode_null (known : name ∈ knownKeywords) (members : List (String × Json)) :
    decode (.obj ((name, .null) :: members)) = decode (.obj members) := by
  obtain ⟨k, hk, hadd⟩ := keyword_null known
  rw [decode_obj, decode_obj, List.foldlM_cons, hk]
  exact congrArg (fun s => members.foldlM (fun s m => (keyword m.1 m.2).map (Keyword.addTo s)) s)
    hadd

/-! ### Spellings -/

/-- The keywords of a schema are spelled in another way: the keywords of the schema itself,
or of a schema within it, stand in another order or have a known keyword more that is null.
The entries of `properties` and the branches of `allOf` stay in their order, and so does
data. The value of an unknown keyword may hold schemas, too; there, the members of objects
may stand in another order. -/
inductive Respelled : List (String × Json) → List (String × Json) → Prop where
  | refl (members : List (String × Json)) : Respelled members members
  | trans {members members' members'' : List (String × Json)} (h : Respelled members members')
      (h' : Respelled members' members'') : Respelled members members''
  | permute {members members' : List (String × Json)} (nodup : (Entries.keys members).Nodup)
      (perm : members.Perm members') : Respelled members members'
  | null {name : String} {members : List (String × Json)} (known : name ∈ knownKeywords)
      (absent : name ∉ Entries.keys members) : Respelled members ((name, .null) :: members)
  | property {members members' : List (String × Json)} (h : Respelled members members')
      (name : String) (before after entries entries' : List (String × Json)) :
      Respelled
        (before ++ ("properties", .obj (entries ++ (name, .obj members) :: entries')) :: after)
        (before ++ ("properties", .obj (entries ++ (name, .obj members') :: entries')) :: after)
  | additional {members members' : List (String × Json)} (h : Respelled members members')
      (before after : List (String × Json)) :
      Respelled (before ++ ("additionalProperties", .obj members) :: after)
        (before ++ ("additionalProperties", .obj members') :: after)
  | items {members members' : List (String × Json)} (h : Respelled members members')
      (before after : List (String × Json)) :
      Respelled (before ++ ("items", .obj members) :: after)
        (before ++ ("items", .obj members') :: after)
  | branch {members members' : List (String × Json)} (h : Respelled members members')
      (before after : List (String × Json)) (branches branches' : List Json) :
      Respelled (before ++ ("allOf", .arr (branches ++ .obj members :: branches')) :: after)
        (before ++ ("allOf", .arr (branches ++ .obj members' :: branches')) :: after)
  | extra {name : String} {v w : Json} (unknown : name ∉ knownKeywords)
      (h : v.unordered = w.unordered) (before after : List (String × Json)) :
      Respelled (before ++ (name, v) :: after) (before ++ (name, w) :: after)

/-- However a schema is spelled, it is decoded to the same. -/
lemma Respelled.alike (h : Respelled members members') :
    Alike Same (decode (.obj members)) (decode (.obj members')) := by
  induction h with
  | refl members => exact .refl .refl _
  | trans _ _ ih ih' => exact ih.trans (fun _ _ _ => .trans) ih'
  | permute nodup perm => exact same_of_perm perm nodup
  | null known absent => exact decode_null known _ ▸ .refl .refl _
  | property _ name before after entries entries' ih =>
    have hrefl : ∀ entries : List (String × Json), List.Forall₂ (fun m m' =>
        m.1 = m'.1 ∧ Alike Same (decode m.2) (decode m'.2)) entries entries :=
      fun entries => List.forall₂_same.2 fun _ _ => ⟨rfl, .refl .refl _⟩
    refine decode_alike_at (keywordAlike_properties ?_) before after
    exact List.rel_append (hrefl entries) (.cons ⟨rfl, ih⟩ (hrefl entries'))
  | additional _ before after ih =>
    exact decode_alike_at (keywordAlike_additional ih) before after
  | items _ before after ih => exact decode_alike_at (keywordAlike_items ih) before after
  | branch _ before after branches branches' ih =>
    have hrefl : ∀ branches : List Json, List.Forall₂ (fun v w =>
        Alike Same (decode v) (decode w)) branches branches :=
      fun branches => List.forall₂_same.2 fun _ _ => .refl .refl _
    refine decode_alike_at (keywordAlike_allOf ?_) before after
    exact List.rel_append (hrefl branches) (.cons ih (hrefl branches'))
  | extra unknown h before after =>
    exact decode_alike_at (keywordAlike_extra unknown h) before after

end OpenApiDoc.Schema
