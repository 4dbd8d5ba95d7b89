import OpenApiDoc.Document.InlineParameters
import OpenApiDoc.Document.InlineResponses
import OpenApiDoc.Proofs.Document.ConstSchemas
import OpenApiDoc.Proofs.Schema.Respelling

/-!
# How keys are removed

The last member of an object takes the place of a key that is removed, so the passes over a
document change the order of members. The keywords of a schema may stand in any order: a schema
is decoded to the same, in whichever way keys are removed. Only properties and the names of a
mapping keep their order, and a constant is removed from among them just if a name is `const`.
-/

namespace OpenApiDoc.Document

open Json (Step Path)
open Schema (KeywordAlike plainKeywords knownKeywords)

variable (r r' : Entries.Removal Json) {v w x : Json} {name : String} {path : Path}
  {members : List (String × Json)}

/-! ### Values -/

@[simp] lemma str?_withoutConstBy (v : Json) : (withoutConstBy r v).str? = v.str? := by
  cases v with
  | obj members => rw [withoutConstBy_obj]; rfl
  | arr items => rw [withoutConstBy_arr]; rfl
  | _ => rfl

@[simp] lemma str?_rewrittenBy (key : String) (v : Json) :
    (rewrittenBy r key v).str? = v.str? := by
  rw [rewrittenBy]
  split
  · rfl
  · exact str?_withoutConstBy r v

lemma withoutConstBy_of_get?_eq_none (h : Entries.get? "const" members = none) :
    withoutConstBy r (.obj members) =
      .obj (members.map fun m => (m.1, rewrittenBy r m.1 m.2)) := by
  rw [withoutConstBy_obj, constToEnumBy, Entries.get?_map (f := rewrittenBy r), h]
  rfl

/-- A value is rewritten to the same up to the order of members. -/
lemma unordered_withoutConstBy (wellKeyed : v.WellKeyed) :
    (withoutConstBy r v).unordered = (withoutConstBy r' v).unordered := by
  induction v using Json.induction_on with
  | obj members ih =>
    have hget := fun r => get?_withoutConstBy r wellKeyed
    simp only [withoutConstBy_obj, Json.get?_obj] at hget ⊢
    rw [Json.unordered_obj_eq]
    intro key
    rw [hget, hget]
    by_cases hconst : key = "const"
    · rw [if_pos hconst, if_pos hconst]
    rw [if_neg hconst, if_neg hconst]
    cases hvalue : Entries.get? key members with
    | none => rfl
    | some x =>
      have hmem : (key, x) ∈ members := Entries.mem_of_get? hvalue
      simp only [Option.map_some, Option.some_or, rewrittenBy]
      split
      · rfl
      · exact congrArg some (ih (key, x) hmem (wellKeyed.get? hvalue))
  | arr items ih =>
    rw [withoutConstBy_arr, withoutConstBy_arr, Json.unordered_arr_eq, List.map_map,
      List.map_map]
    exact List.map_congr_left fun item hitem =>
      ih item hitem (Json.wellKeyed_arr.1 wellKeyed item hitem)
  | leaf v hentries hitems =>
    cases v with
    | obj members => cases hentries
    | arr items => cases hitems
    | _ => rfl

/-! ### Keywords without schemas -/

lemma strings?_eq_of_unordered {items items' : List Json}
    (h : items.map Json.unordered = items'.map Json.unordered) :
    Schema.strings? items = Schema.strings? items' := by
  have hstr : ∀ {v w : Json}, v.unordered = w.unordered → v.str? = w.str? := by
    intro v w h
    cases Json.likeness h <;> rfl
  rw [Schema.strings?, Schema.strings?]
  induction items generalizing items' with
  | nil => rw [List.map_eq_nil_iff.1 h.symm]
  | cons item rest ih =>
    obtain ⟨item', rest', rfl, hitem, hrest⟩ := List.map_eq_cons_iff.1 h.symm
    rw [List.mapM_cons, List.mapM_cons, ih hrest.symm, hstr hitem]

lemma keyword_obj_failed (hname : name ∈ plainKeywords) (data : holdsData name = false)
    (hdiscriminator : name ≠ "discriminator") (members : List (String × Json)) :
    ∃ e, Schema.keyword name (.obj members) = .error e := by
  simp only [plainKeywords, List.mem_cons, List.not_mem_nil, or_false] at hname
  rcases hname with rfl | rfl | rfl | rfl | rfl | rfl | rfl | rfl | rfl | rfl | rfl | rfl | rfl |
    rfl | rfl | rfl | rfl | rfl | rfl | rfl <;>
  first
  | exact ⟨_, rfl⟩
  | exact absurd rfl hdiscriminator
  | cases data

lemma keyword_arr_failed (hname : name ∈ plainKeywords) (data : holdsData name = false)
    (htype : name ≠ "type") (hrequired : name ≠ "required") (items : List Json) :
    ∃ e, Schema.keyword name (.arr items) = .error e := by
  simp only [plainKeywords, List.mem_cons, List.not_mem_nil, or_false] at hname
  rcases hname with rfl | rfl | rfl | rfl | rfl | rfl | rfl | rfl | rfl | rfl | rfl | rfl | rfl |
    rfl | rfl | rfl | rfl | rfl | rfl | rfl <;>
  first
  | exact ⟨_, rfl⟩
  | exact absurd rfl htype
  | exact absurd rfl hrequired
  | cases data

/-- A known keyword without data reads nothing that depends on the order of members, but for the
mapping of a discriminator. -/
lemma keywordAlike_plain (hname : name ∈ plainKeywords) (data : holdsData name = false)
    (hdiscriminator : name ≠ "discriminator") (h : v.unordered = w.unordered) :
    KeywordAlike name v w := by
  cases Json.likeness h with
  | leaf v => exact .refl name v
  | obj members members' =>
    exact .of_failed (keyword_obj_failed hname data hdiscriminator members)
      (keyword_obj_failed hname data hdiscriminator members')
  | @arr items items' hitems =>
    have hstrings := strings?_eq_of_unordered hitems
    by_cases htype : name = "type"
    · subst htype
      have hform : Schema.typeForm? (.arr items) = Schema.typeForm? (.arr items') := by
        rw [Schema.typeForm?, Schema.typeForm?, hstrings]
      exact .of_eq (congrArg (Except.map Keyword.type)
        (Schema.formOf_congr "SchemaTypeDecl" (by simp) hform))
    by_cases hrequired : name = "required"
    · subst hrequired
      have hform : Schema.requiredForm? (.arr items) = Schema.requiredForm? (.arr items') := by
        rw [Schema.requiredForm?, Schema.requiredForm?, hstrings]
      exact .of_eq (congrArg
        (Except.map fun names : Option (List String) => Keyword.required (names.getD []))
        (Schema.formOf_congr "RequiredDecl" (by simp) hform))
    exact .of_failed (keyword_arr_failed hname data htype hrequired items)
      (keyword_arr_failed hname data htype hrequired items')

/-- The mapping of a discriminator is read as it was before, if no name in it is `const`. -/
lemma mapping?_withoutConstBy (h : x.get? "const" = none) :
    Schema.mapping? (some (withoutConstBy r x)) = Schema.mapping? (some x) := by
  cases x with
  | obj members =>
    rw [withoutConstBy_of_get?_eq_none r h, Schema.mapping?, Schema.mapping?, List.mapM_map]
    refine congrArg (fun f => members.mapM f) (funext fun m => ?_)
    rw [Function.comp_apply, str?_rewrittenBy]
  | arr items => rw [withoutConstBy_arr]; rfl
  | _ => rfl

lemma get?_withoutConstBy_of_ne (wellKeyed : v.WellKeyed) (key : String) (hconst : key ≠ "const")
    (htype : key ≠ "type") (henum : key ≠ "enum") :
    (withoutConstBy r v).get? key = (v.get? key).map (rewrittenBy r key) := by
  rw [get?_withoutConstBy r wellKeyed, if_neg hconst]
  cases v.get? "const" <;> simp [inPlaceOfConst, htype, henum]

/-- A discriminator is read as it was before, if no name in its mapping is `const`. -/
lemma discriminatorForm?_withoutConstBy (wellKeyed : v.WellKeyed)
    (h : v.follow? [.key "mapping", .key "const"] = none) :
    Schema.discriminatorForm? (withoutConstBy r v) = Schema.discriminatorForm? v := by
  cases v with
  | obj members =>
    have hname := get?_withoutConstBy_of_ne r wellKeyed "propertyName" (by decide) (by decide)
      (by decide)
    have hmapping := get?_withoutConstBy_of_ne r wellKeyed "mapping" (by decide) (by decide)
      (by decide)
    simp only [withoutConstBy_obj, Json.get?_obj] at hname hmapping ⊢
    rw [Schema.discriminatorForm?, Schema.discriminatorForm?, hname, hmapping]
    have hstr : ((Entries.get? "propertyName" members).map (rewrittenBy r "propertyName")).bind
        Json.str? = (Entries.get? "propertyName" members).bind Json.str? := by
      cases Entries.get? "propertyName" members with
      | none => rfl
      | some x => exact str?_rewrittenBy r _ x
    have hnames :
        Schema.mapping? ((Entries.get? "mapping" members).map (rewrittenBy r "mapping")) =
          Schema.mapping? (Entries.get? "mapping" members) := by
      cases hget : Entries.get? "mapping" members with
      | none => rfl
      | some x =>
        have hx : (Json.obj members).follow? [.key "mapping"] = some x := by
          rw [Json.follow?_single, Json.child?_key, Json.get?_obj, hget]
        exact mapping?_withoutConstBy r ((Json.follow?_concat_key hx "const").symm.trans h)
    rw [hstr, hnames]
  | arr items => rw [withoutConstBy_arr]; rfl
  | _ => rfl

lemma keywordAlike_discriminator (wellKeyed : v.WellKeyed)
    (h : v.follow? [.key "mapping", .key "const"] = none) :
    KeywordAlike "discriminator" (withoutConstBy r v) (withoutConstBy r' v) := by
  have hread : ∀ r, Schema.keyword "discriminator" (withoutConstBy r v) =
      Schema.keyword "discriminator" v := by
    intro r
    rw [Schema.keyword_of_plain rfl, Schema.keyword_of_plain rfl]
    refine congrArg (Except.map Keyword.discriminator)
      (Schema.formOf_congr "Discriminator" ?_ (discriminatorForm?_withoutConstBy r wellKeyed h))
    cases v <;> simp [withoutConstBy]
  exact .of_eq ((hread r).trans (hread r').symm)

/-! ### Schemas -/

/-- No property of a schema, or of a schema within it, is called `const`, and neither is a name
in the mapping of a discriminator. -/
def NoNameIsConst (v : Json) : Prop :=
  ∀ start path orFlag x, Route (.schema start) path (.schema orFlag) → v.follow? path = some x →
    x.follow? [.key "properties", .key "const"] = none ∧
      x.follow? [.key "discriminator", .key "mapping", .key "const"] = none

lemma NoNameIsConst.follow? {start orFlag : Bool} (h : NoNameIsConst v)
    (route : Route (.schema start) path (.schema orFlag)) (hx : v.follow? path = some x) :
    NoNameIsConst x := by
  intro start' path' orFlag' y route' hy
  have hfollow : v.follow? (path ++ path') = some y := by rw [Json.follow?_append, hx]; exact hy
  rcases route'.of_flag orFlag with ⟨rfl, -⟩ | route'
  · rw [List.append_nil] at hfollow
    exact h start path orFlag y route hfollow
  · exact h start (path ++ path') orFlag' y (route.append route') hfollow

/-- A schema is decoded to the same, in whichever way constants are removed from it. -/
def Settled (v : Json) : Prop :=
  v.WellKeyed → NoNameIsConst v → Alike Schema.Same (Schema.decode (withoutConstBy r v))
    (Schema.decode (withoutConstBy r' v))

lemma keywordAlike_properties (wellKeyed : v.WellKeyed) (hconst : v.get? "const" = none)
    (h : ∀ name x, v.get? name = some x → Alike Schema.Same (Schema.decode (withoutConstBy r x))
      (Schema.decode (withoutConstBy r' x))) :
    KeywordAlike "properties" (withoutConstBy r v) (withoutConstBy r' v) := by
  cases v with
  | obj named =>
    rw [withoutConstBy_of_get?_eq_none r hconst, withoutConstBy_of_get?_eq_none r' hconst]
    refine Schema.keywordAlike_properties ?_
    rw [List.forall₂_map_left_iff, List.forall₂_map_right_iff, List.forall₂_same]
    refine fun m hm => ⟨rfl, ?_⟩
    dsimp only [rewrittenBy]
    split
    · exact .refl .refl _
    · exact h m.1 m.2 (Entries.get?_of_mem wellKeyed.1 hm)
  | arr items =>
    rw [withoutConstBy_arr, withoutConstBy_arr]
    exact .of_failed ⟨_, rfl⟩ ⟨_, rfl⟩
  | _ => exact .refl "properties" _

lemma keywordAlike_allOf
    (h : ∀ i x, v.child? (.index i) = some x → Alike Schema.Same
      (Schema.decode (withoutConstBy r x)) (Schema.decode (withoutConstBy r' x))) :
    KeywordAlike "allOf" (withoutConstBy r v) (withoutConstBy r' v) := by
  cases v with
  | obj members =>
    rw [withoutConstBy_obj, withoutConstBy_obj]
    exact .of_failed ⟨_, rfl⟩ ⟨_, rfl⟩
  | arr items =>
    rw [withoutConstBy_arr, withoutConstBy_arr]
    refine Schema.keywordAlike_allOf ?_
    rw [List.forall₂_map_left_iff, List.forall₂_map_right_iff, List.forall₂_same]
    intro item hitem
    obtain ⟨i, hi⟩ := List.getElem?_of_mem hitem
    exact h i item hi
  | _ => exact .refl "allOf" _

/-- A keyword that holds one schema is decoded alike, if the schema is. -/
lemma keywordAlike_of_schema
    (hobj : ∀ members members', Alike Schema.Same (Schema.decode (.obj members))
      (Schema.decode (.obj members')) → KeywordAlike name (.obj members) (.obj members'))
    (harr : ∀ items, ∃ e, Schema.keyword name (.arr items) = .error e)
    (h : Alike Schema.Same (Schema.decode (withoutConstBy r v))
      (Schema.decode (withoutConstBy r' v))) :
    KeywordAlike name (withoutConstBy r v) (withoutConstBy r' v) := by
  cases v with
  | obj members =>
    rw [withoutConstBy_obj, withoutConstBy_obj] at h ⊢
    exact hobj _ _ h
  | arr items =>
    rw [withoutConstBy_arr, withoutConstBy_arr]
    exact .of_failed (harr _) (harr _)
  | _ => exact .refl name _

/-- Each keyword of a schema is decoded alike, if the schemas within are. -/
lemma keywordAlike_rewrittenBy (wellKeyed : v.WellKeyed) (free : NoNameIsConst v)
    (hx : v.get? name = some x) (hschema : Settled r r' x)
    (hschemas : ∀ s y, x.child? s = some y → Settled r r' y) :
    KeywordAlike name (rewrittenBy r name x) (rewrittenBy r' name x) := by
  have wellKeyedX : x.WellKeyed := wellKeyed.get? hx
  have hfollow : v.follow? [.key name] = some x := by
    rw [Json.follow?_single, Json.child?_key, hx]
  have hfree := free false [] false v .nil rfl
  rw [rewrittenBy, rewrittenBy]
  cases data : holdsData name with
  | true => exact .refl name x
  | false =>
    rw [if_neg (by simp), if_neg (by simp)]
    by_cases hproperties : name = "properties"
    · subst hproperties
      refine keywordAlike_properties r r' wellKeyedX
        ((Json.follow?_concat_key hfollow "const").symm.trans hfree.1) fun key y hy => ?_
      have hchild : x.child? (.key key) = some y := by simpa using hy
      refine hschemas _ y hchild (wellKeyedX.child? hchild) (free.follow?
        ((Route.single (.properties false)).concat (.schema key)) ?_)
      exact (Json.follow?_concat_key hfollow key).trans hy
    by_cases hadditional : name = "additionalProperties"
    · subst hadditional
      refine keywordAlike_of_schema r r' (fun _ _ => Schema.keywordAlike_additional)
        (fun _ => ⟨_, rfl⟩) (hschema wellKeyedX ?_)
      exact free.follow? (Route.single (.additional false)) hfollow
    by_cases hitems : name = "items"
    · subst hitems
      refine keywordAlike_of_schema r r' (fun _ _ => Schema.keywordAlike_items)
        (fun _ => ⟨_, rfl⟩) (hschema wellKeyedX ?_)
      exact free.follow? (Route.single (.items false)) hfollow
    by_cases hallOf : name = "allOf"
    · subst hallOf
      refine keywordAlike_allOf r r' fun i y hy => ?_
      refine hschemas _ y hy (wellKeyedX.child? hy) (free.follow?
        ((Route.single (.allOf false)).concat (.branch i)) ?_)
      exact (Json.follow?_concat_of_eq hfollow (.index i)).trans hy
    by_cases hdiscriminator : name = "discriminator"
    · subst hdiscriminator
      refine keywordAlike_discriminator r r' wellKeyedX ?_
      have hmapping := hfree.2
      rwa [Json.follow?_cons, Json.child?_key, hx, Option.bind_some] at hmapping
    have hunordered := unordered_withoutConstBy r r' wellKeyedX
    by_cases hplain : name ∈ plainKeywords
    · exact keywordAlike_plain hplain data hdiscriminator hunordered
    · refine Schema.keywordAlike_extra ?_ hunordered
      simp only [knownKeywords, List.mem_append, hplain, List.mem_cons, hproperties, hadditional,
        hitems, hallOf, List.not_mem_nil, or_self, not_false_eq_true]

lemma settled_obj (ih : ∀ m ∈ members, Settled r r' m.2 ∧
      ∀ s x, m.2.child? s = some x → Settled r r' x) : Settled r r' (.obj members) := by
  intro wellKeyed free
  have hget := fun r => get?_withoutConstBy r wellKeyed
  have wellKeyedBy := fun r => wellKeyed_withoutConstBy r wellKeyed
  simp only [withoutConstBy_obj, Json.get?_obj] at hget wellKeyedBy ⊢
  refine Schema.decode_alike_of_get? (wellKeyedBy r).1 (wellKeyedBy r').1 fun name => ?_
  have hrefl : ∀ o : Option Json, Option.Rel (KeywordAlike name) o o := by
    rintro (_ | x)
    · exact .none
    · exact .some (.refl name x)
  rw [hget, hget]
  by_cases hconst : name = "const"
  · rw [if_pos hconst, if_pos hconst]
    exact .none
  rw [if_neg hconst, if_neg hconst]
  cases hx : Entries.get? name members with
  | none => exact hrefl _
  | some x =>
    obtain ⟨hschema, hschemas⟩ := ih (name, x) (Entries.mem_of_get? hx)
    exact .some (keywordAlike_rewrittenBy r r' wellKeyed free hx hschema hschemas)

lemma settled (v : Json) : Settled r r' v := by
  -- The schemas of a map and of a list stand two steps below the schema.
  suffices h : Settled r r' v ∧ ∀ s x, v.child? s = some x → Settled r r' x from h.1
  induction v using Json.induction_on with
  | obj members ih =>
    refine ⟨settled_obj r r' ih, fun s x hx => ?_⟩
    cases s with
    | key name =>
      rw [Json.child?_key] at hx
      exact (ih (name, x) (Entries.mem_of_get? hx)).1
    | index i => cases hx
  | arr items ih =>
    refine ⟨fun _ _ => ?_, fun s x hx => ?_⟩
    · rw [withoutConstBy_arr, withoutConstBy_arr]
      exact .failed _ _
    · cases s with
      | key name => cases hx
      | index i => exact (ih x (List.mem_of_getElem? hx)).1
  | leaf v hentries hitems =>
    cases v with
    | obj members => cases hentries
    | arr items => cases hitems
    | _ => exact ⟨fun _ _ => .refl .refl _, fun s x hx => by cases s <;> cases hx⟩

/-! ### Parameters and responses -/

/-- Take keywords out of members one after the other, where keys are removed in some way. -/
def takeKeywordsBy (members : List (String × Json)) :
    List String → List (String × Json) × List (String × Json)
  | [] => ([], members)
  | key :: keys =>
    match Entries.get? key members with
    | none => takeKeywordsBy members keys
    | some value =>
      let (found, left) := takeKeywordsBy (r.erase key members) keys
      ((key, value) :: found, left)

/-- The members of a parameter with its inline keywords moved under `schema`. -/
def liftKeywordsBy (members : List (String × Json)) : List (String × Json) :=
  if Entries.has "schema" members || Entries.has "$ref" members
      || ((Entries.get? "in" members).bind Json.str? == some "body") then
    members
  else
    match takeKeywordsBy r members inlineKeywords with
    | ([], _) => members
    | (found, left) => Entries.insert "schema" (.obj found) left

/-- The members of a response with schema and examples moved under `content`. -/
def liftContentBy (members : List (String × Json)) : List (String × Json) :=
  if Entries.has "content" members || Entries.has "$ref" members then members
  else
    let schema := Entries.get? "schema" members
    let samples := Entries.get? "examples" members
    if schema.isNone && samples.isNone then members
    else
      Entries.insert "content" (.obj (contentOf schema samples))
        (r.erase "examples" (r.erase "schema" members))

lemma takeKeywordsBy_swap (members : List (String × Json)) (keys : List String) :
    takeKeywordsBy .swap members keys = takeKeywords members keys := by
  induction keys generalizing members with
  | nil => rfl
  | cons key keys ih =>
    rw [takeKeywordsBy, takeKeywords]
    simp only [ih]
    rfl

/-- The keywords found are those of the members, in the order in which they are looked for. -/
lemma takeKeywordsBy_fst (keys : List String) (distinct : keys.Nodup)
    (nodup : (Entries.keys members).Nodup) :
    (takeKeywordsBy r members keys).1 =
      keys.filterMap fun key => (Entries.get? key members).map (Prod.mk key) := by
  induction keys generalizing members with
  | nil => rfl
  | cons key keys ih =>
    obtain ⟨hkey, distinct⟩ := List.nodup_cons.1 distinct
    rw [takeKeywordsBy, List.filterMap_cons]
    cases Entries.get? key members with
    | none => exact ih distinct nodup
    | some value =>
      refine congrArg (List.cons (key, value))
        ((ih distinct (r.nodup_keys_erase key nodup)).trans ?_)
      refine List.filterMap_congr fun key' hkey' => ?_
      have hne : key' ≠ key := fun h => hkey (h ▸ hkey')
      rw [r.get?_erase nodup, if_neg hne]

lemma get?_schema_liftKeywordsBy (nodup : (Entries.keys members).Nodup) :
    Entries.get? "schema" (liftKeywordsBy r members) =
      Entries.get? "schema" (liftKeywords members) := by
  have hfound : (takeKeywordsBy r members inlineKeywords).1 =
      (takeKeywords members inlineKeywords).1 := by
    rw [← takeKeywordsBy_swap, takeKeywordsBy_fst r _ (by decide) nodup,
      takeKeywordsBy_fst .swap _ (by decide) nodup]
  rw [liftKeywordsBy, liftKeywords]
  split
  · rfl
  · generalize takeKeywordsBy r members inlineKeywords = taken,
      takeKeywords members inlineKeywords = taken' at hfound ⊢
    obtain ⟨found, left⟩ := taken
    obtain ⟨found', left'⟩ := taken'
    obtain rfl : found = found' := hfound
    cases found with
    | nil => rfl
    | cons first rest =>
      dsimp only
      rw [Entries.get?_insert, Entries.get?_insert, if_pos rfl, if_pos rfl]

lemma get?_content_liftContentBy (members : List (String × Json)) :
    Entries.get? "content" (liftContentBy r members) =
      Entries.get? "content" (liftContent members) := by
  rw [liftContentBy, liftContent]
  split
  · rfl
  · dsimp only
    split
    · rfl
    · rw [Entries.get?_insert, Entries.get?_insert, if_pos rfl, if_pos rfl]

/-! ### Order of keywords -/

/-- A schema is decoded to the same however its keywords are ordered, with or without keywords
that are null. So it makes no difference to a schema in which way the passes over a document
remove keys: neither to a schema with constants, as long as no name is `const`, nor to the schema
of a parameter or the content of a response that are put together from keywords. -/
theorem decode_of_spelling (members : List (String × Json)) (r : Entries.Removal Json) :
    (∀ members', Schema.Respelled members members' →
      Alike Schema.Same (Schema.decode (.obj members)) (Schema.decode (.obj members'))) ∧
    ((Json.obj members).WellKeyed →
      (NoNameIsConst (.obj members) →
        Alike Schema.Same (Schema.decode (withoutConst (.obj members)))
          (Schema.decode (withoutConstBy r (.obj members)))) ∧
      Entries.get? "schema" (liftKeywords members) =
        Entries.get? "schema" (liftKeywordsBy r members) ∧
      Entries.get? "content" (liftContent members) =
        Entries.get? "content" (liftContentBy r members)) := by
  refine ⟨fun _ => Schema.Respelled.alike, fun wellKeyed => ⟨fun free => ?_, ?_, ?_⟩⟩
  · rw [← withoutConstBy_swap]
    exact settled .swap r _ wellKeyed free
  · exact (get?_schema_liftKeywordsBy r wellKeyed.1).symm
  · exact (get?_content_liftContentBy r members).symm

/-- The keywords of a schema with a constant. -/
def catKeywords : List (String × Json) :=
  [("const", .str "cat"), ("title", .str "Kind"), ("format", .str "word")]

/-- The schema with a constant is decoded to the same from back to front, with a keyword that is
null, and when the title stays before the format as the constant is removed. -/
theorem decode_of_spelling_cat :
    Alike Schema.Same (Schema.decode (.obj catKeywords))
        (Schema.decode (.obj (("items", .null) :: catKeywords.reverse))) ∧
      Entries.keys (constToEnum catKeywords) ≠
        Entries.keys (constToEnumBy .inOrder catKeywords) ∧
      Alike Schema.Same (Schema.decode (withoutConst (.obj catKeywords)))
        (Schema.decode (withoutConstBy .inOrder (.obj catKeywords))) := by
  have nodup : (Entries.keys catKeywords).Nodup := by decide
  have wellKeyed : (Json.obj catKeywords).WellKeyed := by
    simp [catKeywords, Json.WellKeyed, Json.WellKeyedEntries, Entries.keys]
  have free : NoNameIsConst (.obj catKeywords) := by
    intro start path orFlag x route hx
    -- No schema stands within the schema.
    have hplace := route.holds (motive := fun a v => (∃ orFlag, a = .schema orFlag) ∧
      v = .obj catKeywords) ⟨⟨start, rfl⟩, rfl⟩ ?_ hx
    · rw [hplace.2]
      exact ⟨rfl, rfl⟩
    · rintro a b s v x leads ⟨⟨orFlag, rfl⟩, rfl⟩ hchild
      cases leads <;> cases hchild
  have respelled : Schema.Respelled catKeywords (("items", .null) :: catKeywords.reverse) :=
    .trans (.permute nodup (List.reverse_perm _).symm) (.null (by decide) (by decide))
  obtain ⟨hspelling, hremoval⟩ := decode_of_spelling catKeywords .inOrder
  exact ⟨hspelling _ respelled, by decide, (hremoval wellKeyed).1 free⟩

/-- A schema with properties of which one is called `const`. The properties called `type` and
`enum` keep the rewriting of constants from putting anything in its place. -/
def constBetween : Json :=
  .obj [("properties", .obj [("a", .obj []), ("const", .obj []), ("type", .obj []),
    ("enum", .obj []), ("b", .obj [])])]

/-- The schema is read, but the last property takes the place of the one that is removed. -/
theorem constBetween_reordered :
    ∃ s t, Schema.decode (withoutConst constBetween) = .ok s ∧
      Schema.decode (withoutConstBy .inOrder constBetween) = .ok t ∧
      s.properties.map Entries.keys = some ["a", "b", "type", "enum"] ∧
      t.properties.map Entries.keys = some ["a", "type", "enum", "b"] ∧ ¬s.Same t := by
  refine ⟨_, _, rfl, rfl, rfl, rfl, fun h => ?_⟩
  have hkeys := congrArg (Option.map Entries.keys) (Schema.same_iff.1 h).2.2.1
  revert hkeys
  decide

end OpenApiDoc.Document
