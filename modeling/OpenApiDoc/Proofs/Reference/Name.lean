import OpenApiDoc.Proofs.Reference.Segment
import OpenApiDoc.Proofs.Text.Segments

/-!
# Names of references

A reference into the schemas or definitions of the document itself stands for the definition that
its last segment spells. So does any other reference whose last segment is plain: it has no `#`
and does not end like the name of a document file.

A name that is written into a segment is read back, whatever characters it is made of. But a
character that is written with percent escapes instead of itself may change the name.
-/

namespace OpenApiDoc.Reference

open Text Text.Percent

variable {self : Option String} {reference part name : String} {before segment : List Char}

/-! ### The segment that is read -/

/-- What stands before the last slash of a reference into the schemas or definitions
of the document itself. -/
def InPlace (self : Option String) (before : List Char) : Prop :=
  ∃ document : List Char, '#' ∉ document ∧
    (document = [] ∨ self = some (String.ofList document)) ∧
    ∃ place ∈ ["#/components/schemas".toList, "#/definitions".toList], before = document ++ place

/-- The segment is the last one of the reference, and it is read as it stands. -/
def EndsIn (self : Option String) (reference : String) (segment : List Char) : Prop :=
  segment ≠ [] ∧ '/' ∉ segment ∧ ∃ before, reference.toList = before ++ '/' :: segment ∧
    (InPlace self before ∨ '#' ∉ segment ∧ withoutFileEnding segment = segment)

lemma segments_last (before : List Char) (h : '/' ∉ segment) :
    Text.segments (· == '/') (before ++ '/' :: segment) =
      Text.segments (· == '/') before ++ [segment] := by
  rw [segments_append_cons before rfl, segments_of_not_mem h]

lemma getLast?_of_segmentIn? {segments : List (List Char)}
    (h : segmentIn? part segments = some segment) : segments.getLast? = some segment := by
  rw [segmentIn?.eq_def] at h
  split at h
  · split_ifs at h
    exact h
  · split_ifs at h
    exact h
  · cases h

/-- What is left out at the beginning of a pointer is not its last segment. -/
lemma exists_segments_path (before : List Char) (h : '/' ∉ segment) :
    ∃ init, Text.segments (· == '/')
      (((before ++ '/' :: segment).dropWhile (· == '#')).dropWhile (· == '/')) =
        init ++ [segment] := by
  have hhash : (before ++ '/' :: segment).dropWhile (· == '#') =
      before.dropWhile (· == '#') ++ '/' :: segment := by
    rw [List.dropWhile_append]
    split
    · next hempty =>
      rw [List.isEmpty_iff.1 hempty]
      rfl
    · rfl
  rw [hhash, List.dropWhile_append]
  split
  · have hslash : ('/' :: segment).dropWhile (· == '/') = segment := by
      rw [List.dropWhile_cons_of_pos (by rfl)]
      cases segment with
      | nil => rfl
      | cons c rest =>
        have hne := (List.ne_of_not_mem_cons h).symm
        exact List.dropWhile_cons_of_neg (by simpa using hne)
    refine ⟨[], ?_⟩
    rw [hslash]
    exact segments_of_not_mem h
  · exact ⟨_, segments_last _ h⟩

/-- A name that a local reference finds is spelled by its last segment, if there
is no `#` in it. -/
lemma componentName?_of_last (h : reference.toList = before ++ '/' :: segment)
    (hslash : '/' ∉ segment) (hhash : '#' ∉ segment)
    (hname : componentName? self part reference = some name) :
    name = String.ofList (decodeSegment segment) := by
  have hpointer : ∀ {pointer}, localPointer? self reference = some pointer →
      ∃ before', pointer = before' ++ '/' :: segment := by
    intro pointer hlocal
    by_cases hmem : '#' ∈ reference.toList
    · obtain ⟨document, pointer', htext, hdocument⟩ := List.eq_append_cons_of_mem hmem
      rw [localPointer?, htext, cutAt_append_cons hdocument] at hlocal
      dsimp only at hlocal
      obtain rfl : pointer' = pointer := by
        split_ifs at hlocal
        exact Option.some.inj hlocal
      rw [h, List.append_eq_append_iff] at htext
      obtain ⟨more, -, hsegment⟩ | ⟨more, -, hpointer⟩ := htext
      · have hmem : '#' ∈ '/' :: segment := by simp [hsegment]
        exact absurd hmem (by simp [hhash])
      · rcases more with _ | ⟨c, more⟩
        · cases hpointer
        · exact ⟨more, (List.cons.inj hpointer).2⟩
    · rw [localPointer?, cutAt_of_not_mem hmem] at hlocal
      cases hlocal
  rw [componentName?] at hname
  split at hname
  · cases hname
  · next pointer hlocal =>
    obtain ⟨before', rfl⟩ := hpointer hlocal
    obtain ⟨init, hsegments⟩ := exists_segments_path before' hslash
    dsimp only at hname
    rw [hsegments] at hname
    split at hname
    · cases hname
    · next last hlast =>
      have hlast := getLast?_of_segmentIn? hlast
      rw [List.getLast?_append_of_ne_nil _ (List.cons_ne_nil _ _)] at hlast
      cases hlast
      split_ifs at hname
      exact (Option.some.inj hname).symm

/-- The last segment is also what any other reference is named for. -/
lemma lastSegment?_of_last (h : reference.toList = before ++ '/' :: segment) (hne : segment ≠ [])
    (hslash : '/' ∉ segment) (hhash : '#' ∉ segment) :
    lastSegment? reference.toList = some segment := by
  have hsegment : Text.segments (fun c => c == '/' || c == '#') segment = [segment] := by
    refine segments_of_forall fun c hc => ?_
    simp [ne_of_mem_of_not_mem hc hslash, ne_of_mem_of_not_mem hc hhash]
  rw [lastSegment?, h, segments_append_cons before rfl, hsegment, List.reverse_concat]
  exact List.find?_cons_of_pos (by simpa using hne)

lemma componentName?_eq_some {pointer : List Char}
    (hlocal : localPointer? self reference = some pointer)
    (hpath : segmentIn? part (Text.segments (· == '/')
      ((pointer.dropWhile (· == '#')).dropWhile (· == '/'))) = some segment)
    (hne : segment ≠ []) :
    componentName? self part reference = some (String.ofList (decodeSegment segment)) := by
  simp [componentName?, hlocal, hpath, decodeSegment_ne_nil hne]

lemma componentName?_eq_none {pointer : List Char}
    (hlocal : localPointer? self reference = some pointer)
    (hpath : segmentIn? part (Text.segments (· == '/')
      ((pointer.dropWhile (· == '#')).dropWhile (· == '/'))) = none) :
    componentName? self part reference = none := by
  simp [componentName?, hlocal, hpath]

/-- A reference into the schemas or definitions finds the name that its last segment spells. -/
lemma definitionName_of_inPlace (h : reference.toList = before ++ '/' :: segment)
    (hne : segment ≠ []) (hslash : '/' ∉ segment) (hplace : InPlace self before) :
    definitionName self reference = String.ofList (decodeSegment segment) := by
  obtain ⟨document, hdocument, hself, place, hmem, rfl⟩ := hplace
  have hlocal : ∀ pointer, reference.toList = document ++ '#' :: pointer →
      localPointer? self reference = some pointer := by
    intro pointer htext
    rw [localPointer?, htext, cutAt_append_cons hdocument]
    refine if_pos ?_
    rcases hself with rfl | rfl
    · rfl
    · simp [designates]
  have hcontains : reference.toList.contains '/' = true := by simp [h]
  rw [definitionName]
  simp only [hcontains, Bool.not_true, Bool.and_false, Bool.false_eq_true, if_false]
  simp only [List.mem_cons, List.not_mem_nil, or_false] at hmem
  rcases hmem with rfl | rfl
  · have hpath : Text.segments (· == '/') ((("/components/schemas".toList ++
        '/' :: segment).dropWhile (· == '#')).dropWhile (· == '/')) =
          ["components".toList, "schemas".toList, segment] :=
      segments_last "components/schemas".toList hslash
    have hpointer := hlocal ("/components/schemas".toList ++ '/' :: segment) (by simp [h])
    rw [componentName?_eq_some hpointer (by rw [hpath]; rfl) hne]
  · have hpath : Text.segments (· == '/') ((("/definitions".toList ++
        '/' :: segment).dropWhile (· == '#')).dropWhile (· == '/')) =
          ["definitions".toList, segment] :=
      segments_last "definitions".toList hslash
    have hpointer := hlocal ("/definitions".toList ++ '/' :: segment) (by simp [h])
    rw [componentName?_eq_none hpointer (by rw [hpath]; rfl),
      componentName?_eq_some hpointer (by rw [hpath]; rfl) hne]

/-- The name that a reference stands for is the one that the segment spells which it ends in. -/
theorem definitionName_of_endsIn (h : EndsIn self reference segment) :
    definitionName self reference = String.ofList (decodeSegment segment) := by
  obtain ⟨hne, hslash, before, htext, hplace | ⟨hhash, hplain⟩⟩ := h
  · exact definitionName_of_inPlace htext hne hslash hplace
  · have hcontains : reference.toList.contains '/' = true := by simp [htext]
    rw [definitionName]
    simp only [hcontains, Bool.not_true, Bool.and_false, Bool.false_eq_true, if_false]
    split
    · next name hname => exact componentName?_of_last htext hslash hhash hname
    · split
      · next name hname => exact componentName?_of_last htext hslash hhash hname
      · rw [lastSegment?_of_last htext hne hslash hhash, Option.getD_some, hplain]

/-! ### Names that are written -/

/-- A name with tilde escapes for tildes and slashes. -/
def escapeTildes (name : List Char) : List Char :=
  name.flatMap fun c => if c = '~' then ['~', '0'] else if c = '/' then ['~', '1'] else [c]

/-- Letters, digits and four signs. -/
def isUnreserved (octet : Nat) : Bool :=
  (0x30 ≤ octet && octet ≤ 0x39) || (0x41 ≤ octet && octet ≤ 0x5A)
    || (0x61 ≤ octet && octet ≤ 0x7A)
    || octet == 0x2D || octet == 0x2E || octet == 0x5F || octet == 0x7E

/-- A name as the segment of a pointer in an address: with tilde escapes, and then with percent
escapes for all octets that are not unreserved. -/
def encodeSegment (name : List Char) : List Char :=
  (Utf8.encode (escapeTildes name)).flatMap (write isUnreserved)

/-- An octet that stands for itself, or a slash. -/
def isBare (octet : Nat) : Bool := isUnreserved octet || octet == 0x2F

lemma lt_of_isBare {octet : Nat} (h : isBare octet = true) : octet < 0x80 ∧ octet ≠ 0x25 := by
  simp only [isBare, isUnreserved, Bool.or_eq_true, Bool.and_eq_true, decide_eq_true_eq,
    beq_iff_eq] at h
  omega

lemma lt_of_isUnreserved {octet : Nat} (h : isUnreserved octet = true) : octet < 0x80 :=
  (lt_of_isBare (by simp [isBare, h])).1

lemma slash_not_mem_encodeSegment (name : List Char) : '/' ∉ encodeSegment name := by
  intro hmem
  obtain ⟨octet, hoctet, hslash⟩ := List.mem_flatMap.1 hmem
  obtain ⟨hplain, rfl⟩ := eq_toNat_of_mem_write (fun _ => lt_of_isUnreserved)
    (Utf8.lt_of_mem_encode hoctet) (by decide) hslash
  exact absurd hplain (by decide)

/-- The octets of a character that is neither a tilde nor a slash are written without tilde, and
as they would be if slashes stood for themselves. -/
lemma flatMap_write_encodeChar {c : Char} (htilde : c ≠ '~') (hslash : c ≠ '/') :
    '~' ∉ (Utf8.encodeChar c).flatMap (write isUnreserved) ∧
      (Utf8.encodeChar c).flatMap (write isUnreserved) =
        (Utf8.encodeChar c).flatMap (write isBare) := by
  constructor
  · intro hmem
    obtain ⟨octet, hoctet, hwritten⟩ := List.mem_flatMap.1 hmem
    obtain ⟨-, rfl⟩ := eq_toNat_of_mem_write (fun _ => lt_of_isUnreserved)
      (Utf8.lt_of_mem_encodeChar hoctet) (by decide) hwritten
    exact htilde (Utf8.eq_of_toNat_mem_encodeChar (by decide) hoctet)
  · refine List.flatMap_congr fun octet hoctet => ?_
    have hne : octet ≠ 0x2F := by
      rintro rfl
      exact hslash (Utf8.eq_of_toNat_mem_encodeChar (a := '/') (by decide) hoctet)
    have hbare : isBare octet = isUnreserved octet := by simp [isBare, hne]
    rw [write, write, hbare]

/-- Where tilde escapes are undone, the octets of the name are left. -/
lemma unescape_encodeSegment (name : List Char) :
    unescape (encodeSegment name) = (Utf8.encode name).flatMap (write isBare) := by
  induction name with
  | nil => rfl
  | cons c name ih =>
    have hencode : encodeSegment (c :: name) = encodeSegment [c] ++ encodeSegment name := by
      simp [encodeSegment, escapeTildes, Utf8.encode]
    have hbare : (Utf8.encode (c :: name)).flatMap (write isBare) =
        (Utf8.encodeChar c).flatMap (write isBare) ++
          (Utf8.encode name).flatMap (write isBare) := by
      simp [Utf8.encode]
    rw [hencode, hbare, ← ih]
    by_cases htilde : c = '~'
    · subst htilde
      rfl
    by_cases hslash : c = '/'
    · subst hslash
      rfl
    have hchar : encodeSegment [c] = (Utf8.encodeChar c).flatMap (write isUnreserved) := by
      simp [encodeSegment, escapeTildes, Utf8.encode, htilde, hslash]
    obtain ⟨hnot, heq⟩ := flatMap_write_encodeChar htilde hslash
    rw [hchar, unescape_append_of_not_mem hnot, heq]

/-- A name is read back from the segment that it is written into. -/
theorem decodeSegment_encodeSegment (name : List Char) :
    decodeSegment (encodeSegment name) = name := by
  rw [decodeSegment, unescape_encodeSegment]
  exact decode_flatMap_write (fun _ => lt_of_isBare) name

/-- A segment behind one of the places for definitions, in the document itself. -/
lemma endsIn_place {place document : String}
    (hplace : place ∈ ["#/components/schemas/", "#/definitions/"])
    (hdocument : '#' ∉ document.toList) (hself : document = "" ∨ self = some document)
    (hne : segment ≠ []) (hslash : '/' ∉ segment) :
    EndsIn self (document ++ place ++ String.ofList segment) segment := by
  obtain ⟨within, hwithin, hplace⟩ :
      ∃ within ∈ ["#/components/schemas".toList, "#/definitions".toList],
        place.toList = within ++ ['/'] := by
    simp only [List.mem_cons, List.not_mem_nil, or_false] at hplace
    rcases hplace with rfl | rfl
    · exact ⟨_, .head _, rfl⟩
    · exact ⟨_, .tail _ (.head _), rfl⟩
  have hself' : document.toList = [] ∨ self = some (String.ofList document.toList) := by
    rcases hself with rfl | rfl
    · exact .inl rfl
    · exact .inr (by rw [String.ofList_toList])
  exact ⟨hne, hslash, document.toList ++ within, by simp [hplace],
    .inl ⟨document.toList, hdocument, hself', within, hwithin, rfl⟩⟩

/-- In a reference into the schemas or definitions, be they those of a document without address
or of the document with this one, a name is read back that is written into the last segment. -/
theorem definitionName_encodeSegment {name : String} (hname : name ≠ "") :
    ∀ place ∈ ["#/components/schemas/", "#/definitions/"],
      (∀ self, definitionName self (place ++ String.ofList (encodeSegment name.toList)) = name) ∧
      ∀ document : String, '#' ∉ document.toList →
        definitionName (some document)
          (document ++ place ++ String.ofList (encodeSegment name.toList)) = name := by
  intro place hplace
  have hread : String.ofList (decodeSegment (encodeSegment name.toList)) = name := by
    rw [decodeSegment_encodeSegment, String.ofList_toList]
  have hne : encodeSegment name.toList ≠ [] := by
    intro hnil
    rw [hnil] at hread
    exact hname hread.symm
  have hslash := slash_not_mem_encodeSegment name.toList
  constructor
  · intro self
    have hends : EndsIn self ("" ++ place ++ String.ofList (encodeSegment name.toList)) _ :=
      endsIn_place hplace List.not_mem_nil (.inl rfl) hne hslash
    rw [String.empty_append] at hends
    rw [definitionName_of_endsIn hends, hread]
  · intro document hdocument
    rw [definitionName_of_endsIn (endsIn_place hplace hdocument (.inr rfl) hne hslash), hread]

/-- A name with both escapes in it, and characters that mean something in addresses. -/
theorem definitionName_encodeSegment_escapes :
    "a/~1%2F#é" ≠ "" ∧ '#' ∉ "https://pets.example/api.json".toList ∧
    encodeSegment "a/~1%2F#é".toList = "a~1~01%252F%23%C3%A9".toList ∧
    definitionName none "#/components/schemas/a~1~01%252F%23%C3%A9" = "a/~1%2F#é" ∧
    definitionName (some "https://pets.example/api.json")
      "https://pets.example/api.json#/definitions/a~1~01%252F%23%C3%A9" = "a/~1%2F#é" := by
  have hwritten : encodeSegment "a/~1%2F#é".toList = "a~1~01%252F%23%C3%A9".toList := by
    decide +kernel
  have hdocument : '#' ∉ "https://pets.example/api.json".toList := by decide +kernel
  have hname : "a/~1%2F#é" ≠ "" := by decide
  have h := definitionName_encodeSegment hname
  rw [hwritten] at h
  exact ⟨hname, hdocument, hwritten, (h _ (.head _)).1 none,
    (h _ (.tail _ (.head _))).2 _ hdocument⟩

/-! ### Names that are written in another way -/

/-- The name that a segment spells in an address: percent escapes stand for characters of the
pointer, and in the pointer `~1` stands for a slash and, after that, `~0` for a tilde. -/
def decodeInAddress (segment : List Char) : List Char :=
  replace ['~', '0'] ['~'] (replace ['~', '1'] ['/'] (Percent.decode segment))

/-- A segment is read as one in an address just if it hides no tilde escape. So a segment may be
written with other percent escapes for the same characters, and the reference still stands for
the same definition, just if no tilde escape is hidden by that. What stands before the segment
may be written in any way, but a slash that is written as an escape does not end a segment. -/
theorem decodeSegment_respelled (self : Option String) (segment : List Char) :
    (decodeSegment segment = decodeInAddress segment ↔ ¬ HidesEscape segment) ∧
    ∀ reference, EndsIn self reference segment →
      (∀ (plain : String) (spelled : List Char), EndsIn self plain spelled →
        Percent.decode segment = Percent.decode spelled → ¬ HidesEscape spelled →
        (definitionName self reference = definitionName self plain ↔ ¬ HidesEscape segment)) ∧
      ∀ before rest : List Char, ∀ slash ∈ ["%2F".toList, "%2f".toList],
        segment = before ++ slash ++ rest →
        definitionName self reference =
          String.ofList (decodeSegment before ++ '/' :: decodeSegment rest) := by
  have hagree : decodeSegment segment = decodeInAddress segment ↔ ¬ HidesEscape segment := by
    rw [decodeInAddress, ← unescape_eq_replace, decodeSegment_eq_unescape_iff]
  refine ⟨hagree, fun reference hends => ⟨?_, ?_⟩⟩
  · intro plain spelled hspelled hsame hplain
    rw [definitionName_of_endsIn hends, definitionName_of_endsIn hspelled, String.ofList_inj,
      (decodeSegment_eq_unescape_iff spelled).2 hplain, ← hsame, decodeSegment_eq_unescape_iff]
  · rintro before rest slash hslash rfl
    rw [definitionName_of_endsIn hends, decodeSegment_append_slash hslash]

/-- Letters of the section and of the name are written as escapes, and the tilde
escape is not. -/
theorem decodeSegment_respelled_details :
    EndsIn none "#/components/schemas/Pet~1Details" "Pet~1Details".toList ∧
    EndsIn none "#/%63omponents/schemas/%50et~1Details" "%50et~1Details".toList ∧
    Percent.decode "%50et~1Details".toList = Percent.decode "Pet~1Details".toList ∧
    ¬ HidesEscape "Pet~1Details".toList ∧ ¬ HidesEscape "%50et~1Details".toList ∧
    definitionName none "#/%63omponents/schemas/%50et~1Details" =
      definitionName none "#/components/schemas/Pet~1Details" ∧
    EndsIn none "#/components/schemas%2FPet" ("schemas".toList ++ "%2F".toList ++ "Pet".toList) ∧
    definitionName none "#/components/schemas%2FPet" = "schemas/Pet" := by
  have hplace : InPlace none "#/components/schemas".toList :=
    ⟨[], List.not_mem_nil, .inl rfl, _, .head _, rfl⟩
  have hends : EndsIn none "#/components/schemas/Pet~1Details" "Pet~1Details".toList :=
    ⟨by decide, by decide, _, rfl, .inl hplace⟩
  have hends' : EndsIn none "#/%63omponents/schemas/%50et~1Details" "%50et~1Details".toList :=
    ⟨by decide, by decide, "#/%63omponents/schemas".toList, rfl, .inr ⟨by decide, rfl⟩⟩
  have hslash : EndsIn none "#/components/schemas%2FPet"
      ("schemas".toList ++ "%2F".toList ++ "Pet".toList) :=
    ⟨by decide, by decide, "#/components".toList, rfl, .inr ⟨by decide, rfl⟩⟩
  have hsame :
      Percent.decode "%50et~1Details".toList = Percent.decode "Pet~1Details".toList := by
    decide +kernel
  have hplain : ¬ HidesEscape "Pet~1Details".toList := by decide +kernel
  have hplain' : ¬ HidesEscape "%50et~1Details".toList := by decide +kernel
  have hrespelled := (decodeSegment_respelled none "%50et~1Details".toList).2 _ hends'
  have hescaped := (decodeSegment_respelled none
    ("schemas".toList ++ "%2F".toList ++ "Pet".toList)).2 _ hslash
  exact ⟨hends, hends', hsame, hplain, hplain', (hrespelled.1 _ _ hends hsame hplain).2 hplain',
    hslash, hescaped.2 _ _ _ (.head _) rfl⟩

/-- A tilde that is written as an escape hides the tilde escape that it begins. -/
theorem hidden_slash_misread :
    decodeInAddress "a%7E1b".toList = "a/b".toList ∧
    decodeSegment "a%7E1b".toList = "a~1b".toList ∧
    definitionName none "#/components/schemas/a~1b" = "a/b" ∧
    definitionName none "#/components/schemas/a%7E1b" = "a~1b" := by
  decide +kernel

end OpenApiDoc.Reference
