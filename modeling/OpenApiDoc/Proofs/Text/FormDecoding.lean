import OpenApiDoc.Proofs.Text.Form
import OpenApiDoc.Proofs.Text.Percent
import OpenApiDoc.Proofs.Text.Replace
import OpenApiDoc.Proofs.Text.Segments

/-!
# Reading what is written in a form

A reader of forms takes a plus sign for a space and each escape for an octet, and the octets for
UTF-8. So it gives back every text that is written in a form. A text is also written by replacing
each `%20` in what percent encoding makes of it, as only a space is written so.

A query is read as pairs: it is cut at the ampersands, and each part at its first equals sign.
-/

namespace OpenApiDoc.Text

open Percent (hexDigit)

variable {octet : Nat} {text name value : List Char}

namespace Form

/-- What a reader takes a character for. -/
def spaced (c : Char) : Char := if c = '+' then ' ' else c

/-- A text as read from a form. -/
def decode (text : List Char) : List Char := Percent.decode (text.map spaced)

/-- A text as read from a form, if what is written in it is well-formed UTF-8. -/
def decode? (text : List Char) : Option (List Char) :=
  Utf8.decode? (Percent.decodeOctets (Utf8.encode (text.map spaced)))

/-! ### Texts that are written -/

lemma spaced_hexDigit : ∀ n < 16, spaced (hexDigit n) = hexDigit n := by decide

lemma isPlain_reads (plain : isPlain octet = true) :
    spaced (Char.ofNat octet) = Char.ofNat octet ∧ octet < 0x80 ∧ octet ≠ 0x25 := by
  have hlt : octet < 128 ∧ octet ≠ 0x25 ∧ octet ≠ 0x2B := by
    simp only [isPlain, Bool.or_eq_true, Bool.and_eq_true, decide_eq_true_eq,
      beq_iff_eq] at plain
    omega
  have hne : Char.ofNat octet ≠ '+' := by
    intro heq
    have hnat := Utf8.toNat_ofNat_of_ascii hlt.1
    rw [heq] at hnat
    exact hlt.2.2 hnat.symm
  exact ⟨if_neg hne, hlt.1, hlt.2.1⟩

/-- What is written for an octet is read as the octet. -/
lemma decodeOctets_encodeOctet (hoctet : octet < 256) (rest : List Char) :
    Percent.decodeOctets (Utf8.encode ((encodeOctet octet).map spaced ++ rest)) =
      octet :: Percent.decodeOctets (Utf8.encode rest) := by
  rw [encodeOctet]
  split
  · next plain =>
    obtain ⟨hspaced, hlt, hne⟩ := isPlain_reads plain
    rw [List.map_singleton, hspaced]
    exact Percent.decodeOctets_ofNat hlt hne rest
  · split
    · next hspace =>
      subst hspace
      have hspace : 0x20 < 0x80 ∧ 0x20 ≠ 0x25 := by decide
      exact Percent.decodeOctets_ofNat hspace.1 hspace.2 rest
    · have hpercent : spaced '%' = '%' := rfl
      have hescape : (Percent.escape octet).map spaced = Percent.escape octet := by
        simp [Percent.escape, hpercent, spaced_hexDigit (octet / 16) (by omega),
          spaced_hexDigit (octet % 16) (by omega)]
      rw [hescape]
      exact (Percent.beginsWithEscape_escape hoctet rest).decodeOctets

lemma decodeOctets_encode (text : List Char) :
    Percent.decodeOctets (Utf8.encode ((encode text).map spaced)) = Utf8.encode text := by
  rw [encode, List.map_flatMap]
  exact Percent.decodeOctets_flatMap (fun octet hoctet => decodeOctets_encodeOctet hoctet)
    fun _ h => Utf8.lt_of_mem_encode h

/-- A text that is written in a form is read as the text. -/
theorem decode_encode (text : List Char) : decode (encode text) = text := by
  rw [decode, Percent.decode, decodeOctets_encode, Utf8.decode_encode]

lemma length_decode_le (text : List Char) : (decode text).length ≤ text.length := by
  have h := Percent.length_decode_le (text.map spaced)
  rwa [List.length_map] at h

/-! ### Spaces -/

/-- The name and the value that a part of a query stands for; the value is empty where
there is no equals sign. -/
def decodePair (part : List Char) : List Char × List Char :=
  match cutAt '=' part with
  | some (name, value) => (decode name, decode value)
  | none => (decode part, [])

/-- The pairs of a query. -/
def decodePairs (query : List Char) : List (List Char × List Char) :=
  (segments (· == '&') query).map decodePair

/-- The pairs of the query in a path: what stands behind the first question mark. -/
def decodeQuery (path : List Char) : List (List Char × List Char) :=
  match cutAt '?' path with
  | some (_, query) => decodePairs query
  | none => []

/-- A name that means itself in a query: no character ends it, and nothing in it is
read as anything else. -/
structure Verbatim (name : List Char) : Prop where
  ampersand : '&' ∉ name
  equals : '=' ∉ name
  decode : decode name = name

/-- A name without the four characters that a reader of queries takes for something else. -/
lemma verbatim_of_not_mem (ampersand : '&' ∉ name) (equals : '=' ∉ name) (plus : '+' ∉ name)
    (percent : '%' ∉ name) : Verbatim name where
  ampersand := ampersand
  equals := equals
  decode := by
    have hspaced : name.map spaced = name.map id :=
      List.map_congr_left fun c hc => if_neg (ne_of_mem_of_not_mem hc plus)
    have hoctets : ∀ octet ∈ Utf8.encode name, octet ≠ 0x25 := by
      intro octet hoctet
      obtain ⟨c, hc, hoctet⟩ := List.mem_flatMap.1 hoctet
      exact Percent.ne_of_mem_encodeChar (ne_of_mem_of_not_mem hc percent) octet hoctet
    have hread := Percent.decodeOctets_append_of_ne hoctets []
    rw [List.append_nil, Percent.decodeOctets_nil, List.append_nil] at hread
    rw [Form.decode, hspaced, List.map_id, Percent.decode, hread, Utf8.decode_encode]

/-- A name with a value that is written in a form. -/
def part (name value : List Char) : List Char := name ++ '=' :: encode value

lemma decodePairs_append (query : List Char) :
    decodePairs (text ++ '&' :: query) = decodePairs text ++ decodePairs query := by
  rw [decodePairs, segments_append_cons text rfl, List.map_append]
  rfl

lemma decodePairs_ne_nil (query : List Char) : decodePairs query ≠ [] := by
  rw [decodePairs, ne_eq, List.map_eq_nil_iff]
  exact segments_ne_nil _ query

lemma decodePairs_of_not_mem (h : '&' ∉ text) : decodePairs text = [decodePair text] := by
  rw [decodePairs, segments_of_not_mem h]
  rfl

lemma decodePair_append (h : '=' ∉ text) (rest : List Char) :
    decodePair (text ++ '=' :: rest) = (decode text, decode rest) := by
  rw [decodePair, cutAt_append_cons h]

/-- A name and a value are read back just if the name means itself. -/
lemma decodePairs_part_iff :
    decodePairs (part name value) = [(name, value)] ↔ Verbatim name := by
  have hencode : '&' ∉ encode value := not_mem_encode (by decide) value
  constructor
  · intro h
    have ampersand : '&' ∉ name := by
      intro hmem
      obtain ⟨before, after, rfl⟩ := List.append_of_mem hmem
      rw [part, List.append_assoc, List.cons_append, decodePairs_append] at h
      have hlength := congrArg List.length h
      have hbefore := List.length_pos_iff.2 (decodePairs_ne_nil before)
      have hafter := List.length_pos_iff.2 (decodePairs_ne_nil (after ++ '=' :: encode value))
      rw [List.length_append, List.length_singleton] at hlength
      omega
    rw [part, decodePairs_of_not_mem (by simp [ampersand, hencode]), List.singleton_inj] at h
    have equals : '=' ∉ name := by
      intro hmem
      obtain ⟨before, after, rfl, hbefore⟩ := List.eq_append_cons_of_mem hmem
      rw [List.append_assoc, List.cons_append, decodePair_append hbefore, Prod.mk.injEq] at h
      -- what is read before the first equals sign is too short for the name
      have hlength := length_decode_le before
      rw [h.1, List.length_append, List.length_cons] at hlength
      omega
    rw [decodePair_append equals, Prod.mk.injEq] at h
    exact ⟨ampersand, equals, h.1⟩
  · rintro ⟨ampersand, equals, hdecode⟩
    rw [part, decodePairs_of_not_mem (by simp [ampersand, hencode]), decodePair_append equals,
      hdecode, decode_encode]

end Form

end OpenApiDoc.Text
