import Mathlib.Tactic.Common
import OpenApiDoc.Proofs.Text.Utf8
import OpenApiDoc.Text.Percent

/-!
# Reading escapes

Escapes are read as octets, and the octets as UTF-8. A text begins with an escape or with a
character that is read as itself, and so it is read piece by piece, with what the octets before
have begun. A text is never longer than it was before reading.

Octets that are written as themselves or as escapes are read back.
-/

namespace OpenApiDoc.Text.Percent

variable {octet high low h l : Nat} {octets : List Nat} {c : Char} {text rest tail : List Char}
  {underWay : Option Utf8.Partial}

/-! ### Octets -/

@[simp] lemma decodeOctets_nil : decodeOctets [] = [] := rfl

/-- An octet that is no percent sign stands for itself. -/
lemma decodeOctets_cons_of_ne (hoctet : octet ≠ 0x25) (rest : List Nat) :
    decodeOctets (octet :: rest) = octet :: decodeOctets rest := by
  rw [decodeOctets.eq_def]
  split
  · next heq => cases heq
  · next heq => exact absurd (List.cons.inj heq).1 hoctet
  · next heq => cases heq; rfl

lemma decodeOctets_append_of_ne (hoctets : ∀ octet ∈ octets, octet ≠ 0x25) (rest : List Nat) :
    decodeOctets (octets ++ rest) = octets ++ decodeOctets rest := by
  induction octets with
  | nil => rfl
  | cons octet octets ih =>
    obtain ⟨hoctet, hoctets⟩ := List.forall_mem_cons.1 hoctets
    rw [List.cons_append, decodeOctets_cons_of_ne hoctet, ih hoctets, List.cons_append]

lemma decodeOctets_escape (hhigh : hexValue? high = some h) (hlow : hexValue? low = some l)
    (rest : List Nat) :
    decodeOctets (0x25 :: high :: low :: rest) = (16 * h + l) :: decodeOctets rest := by
  rw [decodeOctets, hhigh, hlow]

/-- A percent sign without two hexadecimal digits behind it stands for itself. -/
lemma decodeOctets_percent {rest : List Nat}
    (hrest : ¬ ∃ high low more h l, rest = high :: low :: more ∧ hexValue? high = some h ∧
      hexValue? low = some l) :
    decodeOctets (0x25 :: rest) = 0x25 :: decodeOctets rest := by
  rcases rest with _ | ⟨high, _ | ⟨low, more⟩⟩
  · rfl
  · rfl
  · rw [decodeOctets]
    split
    · next h l hhigh hlow => exact absurd ⟨high, low, more, h, l, rfl, hhigh, hlow⟩ hrest
    · rfl

/-! ### Texts that begin with an escape -/

/-- A first octet below 128 in the octets of a text is that of its first character. -/
lemma exists_of_encode_eq_cons {more : List Nat} (hoctet : octet < 0x80)
    (heq : Utf8.encode text = octet :: more) :
    ∃ c tail, text = c :: tail ∧ c.toNat = octet ∧ Utf8.encode tail = more := by
  cases text with
  | nil => cases heq
  | cons c tail =>
    refine ⟨c, tail, rfl, ?_⟩
    rw [Utf8.encode, List.flatMap_cons, Utf8.encodeChar] at heq
    split_ifs at heq <;> cases heq
    · exact ⟨rfl, rfl⟩
    all_goals omega

lemma lt_of_hexValue? (h : hexValue? octet = some l) : octet < 0x80 := by
  rw [hexValue?] at h
  split_ifs at h
  all_goals omega

lemma ne_of_mem_encodeChar (hc : c ≠ '%') : ∀ octet ∈ Utf8.encodeChar c, octet ≠ 0x25 := by
  rintro _ hoctet rfl
  exact hc (Utf8.eq_of_toNat_mem_encodeChar (by decide) hoctet)

/-- The text is an escape of the octet and then the rest. -/
def BeginsWithEscape (text : List Char) (octet : Nat) (rest : List Char) : Prop :=
  ∃ high low h l, text = '%' :: high :: low :: rest ∧ hexValue? high.toNat = some h ∧
    hexValue? low.toNat = some l ∧ octet = 16 * h + l

lemma BeginsWithEscape.length_lt (h : BeginsWithEscape text octet rest) :
    rest.length < text.length := by
  obtain ⟨high, low, _, _, rfl, -⟩ := h
  simp only [List.length_cons]
  omega

lemma BeginsWithEscape.append (h : BeginsWithEscape text octet rest) (more : List Char) :
    BeginsWithEscape (text ++ more) octet (rest ++ more) := by
  obtain ⟨high, low, h, l, rfl, hvalues⟩ := h
  exact ⟨high, low, h, l, rfl, hvalues⟩

lemma BeginsWithEscape.decodeOctets (h : BeginsWithEscape text octet rest) :
    decodeOctets (Utf8.encode text) = octet :: decodeOctets (Utf8.encode rest) := by
  obtain ⟨high, low, h, l, rfl, hhigh, hlow, rfl⟩ := h
  rw [Utf8.encode_cons_of_ascii (by decide), Utf8.encode_cons_of_ascii (lt_of_hexValue? hhigh),
    Utf8.encode_cons_of_ascii (lt_of_hexValue? hlow)]
  exact decodeOctets_escape hhigh hlow _

/-- A character that begins no escape is read as itself. -/
lemma decodeOctets_encode_cons (h : ∀ octet rest, ¬ BeginsWithEscape (c :: tail) octet rest) :
    decodeOctets (Utf8.encode (c :: tail)) =
      Utf8.encodeChar c ++ decodeOctets (Utf8.encode tail) := by
  rw [Utf8.encode, List.flatMap_cons]
  by_cases hpercent : c = '%'
  · subst hpercent
    refine decodeOctets_percent ?_
    rintro ⟨high, low, more, hh, hl, hoctets, hhigh, hlow⟩
    obtain ⟨a, tail, rfl, rfl, htail⟩ := exists_of_encode_eq_cons (lt_of_hexValue? hhigh) hoctets
    obtain ⟨b, rest, rfl, rfl, -⟩ := exists_of_encode_eq_cons (lt_of_hexValue? hlow) htail
    exact h _ rest ⟨a, b, hh, hl, rfl, hhigh, hlow, rfl⟩
  · exact decodeOctets_append_of_ne (ne_of_mem_encodeChar hpercent) _

/-! ### Reading from a state on -/

/-- What a text with escapes is read as behind octets that have begun a character. -/
def decodeFrom (underWay : Option Utf8.Partial) (text : List Char) : List Char :=
  Utf8.decodeFrom underWay (decodeOctets (Utf8.encode text))

lemma decodeFrom_of_escape (h : BeginsWithEscape text octet rest) :
    decodeFrom underWay text =
      (Utf8.step underWay octet).1 ++ decodeFrom (Utf8.step underWay octet).2 rest := by
  rw [decodeFrom, h.decodeOctets, Utf8.decodeFrom_cons, decodeFrom]

/-- An escape of an ASCII character is read as the character, behind what it cuts short. -/
lemma decodeFrom_of_ascii (continues : Utf8.Continues underWay)
    (h : BeginsWithEscape text c.toNat rest) (ascii : c.toNat < 0x80) :
    decodeFrom underWay text = Utf8.cutShort underWay ++ c :: decodeFrom none rest := by
  have hchar : Utf8.encodeChar c = [c.toNat] := if_pos ascii
  rw [decodeFrom, h.decodeOctets, ← List.singleton_append, ← hchar,
    Utf8.decodeFrom_encodeChar_of_continues continues, decodeFrom]

/-- A character that begins no escape is read as itself, behind what it cuts short. -/
lemma decodeFrom_cons (continues : Utf8.Continues underWay)
    (h : ∀ octet rest, ¬ BeginsWithEscape (c :: tail) octet rest) :
    decodeFrom underWay (c :: tail) = Utf8.cutShort underWay ++ c :: decodeFrom none tail := by
  rw [decodeFrom, decodeOctets_encode_cons h, Utf8.decodeFrom_encodeChar_of_continues continues,
    decodeFrom]

lemma not_beginsWithEscape (hc : c ≠ '%') (octet : Nat) (rest : List Char) :
    ¬ BeginsWithEscape (c :: tail) octet rest := by
  rintro ⟨_, _, _, _, heq, -⟩
  exact hc (List.cons.inj heq).1

lemma not_beginsWithEscape_append (h : ∀ octet rest, ¬ BeginsWithEscape (c :: tail) octet rest)
    (octet : Nat) (rest more : List Char) :
    ¬ BeginsWithEscape (c :: (tail ++ '%' :: more)) octet rest := by
  have hpercent : ∀ n, hexValue? '%'.toNat ≠ some n := by
    intro n hn
    cases hn
  rintro ⟨high, low, n, m, heq, hhigh, hlow, -⟩
  obtain ⟨rfl, heq⟩ := List.cons.inj heq
  rcases tail with _ | ⟨a, _ | ⟨b, tail⟩⟩
  · cases heq
    exact hpercent n hhigh
  · cases heq
    exact hpercent m hlow
  · cases heq
    exact h _ tail ⟨high, low, n, m, rfl, hhigh, hlow, rfl⟩

/-- An escape of an ASCII character separates what stands before and after it. -/
lemma decodeFrom_append_escape (continues : Utf8.Continues underWay)
    (h : BeginsWithEscape text c.toNat rest) (ascii : c.toNat < 0x80) (before : List Char) :
    decodeFrom underWay (before ++ text) =
      decodeFrom underWay before ++ c :: decodeFrom none rest := by
  induction hlength : before.length using Nat.strongRecOn generalizing before underWay with
  | ind n ih =>
    subst hlength
    rcases before with _ | ⟨b, tail⟩
    · rw [List.nil_append, decodeFrom_of_ascii continues h ascii]
      cases underWay <;> rfl
    by_cases hescape : ∃ octet more, BeginsWithEscape (b :: tail) octet more
    · obtain ⟨octet, more, hescape⟩ := hescape
      rw [decodeFrom_of_escape hescape, decodeFrom_of_escape (hescape.append text),
        ih _ hescape.length_lt (Utf8.continues_step underWay octet) more rfl, List.append_assoc]
    · have hnone : ∀ octet more, ¬ BeginsWithEscape (b :: tail) octet more :=
        fun octet more h => hescape ⟨octet, more, h⟩
      have hbegins := h
      obtain ⟨high, low, _, _, rfl, -⟩ := hbegins
      rw [decodeFrom_cons continues hnone, List.cons_append,
        decodeFrom_cons continues fun octet more =>
          not_beginsWithEscape_append hnone octet more _,
        ih _ (Nat.lt_succ_self _) Utf8.continues_none tail rfl, List.append_assoc,
        List.cons_append]

/-! ### How much is read -/

/-- Each character of a text, and each escape, is read as one character at most, but for cutting
short what an escape has begun. -/
lemma length_decodeFrom_le (continues : Utf8.Continues underWay) (text : List Char) :
    (decodeFrom underWay text).length ≤ text.length + underWay.toList.length := by
  induction hlength : text.length using Nat.strongRecOn generalizing text underWay with
  | ind n ih =>
    subst hlength
    rcases text with _ | ⟨c, tail⟩
    · cases underWay <;> simp [decodeFrom, Utf8.encode, Utf8.decodeFrom]
    by_cases hescape : ∃ octet rest, BeginsWithEscape (c :: tail) octet rest
    · obtain ⟨octet, rest, hescape⟩ := hescape
      have ih := ih rest.length hescape.length_lt (Utf8.continues_step underWay octet) rest rfl
      have hstep := Utf8.length_step_le underWay octet
      have hrest := hescape.length_lt
      rw [decodeFrom_of_escape hescape, List.length_append]
      omega
    · have ih := ih tail.length (Nat.lt_succ_self _) Utf8.continues_none tail rfl
      have hcut := Utf8.length_cutShort underWay
      rw [decodeFrom_cons continues fun octet rest h => hescape ⟨octet, rest, h⟩,
        List.length_append, List.length_cons, List.length_cons]
      rw [Option.toList_none, List.length_nil] at ih
      omega

/-- A text is no longer than it was before its escapes were read. -/
theorem length_decode_le (text : List Char) : (decode text).length ≤ text.length :=
  length_decodeFrom_le Utf8.continues_none text

lemma decodeOctets_ne_nil (h : octets ≠ []) : decodeOctets octets ≠ [] := by
  rw [decodeOctets.eq_def]
  split
  · exact absurd rfl h
  · split <;> exact List.cons_ne_nil _ _
  · exact List.cons_ne_nil _ _

/-- Only of the empty text nothing is read. -/
lemma decode_ne_nil (h : text ≠ []) : decode text ≠ [] := by
  refine Utf8.decodeFrom_ne_nil (.inr (decodeOctets_ne_nil fun hnil => ?_))
  rcases text with _ | ⟨c, tail⟩
  · exact h rfl
  · rw [Utf8.encode, List.flatMap_cons, List.append_eq_nil_iff] at hnil
    exact Utf8.encodeChar_ne_nil c hnil.1

/-! ### Octets that are written -/

lemma hexDigit_reads : ∀ n < 16, hexValue? (hexDigit n).toNat = some n := by decide

lemma beginsWithEscape_escape (hoctet : octet < 256) (rest : List Char) :
    BeginsWithEscape (escape octet ++ rest) octet rest :=
  ⟨_, _, _, _, rfl, hexDigit_reads _ (by omega), hexDigit_reads _ (by omega),
    (Nat.div_add_mod octet 16).symm⟩

/-- An ASCII character that is no percent sign is read as its octet. -/
lemma decodeOctets_ofNat (ascii : octet < 0x80) (hne : octet ≠ 0x25) (rest : List Char) :
    decodeOctets (Utf8.encode (Char.ofNat octet :: rest)) =
      octet :: decodeOctets (Utf8.encode rest) := by
  have hnat := Utf8.toNat_ofNat_of_ascii ascii
  rw [Utf8.encode_cons_of_ascii (by omega), hnat, decodeOctets_cons_of_ne hne]

/-- Octets are read as they were if what is written for an octet is read as the octet. -/
lemma decodeOctets_flatMap {write : Nat → List Char}
    (reads : ∀ octet < 256, ∀ rest, Percent.decodeOctets (Utf8.encode (write octet ++ rest)) =
      octet :: Percent.decodeOctets (Utf8.encode rest)) (h : ∀ octet ∈ octets, octet < 256) :
    Percent.decodeOctets (Utf8.encode (octets.flatMap write)) = octets := by
  induction octets with
  | nil => rfl
  | cons octet octets ih =>
    obtain ⟨hoctet, hrest⟩ := List.forall_mem_cons.1 h
    rw [List.flatMap_cons, reads octet hoctet, ih hrest]

/-- A way to write octets is read back if what is written for an octet is read as the octet. -/
theorem decode_flatMap {write : Nat → List Char}
    (reads : ∀ octet < 256, ∀ rest, Percent.decodeOctets (Utf8.encode (write octet ++ rest)) =
      octet :: Percent.decodeOctets (Utf8.encode rest)) (text : List Char) :
    decode ((Utf8.encode text).flatMap write) = text := by
  rw [decode, decodeOctets_flatMap reads fun _ h => Utf8.lt_of_mem_encode h, Utf8.decode_encode]

/-- An octet as itself, if it may stand for itself, or else as an escape. -/
def write (plain : Nat → Bool) (octet : Nat) : List Char :=
  if plain octet then [Char.ofNat octet] else escape octet

/-- A text is read back if what stands for itself is ASCII and no percent sign. -/
theorem decode_flatMap_write {plain : Nat → Bool}
    (hplain : ∀ octet, plain octet = true → octet < 0x80 ∧ octet ≠ 0x25) (text : List Char) :
    decode ((Utf8.encode text).flatMap (write plain)) = text := by
  refine decode_flatMap (fun octet hoctet rest => ?_) text
  rw [write]
  split
  · next h => exact decodeOctets_ofNat (hplain octet h).1 (hplain octet h).2 rest
  · exact (beginsWithEscape_escape hoctet rest).decodeOctets

/-- A character that is in no escape is written only where it stands for itself. -/
lemma eq_toNat_of_mem_write {plain : Nat → Bool}
    (hplain : ∀ octet, plain octet = true → octet < 0x80) (hoctet : octet < 256)
    (hc : c ≠ '%' ∧ hexValue? c.toNat = none) (h : c ∈ write plain octet) :
    plain octet = true ∧ octet = c.toNat := by
  have hdigit : ∀ n < 16, c ≠ hexDigit n := by
    rintro n hn rfl
    rw [hexDigit_reads n hn] at hc
    cases hc.2
  rw [write] at h
  split at h
  · next htrue =>
    rw [List.mem_singleton.1 h, Utf8.toNat_ofNat_of_ascii (hplain octet htrue)]
    exact ⟨htrue, rfl⟩
  · simp only [escape, List.mem_cons, List.not_mem_nil, or_false] at h
    rcases h with h | h | h
    · exact absurd h hc.1
    · exact absurd h (hdigit _ (by omega))
    · exact absurd h (hdigit _ (by omega))

end OpenApiDoc.Text.Percent
