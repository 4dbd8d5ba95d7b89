import Mathlib.Tactic.Common
import OpenApiDoc.Text.Utf8

/-!
# Reading UTF-8

Reading goes octet by octet with a character under way. The octets of a character are read as the
character when nothing is under way, so the octets of a text are read as the text. Any octet
begins or completes one character at most, and cuts short at most the one that is under way.
-/

namespace OpenApiDoc.Text.Utf8

variable {n m octet low high owed bits : Nat} {p : Partial} {c : Char}
    {underWay : Option Partial}

lemma decodeFrom_cons (underWay : Option Partial) (octet : Nat) (rest : List Nat) :
    decodeFrom underWay (octet :: rest) =
      (step underWay octet).1 ++ decodeFrom (step underWay octet).2 rest := rfl

/-! ### Writing -/

lemma lt_of_mem_encodeChar (h : octet ∈ encodeChar c) : octet < 256 := by
  have hc : c.toNat < 0x110000 := by
    rcases c.valid with hlow | ⟨-, hhigh⟩
    · exact Nat.lt_trans hlow (by decide)
    · exact hhigh
  rw [encodeChar] at h
  split at h
  · rw [List.mem_singleton] at h
    omega
  · split at h
    · simp only [List.mem_cons, List.not_mem_nil, or_false] at h
      omega
    · split at h <;> simp only [List.mem_cons, List.not_mem_nil, or_false] at h <;> omega

/-- The octets of a text are octets. -/
lemma lt_of_mem_encode {text : List Char} (h : octet ∈ encode text) : octet < 256 := by
  obtain ⟨c, -, hc⟩ := List.mem_flatMap.1 h
  exact lt_of_mem_encodeChar hc

lemma encodeChar_ne_nil (c : Char) : encodeChar c ≠ [] := by
  rw [encodeChar]
  split_ifs <;> exact List.cons_ne_nil _ _

/-- The octet of an ASCII character is in no other character. -/
lemma eq_of_toNat_mem_encodeChar {a : Char} (ascii : a.toNat < 0x80)
    (h : a.toNat ∈ encodeChar c) : c = a := by
  rw [encodeChar] at h
  split_ifs at h <;> simp only [List.mem_cons, List.not_mem_nil, or_false] at h
  · exact (Char.toNat_inj.1 h).symm
  all_goals omega

lemma encode_cons_of_ascii (h : c.toNat < 0x80) (rest : List Char) :
    encode (c :: rest) = c.toNat :: encode rest := by
  rw [encode, List.flatMap_cons, encodeChar, if_pos h]
  rfl

lemma toNat_ofNat (valid : n.isValidChar) : (Char.ofNat n).toNat = n := by
  rw [Char.ofNat, dif_pos valid]
  rfl

lemma toNat_ofNat_of_ascii (ascii : n < 0x80) : (Char.ofNat n).toNat = n :=
  toNat_ofNat (.inl (by omega))

/-! ### Single octets -/

lemma step_none_of_char (h : begin octet = .inl c) : step none octet = ([c], none) := by
  simp only [step, fresh, h]

lemma step_none_of_partial (h : begin octet = .inr (some p)) :
    step none octet = ([], some p) := by
  simp only [step, fresh, h]

lemma step_some_of_last (h : low ≤ 0x80 + m ∧ 0x80 + m ≤ high) :
    step (some ⟨low, high, 0, bits⟩) (0x80 + m) = ([Char.ofNat (bits * 64 + m)], none) := by
  simp only [step, if_pos h, Nat.add_sub_cancel_left]
  rfl

lemma step_some_of_owed (h : low ≤ 0x80 + m ∧ 0x80 + m ≤ high) :
    step (some ⟨low, high, owed + 1, bits⟩) (0x80 + m) =
      ([], some ⟨0x80, 0xBF, owed, bits * 64 + m⟩) := by
  simp only [step, if_pos h, Nat.add_sub_cancel_left]
  rfl

/-- An octet that does not continue the character under way cuts it short. -/
lemma decodeFrom_some_cons (h : ¬(p.low ≤ octet ∧ octet ≤ p.high)) (rest : List Nat) :
    decodeFrom (some p) (octet :: rest) = replacement :: decodeFrom none (octet :: rest) := by
  simp only [decodeFrom_cons, step, if_neg h, List.cons_append]

/-! ### First octets -/

lemma begin_one (h : n < 0x80) : begin n = .inl (Char.ofNat n) := if_pos h

lemma begin_two (hlow : 0x80 ≤ n) (hhigh : n < 0x800) :
    begin (0xC0 + n / 64) = .inr (some ⟨0x80, 0xBF, 0, n / 64⟩) := by
  rw [begin, if_neg (by omega), if_neg (by omega), if_pos (by omega), Nat.add_sub_cancel_left]

/-- The second octet of three is within the bounds that the first one sets: no character is
written with more octets than it needs, and none stands for half a pair. -/
lemma begin_three (hlow : 0x800 ≤ n) (hhigh : n < 0x10000) (h : n < 0xD800 ∨ 0xDFFF < n) :
    ∃ low high, begin (0xE0 + n / 4096) = .inr (some ⟨low, high, 1, n / 4096⟩) ∧
      low ≤ 0x80 + n / 64 % 64 ∧ 0x80 + n / 64 % 64 ≤ high := by
  rw [begin, if_neg (by omega), if_neg (by omega), if_neg (by omega)]
  by_cases hzero : n / 4096 = 0
  · exact ⟨0xA0, 0xBF, by rw [hzero]; rfl, by omega, by omega⟩
  rw [if_neg (by omega)]
  by_cases hpair : n / 4096 = 13
  · exact ⟨0x80, 0x9F, by rw [hpair]; rfl, by omega, by omega⟩
  · rw [if_neg (by omega), if_pos (by omega), Nat.add_sub_cancel_left]
    exact ⟨0x80, 0xBF, rfl, by omega, by omega⟩

lemma begin_four (hlow : 0x10000 ≤ n) (hhigh : n < 0x110000) :
    ∃ low high, begin (0xF0 + n / 262144) = .inr (some ⟨low, high, 2, n / 262144⟩) ∧
      low ≤ 0x80 + n / 4096 % 64 ∧ 0x80 + n / 4096 % 64 ≤ high := by
  rw [begin, if_neg (by omega), if_neg (by omega), if_neg (by omega), if_neg (by omega),
    if_neg (by omega), if_neg (by omega)]
  by_cases hzero : n / 262144 = 0
  · exact ⟨0x90, 0xBF, by rw [hzero]; rfl, by omega, by omega⟩
  rw [if_neg (by omega)]
  by_cases hlast : n / 262144 = 4
  · exact ⟨0x80, 0x8F, by rw [hlast]; rfl, by omega, by omega⟩
  · rw [if_pos (by omega), Nat.add_sub_cancel_left]
    exact ⟨0x80, 0xBF, rfl, by omega, by omega⟩

/-! ### Texts -/

/-- The octets of a character are read as the character. -/
lemma decodeFrom_encodeChar (c : Char) (rest : List Nat) :
    decodeFrom none (encodeChar c ++ rest) = c :: decodeFrom none rest := by
  have hvalid : c.toNat < 0xD800 ∨ (0xDFFF < c.toNat ∧ c.toNat < 0x110000) := c.valid
  have hc : Char.ofNat c.toNat = c := Char.ofNat_toNat c
  simp only [encodeChar]
  generalize c.toNat = n at hvalid hc
  have hcontinues : ∀ m, 0x80 ≤ 0x80 + m % 64 ∧ 0x80 + m % 64 ≤ 0xBF := fun m => by omega
  split_ifs with hone htwo hthree
  · simp [decodeFrom_cons, step_none_of_char (begin_one hone), hc]
  · have hbits : n / 64 * 64 + n % 64 = n := by omega
    simp [decodeFrom_cons, step_none_of_partial (begin_two (Nat.not_lt.1 hone) htwo),
      step_some_of_last (hcontinues n), hbits, hc]
  · obtain ⟨low, high, hbegin, hbounds⟩ := begin_three (Nat.not_lt.1 htwo) hthree (by omega)
    have hbits : (n / 4096 * 64 + n / 64 % 64) * 64 + n % 64 = n := by omega
    simp [decodeFrom_cons, step_none_of_partial hbegin, step_some_of_owed hbounds,
      step_some_of_last (hcontinues n), hbits, hc]
  · obtain ⟨low, high, hbegin, hbounds⟩ := begin_four (Nat.not_lt.1 hthree) (by omega)
    have hbits : ((n / 262144 * 64 + n / 4096 % 64) * 64 + n / 64 % 64) * 64 + n % 64 = n := by
      omega
    simp [decodeFrom_cons, step_none_of_partial hbegin, step_some_of_owed hbounds,
      step_some_of_owed (hcontinues (n / 64)), step_some_of_last (hcontinues n), hbits, hc]

/-- The octets of a text are read as the text. -/
theorem decode_encode (text : List Char) : decode (encode text) = text := by
  induction text with
  | nil => rfl
  | cons c rest ih =>
    rw [decode, encode, List.flatMap_cons, decodeFrom_encodeChar]
    exact congrArg (c :: ·) ih

/-! ### How much is read -/

/-- The next octet of the character under way, if there is one, is no first octet. -/
def Continues (underWay : Option Partial) : Prop :=
  ∀ p ∈ underWay, 0x80 ≤ p.low ∧ p.high ≤ 0xBF

lemma continues_none : Continues none := nofun

lemma continues_fresh (octet : Nat) : Continues (fresh octet).2 := by
  rintro p hp
  simp only [fresh, begin] at hp
  split_ifs at hp <;> cases hp <;> simp

lemma continues_step (underWay : Option Partial) (octet : Nat) :
    Continues (step underWay octet).2 := by
  cases underWay with
  | none => exact continues_fresh octet
  | some p =>
    rw [step]
    split_ifs
    · exact continues_none
    · rintro _ ⟨⟩
      simp
    · exact continues_fresh octet

lemma length_fresh_le (octet : Nat) :
    (fresh octet).1.length + (fresh octet).2.toList.length ≤ 1 := by
  rw [fresh]
  split <;> simp

/-- An octet completes or begins one character at most, and cuts one short at most. -/
lemma length_step_le (underWay : Option Partial) (octet : Nat) :
    (step underWay octet).1.length + (step underWay octet).2.toList.length ≤
      1 + underWay.toList.length := by
  have hfresh := length_fresh_le octet
  cases underWay with
  | none => simpa [step] using hfresh
  | some p =>
    rw [step]
    split_ifs
    · simp
    · simp
    · simp only [List.length_cons, Option.toList_some, List.length_nil]
      omega

/-- What stands for the character under way when it is cut short. -/
def cutShort (underWay : Option Partial) : List Char :=
  (underWay.map fun _ => replacement).toList

@[simp] lemma cutShort_none : cutShort none = [] := rfl

lemma length_cutShort (underWay : Option Partial) :
    (cutShort underWay).length = underWay.toList.length := by
  cases underWay <;> rfl

/-- A character is read after what is under way is cut short. -/
lemma decodeFrom_encodeChar_of_continues (h : Continues underWay) (c : Char) (rest : List Nat) :
    decodeFrom underWay (encodeChar c ++ rest) =
      cutShort underWay ++ c :: decodeFrom none rest := by
  cases underWay with
  | none => exact decodeFrom_encodeChar c rest
  | some p =>
    obtain ⟨octet, more, hoctets, hfirst⟩ : ∃ octet more, encodeChar c = octet :: more ∧
        ¬(0x80 ≤ octet ∧ octet ≤ 0xBF) := by
      rw [encodeChar]
      split_ifs with hone
      · exact ⟨_, _, rfl, by omega⟩
      all_goals exact ⟨_, _, rfl, by omega⟩
    have hcut : ¬(p.low ≤ octet ∧ octet ≤ p.high) := by
      have hp := h p rfl
      omega
    rw [← decodeFrom_encodeChar, hoctets, List.cons_append, decodeFrom_some_cons hcut]
    rfl

/-- Octets, or a character under way, make at least one character. -/
lemma decodeFrom_ne_nil {octets : List Nat} (h : underWay ≠ none ∨ octets ≠ []) :
    decodeFrom underWay octets ≠ [] := by
  induction octets generalizing underWay with
  | nil =>
    cases underWay with
    | none => exact absurd h (by simp)
    | some p => exact List.cons_ne_nil _ _
  | cons octet rest ih =>
    intro hnil
    rw [decodeFrom_cons, List.append_eq_nil_iff] at hnil
    obtain ⟨hchars, hrest⟩ := hnil
    have hnone : (step underWay octet).2 = none := by
      by_contra hsome
      exact ih (.inl hsome) hrest
    have hfresh : (fresh octet).1 = [] → (fresh octet).2 ≠ none := by
      rw [fresh]
      split <;> simp
    cases underWay with
    | none => exact hfresh hchars hnone
    | some p =>
      rw [step] at hchars hnone
      split_ifs at hchars hnone

/-! ### ASCII -/

/-- The bits so far and those that the next octet brings at least are too many for ASCII. -/
def BeyondAscii (underWay : Option Partial) : Prop :=
  ∀ p ∈ underWay, 2 ≤ p.bits * 64 + (p.low - 0x80) ∧
    (p.owed = 0 → 0x80 ≤ p.bits * 64 + (p.low - 0x80))

lemma beyondAscii_none : BeyondAscii none := nofun

lemma beyondAscii_fresh (octet : Nat) : BeyondAscii (fresh octet).2 := by
  rintro p hp
  simp only [fresh, begin] at hp
  split_ifs at hp <;> cases hp <;> simp <;> omega

lemma beyondAscii_step (h : BeyondAscii underWay) (octet : Nat) :
    BeyondAscii (step underWay octet).2 := by
  cases underWay with
  | none => exact beyondAscii_fresh octet
  | some p =>
    obtain ⟨henough, -⟩ := h p rfl
    rw [step]
    split_ifs with hbounds howed
    · exact beyondAscii_none
    · rintro _ ⟨⟩
      dsimp only
      omega
    · exact beyondAscii_fresh octet

/-- The character of a number beyond ASCII is no ASCII character, if only the zero of what is no
number of a character is left aside. -/
lemma ofNat_beyond (h : 0x80 ≤ n) (hc : Char.ofNat n = c) : c.toNat = 0 ∨ 0x80 ≤ c.toNat := by
  subst hc
  by_cases valid : n.isValidChar
  · right
    rwa [toNat_ofNat valid]
  · rw [Char.ofNat, dif_neg valid]
    exact .inl rfl

lemma mem_fresh (hc : c ∈ (fresh octet).1) :
    c = Char.ofNat octet ∧ octet < 0x80 ∨ c = replacement := by
  simp only [fresh, begin] at hc
  split_ifs at hc with h <;> simp_all

/-- An ASCII character that is completed is the octet itself. -/
lemma octet_eq_of_mem_step (h : BeyondAscii underWay) (hc : c ∈ (step underWay octet).1)
    (hzero : 0 < c.toNat) (hascii : c.toNat < 0x80) : octet = c.toNat := by
  have hfresh : c ∈ (fresh octet).1 → octet = c.toNat := by
    intro hc
    rcases mem_fresh hc with ⟨rfl, hoctet⟩ | rfl
    · rw [toNat_ofNat_of_ascii hoctet]
    · simp [replacement] at hascii
  have hreplacement : c ≠ replacement := by
    rintro rfl
    simp [replacement] at hascii
  cases underWay with
  | none => exact hfresh hc
  | some p =>
    rw [step] at hc
    split_ifs at hc with hbounds howed
    · obtain ⟨-, henough⟩ := h p rfl
      have henough := henough howed
      rcases ofNat_beyond (by omega) (List.mem_singleton.1 hc).symm with hc | hc <;> omega
    · cases hc
    · rcases List.mem_cons.1 hc with hc | hc
      · exact absurd hc hreplacement
      · exact hfresh hc

/-- What is read first from a character under way is no ASCII character. -/
lemma head?_decodeFrom_some (h : BeyondAscii (some p)) (octets : List Nat)
    (hc : c ∈ (decodeFrom (some p) octets).head?) : c.toNat = 0 ∨ 0x80 ≤ c.toNat := by
  have hreplacement : 0x80 ≤ replacement.toNat := by simp [replacement]
  induction octets generalizing p with
  | nil =>
    rw [← Option.some.inj hc]
    exact .inr hreplacement
  | cons octet rest ih =>
    have hstep := beyondAscii_step h octet
    rw [decodeFrom_cons] at hc
    obtain ⟨-, henough⟩ := h p rfl
    rw [step] at hc hstep
    split_ifs at hc hstep with hbounds howed
    · have henough := henough howed
      exact ofNat_beyond (by omega) (Option.some.inj hc)
    · exact ih hstep hc
    · rw [← Option.some.inj hc]
      exact .inr hreplacement

/-- An ASCII character that is read first is the first octet. -/
lemma octet_eq_of_head?_decodeFrom {rest : List Nat}
    (hc : c ∈ (decodeFrom none (octet :: rest)).head?) (hzero : 0 < c.toNat)
    (hascii : c.toNat < 0x80) : octet = c.toNat := by
  have hnext := beyondAscii_fresh octet
  rw [decodeFrom_cons] at hc
  by_cases hstep : c ∈ (step none octet).1
  · exact octet_eq_of_mem_step beyondAscii_none hstep hzero hascii
  · simp only [step, fresh] at hc hstep hnext
    split at hc
    · next hbegin =>
      rw [hbegin, ← Option.some.inj hc] at hstep
      exact absurd (List.mem_singleton_self _) hstep
    · next hbegin =>
      rw [hbegin, ← Option.some.inj hc] at hstep
      exact absurd (List.mem_singleton_self _) hstep
    · next p hbegin =>
      rw [hbegin] at hnext
      rcases head?_decodeFrom_some hnext rest hc with hc | hc <;> omega

end OpenApiDoc.Text.Utf8
