import Mathlib
import OpenApiDoc.Proofs.Text.Utf8
import OpenApiDoc.Text.Percent

/-!
# Characters of forms

A text that is written in a form consists of ASCII letters, digits and six signs. So it holds
none of the characters that mean something in a path or in a query.
-/

namespace OpenApiDoc.Text

namespace Form

/-- A letter, a digit or one of the signs of a form. -/
def IsSafe (c : Char) : Prop := c.isAlphanum = true ∨ c ∈ ['.', '-', '*', '_', '+', '%']

instance (c : Char) : Decidable (IsSafe c) :=
  inferInstanceAs (Decidable (c.isAlphanum = true ∨ c ∈ ['.', '-', '*', '_', '+', '%']))

lemma isSafe_of_isPlain {octet : Nat} (h : isPlain octet = true) :
    IsSafe (Char.ofNat octet) := by
  simp only [isPlain, Bool.or_eq_true, Bool.and_eq_true, decide_eq_true_eq, beq_iff_eq] at h
  have hvalid : octet.isValidChar := .inl (by omega)
  have hval : (Char.ofNat octet).val.toNat = octet := by simp [Char.ofNat, hvalid, Char.ofNatAux]
  have halphanum : (Char.ofNat octet).isAlphanum = true ↔
      ((65 ≤ octet ∧ octet ≤ 90) ∨ (97 ≤ octet ∧ octet ≤ 122)) ∨ (48 ≤ octet ∧ octet ≤ 57) := by
    simp [Char.isAlphanum, Char.isAlpha, Char.isUpper, Char.isLower, Char.isDigit,
      UInt32.le_iff_toNat_le, hval]
  rcases h with (((h | rfl) | rfl) | rfl) | rfl
  · left
    rw [halphanum]
    omega
  all_goals decide

lemma isSafe_hexDigit : ∀ n < 16, IsSafe (Percent.hexDigit n) := by decide

lemma isSafe_of_mem_encodeOctet {octet : Nat} (hoctet : octet < 256) {c : Char}
    (h : c ∈ encodeOctet octet) : IsSafe c := by
  rw [encodeOctet] at h
  split at h
  · next plain =>
    rw [List.mem_singleton.1 h]
    exact isSafe_of_isPlain plain
  · split at h
    · rw [List.mem_singleton.1 h]
      decide
    · simp only [Percent.escape, List.mem_cons, List.not_mem_nil, or_false] at h
      rcases h with rfl | rfl | rfl
      · decide
      · exact isSafe_hexDigit _ (by omega)
      · exact isSafe_hexDigit _ (by omega)

/-- Only letters, digits and signs of a form are written. -/
theorem isSafe_of_mem_encode {text : List Char} {c : Char} (h : c ∈ encode text) : IsSafe c := by
  obtain ⟨octet, hoctet, hc⟩ := List.mem_flatMap.1 h
  exact isSafe_of_mem_encodeOctet (Utf8.lt_of_mem_encode hoctet) hc

/-- A character that is not among those of a form is not written. -/
lemma not_mem_encode {c : Char} (h : ¬ IsSafe c) (text : List Char) : c ∉ encode text :=
  fun hc => h (isSafe_of_mem_encode hc)

end Form

end OpenApiDoc.Text
