import Mathlib.Data.List.Basic
import OpenApiDoc.Text.Segments

/-!
# Segments of a text

Cutting a text at its separators is undone by putting them between the segments again: a text
that is made of parts without separators is cut into these parts, and what is added to its end
without a separator belongs to its last segment.
-/

namespace OpenApiDoc.Text

variable {p : Char → Bool} {separator : Char} {a b : List Char}

/-! ### Cutting at every separator -/

lemma segments_ne_nil (p : Char → Bool) (a : List Char) : segments p a ≠ [] := by
  cases a with
  | nil => simp [segments]
  | cons c rest =>
    rw [segments]
    split
    · simp
    · split <;> simp

lemma segments_append_cons (a : List Char) {c : Char} (hc : p c = true) :
    segments p (a ++ c :: b) = segments p a ++ segments p b := by
  induction a with
  | nil => simp [segments, hc]
  | cons x rest ih =>
    rw [List.cons_append, segments, segments, ih]
    split
    · simp
    · cases hrest : segments p rest with
      | nil => exact absurd hrest (segments_ne_nil p rest)
      | cons first more => rfl

/-- What is added without a separator belongs to the last segment. -/
lemma segments_append_of_forall (a : List Char) (hb : ∀ c ∈ b, p c = false) :
    ∃ init last, segments p a = init ++ [last] ∧ segments p (a ++ b) = init ++ [last ++ b] := by
  induction a with
  | nil =>
    refine ⟨[], [], rfl, ?_⟩
    induction b with
    | nil => rfl
    | cons c rest ih =>
      obtain ⟨hc, hrest⟩ := List.forall_mem_cons.1 hb
      simp only [List.nil_append] at ih
      simp [segments, hc, ih hrest]
  | cons x rest ih =>
    obtain ⟨init, last, hrest, happend⟩ := ih
    rw [List.cons_append, segments, segments, hrest, happend]
    split
    · exact ⟨[] :: init, last, rfl, rfl⟩
    · cases init with
      | nil => exact ⟨[], x :: last, rfl, rfl⟩
      | cons first more => exact ⟨(x :: first) :: more, last, rfl, rfl⟩

lemma segments_of_forall (ha : ∀ c ∈ a, p c = false) : segments p a = [a] := by
  obtain ⟨init, last, hnil, happend⟩ := segments_append_of_forall [] ha
  cases init with
  | nil =>
    cases hnil
    exact happend
  | cons first more => simp [segments] at hnil

lemma segments_of_not_mem (h : separator ∉ a) : segments (· == separator) a = [a] :=
  segments_of_forall fun _ hc => beq_false_of_ne (ne_of_mem_of_not_mem hc h)

/-! ### Cutting at the first separator -/

lemma cutAt_append_cons (h : separator ∉ a) (rest : List Char) :
    cutAt separator (a ++ separator :: rest) = some (a, rest) := by
  induction a with
  | nil => exact if_pos rfl
  | cons c a ih =>
    rw [List.mem_cons, not_or] at h
    rw [List.cons_append, cutAt, if_neg (Ne.symm h.1), ih h.2]
    rfl

lemma cutAt_of_not_mem (h : separator ∉ a) : cutAt separator a = none := by
  induction a with
  | nil => rfl
  | cons c a ih =>
    rw [List.mem_cons, not_or] at h
    rw [cutAt, if_neg (Ne.symm h.1), ih h.2]
    rfl

end OpenApiDoc.Text
