import OpenApiDoc.Proofs.Decimal.Spelling
import OpenApiDoc.Proofs.Example.EnumLabels

/-!
# Examples that are written as text

The text of an example is converted to what it denotes under the declared kind, if there is such
a value. It is kept as it stands otherwise, unless it is declared as a number and spells one
that no double is near to: the names of infinities and of no number, and decimals beyond the
range of doubles, are lost.
-/

namespace OpenApiDoc.Example

open Decimal (NonFinite SpellsDouble SpellsInt)

variable {text : List Char} {kind : String} {value : Json}

/-- What a text denotes under a declared kind: a whole number of 64 signed bits, the double that
a number is rounded to, or a truth value. -/
inductive Denotes (text : List Char) (kind : Option String) : Json → Prop where
  | integer {n : Integer} (declared : kind = some "integer") (spells : SpellsInt text n.val)
      (signed : n.val ≤ 9223372036854775807) : Denotes text kind (.num (.integer n))
  | number {x : Binary64} (declared : kind = some "number") (spells : SpellsDouble text x) :
      Denotes text kind (.num (.float x))
  | boolean {b : Bool} (declared : kind = some "boolean") (spells : text = (toString b).toList) :
      Denotes text kind (.bool b)

lemma Denotes.ne_null {kind : Option String} (h : Denotes text kind value) : value ≠ .null := by
  cases h <;> simp

lemma Denotes.ne_str {kind : Option String} (h : Denotes text kind value) (s : String) :
    value ≠ .str s := by
  cases h <;> simp

/-! ### Readings -/

lemma reading_integer_iff : (reading text "integer").join = some value ↔
    ∃ n : Integer, SpellsInt text n.val ∧ n.val ≤ 9223372036854775807 ∧
      value = .num (.integer n) := by
  simp only [reading, Option.join_some, Option.map_eq_some_iff, Option.bind_eq_some_iff,
    Decimal.readInt64, Option.filter_eq_some_iff, Decimal.readInt_eq_some_iff, decide_eq_true_eq]
  constructor
  · rintro ⟨n, ⟨m, ⟨spells, hlower, hupper⟩, hm⟩, rfl⟩
    rw [Integer.ofInt?] at hm
    split at hm
    · cases hm
      exact ⟨_, spells, hupper, rfl⟩
    · cases hm
  · rintro ⟨n, spells, signed, rfl⟩
    exact ⟨n, ⟨n.val, ⟨spells, n.lower, signed⟩, dif_pos ⟨n.lower, n.upper⟩⟩, rfl⟩

lemma reading_number_iff : (reading text "number").join = some value ↔
    (∃ x, SpellsDouble text x ∧ value = .num (.float x)) ∨ value = .null ∧ NonFinite text := by
  simp only [reading, Option.join_some, Option.map_eq_some_iff]
  constructor
  · rintro ⟨spelled, hread, rfl⟩
    cases spelled with
    | finite x => exact .inl ⟨x, Decimal.readFloat_eq_finite_iff.1 hread, rfl⟩
    | infinite negative => exact .inr ⟨rfl, Decimal.nonFinite_iff.2 ⟨_, hread, by simp⟩⟩
    | notANumber => exact .inr ⟨rfl, Decimal.nonFinite_iff.2 ⟨_, hread, by simp⟩⟩
  · rintro (⟨x, spells, rfl⟩ | ⟨rfl, h⟩)
    · exact ⟨_, Decimal.readFloat_eq_finite_iff.2 spells, rfl⟩
    · obtain ⟨spelled, hread, hne⟩ := Decimal.nonFinite_iff.1 h
      refine ⟨spelled, hread, ?_⟩
      cases spelled with
      | finite x => exact absurd rfl (hne x)
      | infinite negative => rfl
      | notANumber => rfl

lemma reading_boolean_iff : (reading text "boolean").join = some value ↔
    ∃ b : Bool, text = (toString b).toList ∧ value = .bool b := by
  simp only [reading, Option.join_some]
  constructor
  · intro h
    split at h
    · next htrue =>
      cases h
      exact ⟨true, htrue, rfl⟩
    split at h
    · next hfalse =>
      cases h
      exact ⟨false, hfalse, rfl⟩
    · cases h
  · rintro ⟨b, rfl, rfl⟩
    cases b <;> rfl

/-- A kind has a reading of a text just if the text denotes a value under the kind, or else
spells a number that is not finite. -/
lemma reading_iff : (reading text kind).join = some value ↔
    Denotes text (some kind) value ∨ value = .null ∧ kind = "number" ∧ NonFinite text := by
  constructor
  · intro h
    by_cases hinteger : kind = "integer"
    · subst hinteger
      obtain ⟨n, spells, signed, rfl⟩ := reading_integer_iff.1 h
      exact .inl (.integer rfl spells signed)
    by_cases hnumber : kind = "number"
    · subst hnumber
      obtain ⟨x, spells, rfl⟩ | ⟨rfl, nonFinite⟩ := reading_number_iff.1 h
      · exact .inl (.number rfl spells)
      · exact .inr ⟨rfl, rfl, nonFinite⟩
    by_cases hboolean : kind = "boolean"
    · subst hboolean
      obtain ⟨b, spells, rfl⟩ := reading_boolean_iff.1 h
      exact .inl (.boolean rfl spells)
    · have hnone : reading text kind = none := by
        unfold reading
        split <;> first | contradiction | rfl
      rw [hnone] at h
      cases h
  · rintro (h | ⟨rfl, rfl, h⟩)
    · cases h with
      | integer declared spells signed =>
        obtain rfl := Option.some.inj declared
        exact reading_integer_iff.2 ⟨_, spells, signed, rfl⟩
      | number declared spells =>
        obtain rfl := Option.some.inj declared
        exact reading_number_iff.2 (.inl ⟨_, spells, rfl⟩)
      | boolean declared spells =>
        obtain rfl := Option.some.inj declared
        exact reading_boolean_iff.2 ⟨_, spells, rfl⟩
    · exact reading_number_iff.2 (.inr ⟨rfl, h⟩)

/-! ### Conversion -/

variable {s : String} {declared : Option String}

lemma convert_of_denotes (h : Denotes (Text.trim s.toList) declared value) :
    (convert s declared).value = value := by
  cases declared with
  | none => cases h <;> contradiction
  | some kind =>
    rw [value_convert, reading_iff.2 (.inl h)]
    rfl

lemma convert_of_nonFinite (h : NonFinite (Text.trim s.toList)) :
    (convert s (some "number")).value = .null := by
  rw [value_convert, reading_iff.2 (.inr ⟨rfl, rfl, h⟩)]
  rfl

lemma convert_of_not (hdenotes : ∀ value, ¬ Denotes (Text.trim s.toList) declared value)
    (hfinite : ¬ (declared = some "number" ∧ NonFinite (Text.trim s.toList))) :
    (convert s declared).value = .str s := by
  cases declared with
  | none => rfl
  | some kind =>
    rw [value_convert]
    rcases hread : (reading (Text.trim s.toList) kind).join with _ | value
    · rfl
    · rcases reading_iff.1 hread with h | ⟨-, rfl, h⟩
      · exact absurd h (hdenotes value)
      · exact absurd ⟨rfl, h⟩ hfinite

/-- The text of an example is converted to what it denotes under the declared kind when the white
space around it is left out, and it is kept as it stands if it denotes nothing. The exception are
numbers that are not finite: just these are converted to null. -/
theorem convert_exact (text : String) (kind : Option String) :
    (∀ value, Denotes (Text.trim text.toList) kind value → (convert text kind).value = value) ∧
    ((convert text kind).value = .null ↔
      kind = some "number" ∧ NonFinite (Text.trim text.toList)) ∧
    ((convert text kind).value = .str text ↔
      (∀ value, ¬ Denotes (Text.trim text.toList) kind value) ∧
        ¬ (kind = some "number" ∧ NonFinite (Text.trim text.toList))) ∧
    (Denotes (Text.trim text.toList) kind (convert text kind).value ∨
      (convert text kind).value = .null ∨ (convert text kind).value = .str text) := by
  have hdenotes : ∀ value, Denotes (Text.trim text.toList) kind value →
      (convert text kind).value = value := fun _ => convert_of_denotes
  have hnull : kind = some "number" ∧ NonFinite (Text.trim text.toList) →
      (convert text kind).value = .null := by
    rintro ⟨rfl, h⟩
    exact convert_of_nonFinite h
  by_cases hsome : ∃ value, Denotes (Text.trim text.toList) kind value
  · obtain ⟨value, h⟩ := hsome
    have hvalue := hdenotes value h
    refine ⟨hdenotes, ⟨fun heq => ?_, hnull⟩, ⟨fun heq => ?_, fun hnone => ?_⟩,
      .inl (hvalue ▸ h)⟩
    · exact absurd (hvalue.symm.trans heq) h.ne_null
    · exact absurd (hvalue.symm.trans heq) (h.ne_str text)
    · exact absurd h (hnone.1 value)
  have hnone : ∀ value, ¬ Denotes (Text.trim text.toList) kind value := not_exists.1 hsome
  by_cases hfinite : kind = some "number" ∧ NonFinite (Text.trim text.toList)
  · have hvalue := hnull hfinite
    refine ⟨hdenotes, iff_of_true hvalue hfinite, iff_of_false ?_ fun h => h.2 hfinite,
      .inr (.inl hvalue)⟩
    simp [hvalue]
  · have hvalue := convert_of_not hnone hfinite
    refine ⟨hdenotes, iff_of_false ?_ hfinite, iff_of_true hvalue ⟨hnone, hfinite⟩,
      .inr (.inr hvalue)⟩
    simp [hvalue]

/-- White space and a plus do not count, and the name of an infinity is lost. -/
theorem convert_exact_whole :
    Denotes (Text.trim " +42".toList) (some "integer") (.num (.integer { val := 42 })) ∧
    (convert " +42" (some "integer")).value = .num (.integer { val := 42 }) ∧
    NonFinite (Text.trim "-inf ".toList) ∧ (convert "-inf " (some "number")).value = .null := by
  have hwhole : Text.trim " +42".toList = ['+', '4', '2'] := by decide
  have spells : SpellsInt ['+', '4', '2'] 42 :=
    .signed (.plus _) (Decimal.readNat_eq_some_iff.1 rfl)
  have denotes : Denotes (Text.trim " +42".toList) (some "integer")
      (.num (.integer { val := 42 })) := .integer rfl (hwhole ▸ spells) (by decide)
  have hname : Text.trim "-inf ".toList = ['-', 'i', 'n', 'f'] := by decide
  have nonFinite : NonFinite (Text.trim "-inf ".toList) :=
    hname ▸ .named (.minus _) (Decimal.names_iff.2 (.inl rfl))
  exact ⟨denotes, (convert_exact " +42" (some "integer")).1 _ denotes, nonFinite,
    (convert_exact "-inf " (some "number")).2.1.2 ⟨rfl, nonFinite⟩⟩

/-- A decimal beyond the range of doubles is lost. -/
theorem convert_lost :
    (convert "1e999" (some "number")).value = .null ∧
    (convert "1e999" (some "number")).value ≠ .str "1e999" := by
  have hnull : (convert "1e999" (some "number")).value = .null := by cbv
  exact ⟨hnull, by simp [hnull]⟩

end OpenApiDoc.Example
