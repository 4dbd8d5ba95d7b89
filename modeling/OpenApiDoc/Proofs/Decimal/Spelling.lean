import OpenApiDoc.Proofs.Decimal.Nearest
import OpenApiDoc.Proofs.Decimal.Reading

/-!
# What number texts spell

The grammar of number texts with the values that they spell, apart from how they are read. The
readers accept just the texts of the grammar: whole numbers with their value, and floating point
numbers with the double that the value is rounded to. Names of infinities and of no number, and
decimals beyond the range of doubles, are read as no finite double.
-/

namespace OpenApiDoc.Decimal

variable {negative : Bool} {text rest whole fraction tail : List Char} {c : Char}
variable {n : Nat} {e : Int} {q : ℚ} {x : Binary64}

/-! ### Signs -/

/-- A text with a sign before it; a plus may be left out. -/
inductive Sign : Bool → List Char → List Char → Prop where
  | minus (rest : List Char) : Sign true rest ('-' :: rest)
  | plus (rest : List Char) : Sign false rest ('+' :: rest)
  | absent (rest : List Char) : Sign false rest rest

/-- The text does not begin with a sign. -/
def Unsigned (text : List Char) : Prop := ∀ c ∈ text.head?, c ≠ '-' ∧ c ≠ '+'

lemma sign_splitSign (text : List Char) : Sign (splitSign text).1 (splitSign text).2 text := by
  unfold splitSign
  split
  · exact .minus _
  · exact .plus _
  · exact .absent _

lemma splitSign_of_unsigned (h : Unsigned text) : splitSign text = (false, text) := by
  unfold splitSign
  split
  · exact absurd rfl (h '-' rfl).1
  · exact absurd rfl (h '+' rfl).2
  · rfl

lemma Sign.splitSign_eq (sign : Sign negative rest text) (h : Unsigned rest) :
    splitSign text = (negative, rest) := by
  cases sign with
  | minus => rfl
  | plus => rfl
  | absent => exact splitSign_of_unsigned h

/-! ### Whole numbers -/

/-- A row of digits spells a number. -/
structure SpellsNat (text : List Char) (n : Nat) : Prop where
  digital : Digital text
  ne_nil : text ≠ []
  value : natOfDigits text = n

/-- Digits with an optional sign spell a whole number. -/
inductive SpellsInt (text : List Char) : Int → Prop where
  | signed {negative : Bool} {rest : List Char} {n : Nat} (sign : Sign negative rest text)
      (spells : SpellsNat rest n) : SpellsInt text (if negative then -n else n)

lemma ne_of_isDigit (h : c.isDigit = true) {d : Char} (hd : d.isDigit = false) : c ≠ d := by
  rintro rfl
  rw [hd] at h
  cases h

lemma SpellsNat.unsigned (h : SpellsNat text n) : Unsigned text := by
  intro c hc
  have hdigit := h.digital c (List.mem_of_mem_head? hc)
  exact ⟨ne_of_isDigit hdigit rfl, ne_of_isDigit hdigit rfl⟩

lemma readNat_eq_some_iff : readNat text = some n ↔ SpellsNat text n := by
  rw [readNat]
  constructor
  · intro h
    split at h
    · cases h
    · next hcondition =>
      simp only [Bool.or_eq_true, List.isEmpty_iff, Bool.not_eq_true', not_or,
        Bool.not_eq_false, List.all_eq_true] at hcondition
      exact ⟨hcondition.2, hcondition.1, Option.some.inj h⟩
  · rintro ⟨digital, hne, rfl⟩
    have hall : text.all Char.isDigit = true := List.all_eq_true.2 digital
    simp [hall, hne]

/-- The whole numbers that are read are those that are spelled. -/
theorem readInt_eq_some_iff {n : Int} : readInt text = some n ↔ SpellsInt text n := by
  constructor
  · intro h
    obtain ⟨value, hvalue, rfl⟩ := Option.map_eq_some_iff.1 h
    obtain ⟨n, hread, hn⟩ := Option.bind_eq_some_iff.1 hvalue
    cases hn
    exact .signed (sign_splitSign text) (readNat_eq_some_iff.1 hread)
  · rintro ⟨sign, spells⟩
    simp only [readInt, sign.splitSign_eq spells.unsigned, readNat_eq_some_iff.2 spells]
    rfl

/-! ### Magnitudes -/

/-- The exponent of a decimal, which may be left out. -/
inductive SpellsExponent : List Char → Int → Prop where
  | absent : SpellsExponent [] 0
  | written {c : Char} {rest : List Char} {e : Int} (letter : c = 'e' ∨ c = 'E')
      (spells : SpellsInt rest e) : SpellsExponent (c :: rest) e

/-- A decimal without a sign spells a magnitude: digits before and after a point, where those on
one side may be missing, or digits without a point; and an exponent. -/
inductive SpellsMagnitude : List Char → ℚ → Prop where
  | unpointed {whole tail : List Char} {n : Nat} {e : Int} (spells : SpellsNat whole n)
      (exponent : SpellsExponent tail e) : SpellsMagnitude (whole ++ tail) (n * 10 ^ e)
  | pointed {whole fraction tail : List Char} {e : Int} (digital : Digital whole)
      (digital' : Digital fraction) (ne_nil : whole ≠ [] ∨ fraction ≠ [])
      (exponent : SpellsExponent tail e) :
      SpellsMagnitude (whole ++ '.' :: (fraction ++ tail))
        ((natOfDigits whole + natOfDigits fraction / 10 ^ fraction.length) * 10 ^ e)

lemma readExponent_eq_some_iff : readExponent tail = some e ↔ SpellsExponent tail e := by
  constructor
  · intro h
    cases tail with
    | nil =>
      cases h
      exact .absent
    | cons c rest =>
      rw [readExponent] at h
      split at h
      · next letter => exact .written letter (readInt_eq_some_iff.1 h)
      · cases h
  · intro h
    cases h with
    | absent => rfl
    | written letter spells => rw [readExponent, if_pos letter, readInt_eq_some_iff.2 spells]

lemma SpellsExponent.isDigit_head (h : SpellsExponent tail e) :
    ∀ c ∈ tail.head?, c.isDigit = false := by
  cases h with
  | absent => simp
  | written letter _ =>
    rintro c ⟨⟩
    rcases letter with rfl | rfl <;> rfl

lemma natOfDigits_append (whole fraction : List Char) : natOfDigits (whole ++ fraction) =
    10 ^ fraction.length * natOfDigits whole + natOfDigits fraction :=
  (Nat.ofDigitChars_append 0).trans Nat.ofDigitChars_eq_ofDigitChars_zero

/-- The digits on both sides of the point, with the exponent lowered by the number of those
behind it, are the same magnitude. -/
lemma magnitude_eq (whole fraction : List Char) (e : Int) :
    (natOfDigits whole + natOfDigits fraction / 10 ^ fraction.length : ℚ) * 10 ^ e =
      natOfDigits (whole ++ fraction) * 10 ^ (e - fraction.length) := by
  rw [natOfDigits_append, zpow_sub₀ (by norm_num), zpow_natCast]
  push_cast
  field_simp

lemma parts_of_readExponent {digits : Nat} {exponent : Int}
    (h : (if whole.isEmpty && fraction.isEmpty then none else (readExponent tail).map fun e =>
      (natOfDigits (whole ++ fraction), e - (fraction.length : Int))) =
        some (digits, exponent)) :
    (whole ≠ [] ∨ fraction ≠ []) ∧ ∃ e, SpellsExponent tail e ∧
      natOfDigits (whole ++ fraction) = digits ∧ e - fraction.length = exponent := by
  split at h
  · cases h
  · next hempty =>
    obtain ⟨e, hexponent, heq⟩ := Option.map_eq_some_iff.1 h
    obtain ⟨hdigits, hexponent'⟩ := Prod.mk.inj heq
    refine ⟨?_, e, readExponent_eq_some_iff.1 hexponent, hdigits, hexponent'⟩
    simpa [or_iff_not_imp_left] using hempty

lemma SpellsMagnitude.exists_readDecimal (spells : SpellsMagnitude text q) :
    ∃ digits exponent, readDecimal text = some (digits, exponent) ∧
      q = digits * 10 ^ exponent := by
  cases spells with
  | @unpointed whole tail n e spells exponent =>
    refine ⟨n, e, ?_, rfl⟩
    have hhead := exponent.isDigit_head
    have hread := readExponent_eq_some_iff.2 exponent
    have hempty : whole.isEmpty = false := List.isEmpty_eq_false_iff.2 spells.ne_nil
    simp only [readDecimal, spells.digital.takeWhile_append hhead,
      spells.digital.dropWhile_append hhead]
    -- what follows the digits does not begin with a point, so it is read as an exponent
    cases exponent with
    | absent => simp [hempty, readExponent, spells.value]
    | written letter _ => rcases letter with rfl | rfl <;> simp [hempty, hread, spells.value]
  | @pointed whole fraction tail e digital digital' ne_nil exponent =>
    refine ⟨_, _, ?_, magnitude_eq whole fraction e⟩
    have hpoint : ∀ c ∈ ('.' :: (fraction ++ tail)).head?, c.isDigit = false := by
      rintro c ⟨⟩
      rfl
    have hhead := exponent.isDigit_head
    have hempty : (whole.isEmpty && fraction.isEmpty) = false := by
      rcases ne_nil with h | h <;> simp [h]
    simp only [readDecimal, digital.takeWhile_append hpoint, digital.dropWhile_append hpoint,
      digital'.takeWhile_append hhead, digital'.dropWhile_append hhead, hempty,
      readExponent_eq_some_iff.2 exponent]
    rfl

lemma spellsMagnitude_of_readDecimal {digits : Nat} {exponent : Int}
    (hread : readDecimal text = some (digits, exponent)) :
    SpellsMagnitude text (digits * 10 ^ exponent) := by
  rw [readDecimal] at hread
  have hdigital : ∀ text : List Char, Digital (text.takeWhile Char.isDigit) :=
    fun _ _ => List.mem_takeWhile_imp
  have hwhole := hdigital text
  rw [← List.takeWhile_append_dropWhile (p := Char.isDigit) (l := text)]
  generalize text.takeWhile Char.isDigit = whole at *
  generalize text.dropWhile Char.isDigit = rest at *
  dsimp only at hread
  -- a point may follow the digits at the front, with digits of its own behind it
  split at hread
  · next after =>
    dsimp only at hread
    obtain ⟨hne, e, hexponent, rfl, rfl⟩ := parts_of_readExponent hread
    have spells := SpellsMagnitude.pointed hwhole (hdigital after) hne hexponent
    rwa [List.takeWhile_append_dropWhile, magnitude_eq] at spells
  · obtain ⟨hne, e, hexponent, rfl, rfl⟩ := parts_of_readExponent hread
    have hne := hne.resolve_right (not_not.2 rfl)
    simpa using SpellsMagnitude.unpointed ⟨hwhole, hne, rfl⟩ hexponent

/-- The decimals that are read are those that spell a magnitude, and this is theirs. -/
theorem spellsMagnitude_iff : SpellsMagnitude text q ↔
    ∃ digits exponent, readDecimal text = some (digits, exponent) ∧
      q = digits * 10 ^ exponent := by
  refine ⟨SpellsMagnitude.exists_readDecimal, ?_⟩
  rintro ⟨digits, exponent, hread, rfl⟩
  exact spellsMagnitude_of_readDecimal hread

/-! ### Floating point numbers -/

/-- A name of an infinity or of no number, in letters of either case. -/
def Names (text : List Char) : Prop :=
  text.map Char.toLower ∈ ["inf".toList, "infinity".toList, "nan".toList]

/-- The text spells no finite double: it names an infinity or no number, or spells a magnitude
beyond the range of doubles. -/
inductive NonFinite (text : List Char) : Prop where
  | named {negative : Bool} {rest : List Char} (sign : Sign negative rest text)
      (names : Names rest) : NonFinite text
  | beyond {negative : Bool} {rest : List Char} {q : ℚ} (sign : Sign negative rest text)
      (spells : SpellsMagnitude rest q) (beyond : Binary64.rangeEnd ≤ q) : NonFinite text

/-- The text spells a magnitude that is rounded to this double. -/
inductive SpellsDouble (text : List Char) (x : Binary64) : Prop where
  | rounded {negative : Bool} {rest : List Char} {q : ℚ} (sign : Sign negative rest text)
      (spells : SpellsMagnitude rest q) (rounded : Binary64.Rounded negative q (some x)) :
      SpellsDouble text x

lemma names_iff : Names text ↔ text.map Char.toLower = ['i', 'n', 'f'] ∨
    text.map Char.toLower = ['i', 'n', 'f', 'i', 'n', 'i', 't', 'y'] ∨
    text.map Char.toLower = ['n', 'a', 'n'] := by
  simp [Names]

lemma Names.head (names : Names text) :
    ∃ c rest, text = c :: rest ∧ (c.toLower = 'i' ∨ c.toLower = 'n') := by
  cases text with
  | nil => simp [Names] at names
  | cons c rest =>
    refine ⟨c, rest, rfl, ?_⟩
    simp only [names_iff, List.map_cons, List.cons.injEq] at names
    rcases names with names | names | names
    · exact .inl names.1
    · exact .inl names.1
    · exact .inr names.1

lemma Names.unsigned (names : Names text) : Unsigned text := by
  obtain ⟨c, rest, rfl, hletter⟩ := names.head
  rintro c ⟨⟩
  constructor <;> rintro rfl <;> revert hletter <;> decide

/-- A magnitude begins with a digit or with the point. -/
lemma SpellsMagnitude.head (spells : SpellsMagnitude text q) :
    ∃ c rest, text = c :: rest ∧ (c.isDigit = true ∨ c = '.') := by
  cases spells with
  | @unpointed whole tail n e spells exponent =>
    obtain ⟨c, rest, rfl⟩ := List.exists_cons_of_ne_nil spells.ne_nil
    exact ⟨c, rest ++ tail, rfl, .inl (spells.digital c List.mem_cons_self)⟩
  | @pointed whole fraction tail e digital digital' ne_nil exponent =>
    cases whole with
    | nil => exact ⟨'.', fraction ++ tail, rfl, .inr rfl⟩
    | cons c rest => exact ⟨c, _, rfl, .inl (digital c List.mem_cons_self)⟩

lemma SpellsMagnitude.unsigned (spells : SpellsMagnitude text q) : Unsigned text := by
  obtain ⟨c, rest, rfl, hdigit | rfl⟩ := spells.head
  · rintro c ⟨⟩
    exact ⟨ne_of_isDigit hdigit rfl, ne_of_isDigit hdigit rfl⟩
  · rintro c ⟨⟩
    decide

lemma SpellsMagnitude.not_names (spells : SpellsMagnitude text q) : ¬ Names text := by
  intro names
  obtain ⟨c, rest, rfl, hletter⟩ := names.head
  obtain ⟨c, rest, heq, hdigit | rfl⟩ := spells.head
  · cases heq
    rw [toLower_of_isDigit hdigit] at hletter
    rcases hletter with rfl | rfl <;> cases hdigit
  · cases heq
    revert hletter
    decide

lemma readFloat_of_names (sign : Sign negative rest text) (names : Names rest) :
    ∃ spelled, readFloat text = some spelled ∧ ∀ x, spelled ≠ .finite x := by
  simp only [readFloat, sign.splitSign_eq names.unsigned]
  rcases names_iff.1 names with hname | hname | hname
  · exact ⟨_, if_pos (.inl hname), by simp⟩
  · exact ⟨_, if_pos (.inr hname), by simp⟩
  · exact ⟨.notANumber, by simp [hname], by simp⟩

/-- A magnitude is read as what it is rounded to, and as infinite beyond the range. -/
lemma readFloat_of_magnitude (sign : Sign negative rest text) (spells : SpellsMagnitude rest q) :
    ∃ result, Binary64.Rounded negative q result ∧
      readFloat text = some (result.elim (.infinite negative) .finite) := by
  obtain ⟨digits, exponent, hread, rfl⟩ := spellsMagnitude_iff.1 spells
  refine ⟨_, Binary64.rounded_ofDecimal negative digits exponent, ?_⟩
  have hnames := mt names_iff.2 spells.not_names
  rw [← or_assoc, not_or] at hnames
  simp only [readFloat, sign.splitSign_eq spells.unsigned, if_neg hnames.1,
    if_neg hnames.2, hread, Option.map_some]
  cases Binary64.ofDecimal negative digits exponent <;> rfl

/-- Whatever is read is a name or a magnitude. -/
lemma cases_of_readFloat {spelled : FloatText} (h : readFloat text = some spelled) :
    ∃ negative rest, Sign negative rest text ∧ (Names rest ∧ (∀ x, spelled ≠ .finite x) ∨
      ∃ q, SpellsMagnitude rest q) := by
  refine ⟨_, _, sign_splitSign text, ?_⟩
  simp only [readFloat] at h
  split at h
  · next hname =>
    cases h
    exact .inl ⟨names_iff.2 (hname.imp_right .inl), by simp⟩
  split at h
  · next hname =>
    cases h
    exact .inl ⟨names_iff.2 (.inr (.inr hname)), by simp⟩
  · obtain ⟨⟨digits, exponent⟩, hread, -⟩ := Option.map_eq_some_iff.1 h
    exact .inr ⟨_, spellsMagnitude_iff.2 ⟨digits, exponent, hread, rfl⟩⟩

/-- The finite doubles that are read are those that are spelled. -/
theorem readFloat_eq_finite_iff : readFloat text = some (.finite x) ↔ SpellsDouble text x := by
  constructor
  · intro h
    obtain ⟨negative, rest, sign, ⟨-, hne⟩ | ⟨q, spells⟩⟩ := cases_of_readFloat h
    · exact absurd rfl (hne x)
    · obtain ⟨result, rounded, hread⟩ := readFloat_of_magnitude sign spells
      rw [h] at hread
      cases result with
      | none => cases hread
      | some y =>
        cases hread
        exact .rounded sign spells rounded
  · rintro ⟨sign, spells, rounded⟩
    obtain ⟨result, rounded', hread⟩ := readFloat_of_magnitude sign spells
    rw [hread, rounded'.eq rounded]
    rfl

/-- All else that is read is no finite double. -/
theorem nonFinite_iff :
    NonFinite text ↔ ∃ spelled, readFloat text = some spelled ∧ ∀ x, spelled ≠ .finite x := by
  constructor
  · intro h
    cases h with
    | named sign names => exact readFloat_of_names sign names
    | beyond sign spells beyond =>
      obtain ⟨result, rounded, hread⟩ := readFloat_of_magnitude sign spells
      rw [rounded.eq (.beyond beyond)] at hread
      exact ⟨_, hread, by simp⟩
  · rintro ⟨spelled, h, hne⟩
    obtain ⟨negative, rest, sign, ⟨names, -⟩ | ⟨q, spells⟩⟩ := cases_of_readFloat h
    · exact .named sign names
    · obtain ⟨result, rounded, hread⟩ := readFloat_of_magnitude sign spells
      rw [h] at hread
      cases rounded with
      | nearest => exact absurd (Option.some.inj hread) (hne _)
      | beyond beyond => exact .beyond sign spells beyond

end OpenApiDoc.Decimal
