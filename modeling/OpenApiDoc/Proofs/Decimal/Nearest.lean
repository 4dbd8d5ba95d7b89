import OpenApiDoc.Proofs.Decimal.Shortest

/-!
# Nearest doubles

What it means for a double to be nearest to a magnitude, a tie going to the even significand:
there is one such double of each sign at most (`Binary64.Nearest.eq`). Magnitudes from halfway
beyond the largest double on are beyond the range. A quotient of units and a decimal are rounded
to just the nearest double, and to nothing beyond the range; this holds as well for decimals so
far away that their digits are not looked at (`Binary64.rounded_ofDecimal`).
-/

namespace OpenApiDoc

variable {num den : Nat}

/-- The distance from a quotient to a whole number, as a multiple of one part of the quotient. -/
def distance (num den k : Nat) : Nat := ((num : Int) - den * k).natAbs

lemma distance_of_le {k : Nat} (h : den * k ≤ num) : distance num den k = num - den * k := by
  have hcast : (den : Int) * k = (den * k : Nat) := (Int.natCast_mul den k).symm
  rw [distance, hcast]
  omega

/-- No whole number is nearer to a quotient than the one that it is rounded to, and the one that
it is rounded to is even if another one is as near. -/
lemma distance_roundHalfEven (hden : 0 < den) (num k : Nat) :
    distance num den (roundHalfEven num den) ≤ distance num den k ∧
    (distance num den (roundHalfEven num den) = distance num den k → k ≠ roundHalfEven num den →
      roundHalfEven num den % 2 = 0) := by
  have hnum := Nat.div_add_mod num den
  have hmod := Nat.mod_lt num hden
  have hcast : ∀ m : Nat, (den : Int) * m = (den * m : Nat) :=
    fun m => (Int.natCast_mul den m).symm
  simp only [distance, roundHalfEven, hcast]
  generalize num / den = below at *
  generalize num % den = rest at *
  -- the quotient lies between two neighbours, and every other number lies beyond one of them
  have hsucc : den * (below + 1) = den * below + den := Nat.mul_succ den below
  have hfar : den * k + den ≤ den * below ∨ k = below ∨ k = below + 1 ∨
      den * (below + 1) + den ≤ den * k := by
    rcases Nat.lt_or_ge k below with hlt | hge
    · exact .inl (by simpa [Nat.mul_succ] using Nat.mul_le_mul_left den hlt)
    · rcases Nat.lt_or_ge (below + 1) k with hlt | hle
      · exact .inr (.inr (.inr (by simpa [Nat.mul_succ] using Nat.mul_le_mul_left den hlt)))
      · omega
  rcases hfar with hfar | rfl | rfl | hfar <;> split_ifs <;> omega

namespace Binary64

variable {negative : Bool} {x y : Binary64} {q : ℚ}

/-! ### Doubles on the line -/

lemma parts_of_units_eq (h : x.units = y.units) :
    x.significand = y.significand ∧ x.exponent = y.exponent := by
  have hexponent : x.exponent = y.exponent := by rw [← exponentOf_units, h, exponentOf_units]
  rw [units, units, hexponent] at h
  exact ⟨Nat.eq_of_mul_eq_mul_right (Nat.two_pow_pos _) h, hexponent⟩

lemma eq_of_units_eq (h : x.units = y.units) (hsign : x.negative = y.negative) : x = y := by
  obtain ⟨hsignificand, hexponent⟩ := parts_of_units_eq h
  cases x
  cases y
  simp_all

/-- A double with a smaller exponent is smaller than any with the bits that a
larger one takes. -/
lemma units_lt_of_exponent_lt {exponent : Nat} (h : x.exponent < exponent) :
    x.units < 2 ^ 52 * 2 ^ exponent := by
  have hle : 53 + x.exponent ≤ 52 + exponent := by omega
  calc x.units < 2 ^ 53 * 2 ^ x.exponent :=
        Nat.mul_lt_mul_of_pos_right x.significand_lt (Nat.two_pow_pos _)
    _ = 2 ^ (53 + x.exponent) := (Nat.pow_add 2 53 x.exponent).symm
    _ ≤ 2 ^ (52 + exponent) := Nat.pow_le_pow_right (by decide) hle
    _ = 2 ^ 52 * 2 ^ exponent := Nat.pow_add 2 52 exponent

/-- A double with this exponent or a larger one is a multiple of its power of two. -/
lemma exists_units_eq {exponent : Nat} (h : exponent ≤ x.exponent) :
    ∃ k, x.units = k * 2 ^ exponent := by
  obtain ⟨more, hmore⟩ := Nat.exists_eq_add_of_le h
  refine ⟨x.significand * 2 ^ more, ?_⟩
  rw [units, hmore, Nat.pow_eq, Nat.pow_add, Nat.mul_assoc, Nat.mul_comm (2 ^ more)]

/-- Between a double and the next one there is no other. -/
lemma units_add_le (h : x.units < y.units) : x.units + 2 ^ x.exponent ≤ y.units := by
  have hpos : 0 < 2 ^ x.exponent := Nat.two_pow_pos _
  rcases Nat.lt_or_ge y.exponent x.exponent with hlt | hge
  · have hnormal : 2 ^ 52 ≤ x.significand := x.normal.resolve_left (by omega)
    have hle : 2 ^ 52 * 2 ^ x.exponent ≤ x.units := Nat.mul_le_mul_right _ hnormal
    have := units_lt_of_exponent_lt hlt
    omega
  · obtain ⟨k, hk⟩ := exists_units_eq hge
    rw [hk, units, Nat.pow_eq] at h ⊢
    rw [← Nat.succ_mul]
    exact Nat.mul_le_mul_right _ (Nat.lt_of_mul_lt_mul_right h)

/-- After a double with an even significand comes one with an odd one. -/
lemma exists_next (heven : x.significand % 2 = 0) :
    ∃ z : Binary64, z.significand % 2 = 1 ∧ z.units = x.units + 2 ^ x.exponent := by
  have hlt : x.significand + 1 < Nat.pow 2 53 := by
    have := x.significand_lt
    rw [Nat.pow_eq] at this ⊢
    omega
  exact ⟨⟨x.negative, x.significand + 1, x.exponent, hlt, x.normal.imp_right Nat.le_succ_of_le,
    x.exponent_le⟩, Nat.succ_mod_two_eq_one_iff.2 heven, Nat.succ_mul _ _⟩

/-! ### The nearest double -/

/-- The magnitude. -/
def magnitude (x : Binary64) : ℚ := x.units / unitsPerOne

/-- No double is nearer to a magnitude, and if another one is as near, the
significand is even. -/
structure Nearest (x : Binary64) (q : ℚ) : Prop where
  le : ∀ y : Binary64, |q - x.magnitude| ≤ |q - y.magnitude|
  even : ∀ y : Binary64, |q - x.magnitude| = |q - y.magnitude| → y.magnitude ≠ x.magnitude →
    x.significand % 2 = 0

lemma unitsPerOne_pos : (0 : ℚ) < unitsPerOne := by
  obtain ⟨n, hn⟩ : ∃ n, n = 1074 := ⟨_, rfl⟩
  rw [unitsPerOne_eq hn, Nat.cast_pos]
  exact Nat.two_pow_pos n

lemma magnitude_lt_iff : x.magnitude < y.magnitude ↔ x.units < y.units := by
  rw [magnitude, magnitude, div_lt_div_iff_of_pos_right unitsPerOne_pos, Nat.cast_lt]

lemma magnitude_inj : x.magnitude = y.magnitude ↔ x.units = y.units := by
  rw [magnitude, magnitude, div_left_inj' unitsPerOne_pos.ne', Nat.cast_inj]

/-- Of two doubles that are equally near only one has an even significand: there is one between
them, or else they follow each other. -/
lemma Nearest.not_lt (hx : x.Nearest q) (hy : y.Nearest q) : ¬ x.units < y.units := by
  intro hlt
  have hmagnitude := magnitude_lt_iff.2 hlt
  have hdistance : |q - x.magnitude| = |q - y.magnitude| := le_antisymm (hx.le y) (hy.le x)
  have hxeven := hx.even y hdistance hmagnitude.ne'
  have hyeven := hy.even x hdistance.symm hmagnitude.ne
  obtain ⟨z, hzodd, hz⟩ := exists_next hxeven
  have hxz : x.magnitude < z.magnitude := magnitude_lt_iff.2 (by
    have := Nat.two_pow_pos x.exponent
    omega)
  have hmiddle : q - x.magnitude = y.magnitude - q := by
    rcases abs_eq_abs.1 hdistance with h | h <;> linarith
  -- both are as far from the middle, so the next one after the smaller is nearer
  -- or the larger one
  rcases Nat.lt_or_ge z.units y.units with hzy | hge
  · have hzy := magnitude_lt_iff.2 hzy
    have hnearer : |q - z.magnitude| < |q - x.magnitude| := by
      rw [abs_lt, abs_of_pos (by linarith)]
      constructor <;> linarith
    exact absurd (hx.le z) (not_le.2 hnearer)
  · have hunits : z.units = y.units := by
      have := units_add_le hlt
      omega
    have := (parts_of_units_eq hunits).1
    omega

/-- There is one nearest double of each sign at most. -/
theorem Nearest.eq (hx : x.Nearest q) (hy : y.Nearest q) (hsign : x.negative = y.negative) :
    x = y :=
  eq_of_units_eq
    (Nat.le_antisymm (Nat.not_lt.1 (hy.not_lt hx)) (Nat.not_lt.1 (hx.not_lt hy))) hsign

/-! ### Rounding quotients -/

lemma parts_of_ofParts? {significand exponent : Nat}
    (h : ofParts? negative significand exponent = some x) :
    x.negative = negative ∧ x.significand = significand ∧ x.exponent = exponent := by
  rw [ofParts?] at h
  split at h
  · cases h
    exact ⟨rfl, rfl, rfl⟩
  · cases h

/-- The parts of a rounded quotient: its units are the whole number of powers of two that is
nearest, and the significand is even if that is. -/
lemma parts_of_ofUnits (h : ofUnits negative num den = some x) :
    x.negative = negative ∧
    x.units = roundHalfEven num (den * 2 ^ exponentOf (num / den)) * 2 ^ exponentOf (num / den) ∧
    (roundHalfEven num (den * 2 ^ exponentOf (num / den)) % 2 = 0 → x.significand % 2 = 0) := by
  simp only [ofUnits, Nat.pow_eq] at h
  generalize exponentOf (num / den) = exponent at *
  generalize roundHalfEven num (den * 2 ^ exponent) = rounded at *
  split at h
  · next hfull =>
    obtain ⟨hsign, hsignificand, hexponent⟩ := parts_of_ofParts? h
    refine ⟨hsign, ?_, fun _ => by rw [hsignificand]⟩
    rw [hfull, units, hsignificand, hexponent, Nat.pow_eq, Nat.pow_succ]
    ring
  · obtain ⟨hsign, hsignificand, hexponent⟩ := parts_of_ofParts? h
    refine ⟨hsign, ?_, fun heven => by rw [hsignificand, heven]⟩
    rw [units, hsignificand, hexponent, Nat.pow_eq]

/-- A rounded quotient is nearest among all doubles. -/
lemma distance_ofUnits (hden : 0 < den) (h : ofUnits negative num den = some x) (y : Binary64) :
    distance num den x.units ≤ distance num den y.units ∧
    (distance num den x.units = distance num den y.units → y.units ≠ x.units →
      x.significand % 2 = 0) := by
  obtain ⟨-, hunits, heven⟩ := parts_of_ofUnits h
  obtain ⟨-, hnormal⟩ := exponentOf_bounds (num / den)
  rw [hunits]
  generalize exponentOf (num / den) = exponent at *
  have hpos : 0 < 2 ^ exponent := Nat.two_pow_pos _
  have hround := distance_roundHalfEven (Nat.mul_pos hden hpos) num
  have hdistance : ∀ k, distance num den (k * 2 ^ exponent) =
      distance num (den * 2 ^ exponent) k := by
    intro k
    simp only [distance]
    push_cast
    ring_nf
  rcases Nat.lt_or_ge y.exponent exponent with hlt | hge
  · -- the other double is below all those with as many bits as the quotient
    have hbits : 2 ^ 52 ≤ num / den / 2 ^ exponent := hnormal.resolve_left (by omega)
    rw [Nat.div_div_eq_div_mul, Nat.le_div_iff_mul_le (Nat.mul_pos hden hpos)] at hbits
    have hbelow := Nat.mul_lt_mul_of_pos_left (units_lt_of_exponent_lt hlt) hden
    have hle := (hround (2 ^ 52)).1
    rw [hdistance]
    have hless : distance num (den * 2 ^ exponent) (2 ^ 52) < distance num den y.units := by
      rw [Nat.mul_comm] at hbits
      rw [distance_of_le hbits]
      rw [Nat.mul_assoc, Nat.mul_comm (2 ^ exponent)] at hbits ⊢
      rw [distance_of_le (hbelow.le.trans hbits)]
      exact Nat.sub_lt_sub_left (hbelow.trans_le hbits) hbelow
    exact ⟨by omega, fun heq => by omega⟩
  · obtain ⟨k, hk⟩ := exists_units_eq hge
    rw [hk, hdistance, hdistance]
    refine ⟨(hround k).1, fun heq hne => heven ((hround k).2 heq fun h => hne ?_)⟩
    rw [h]

/-! ### The range of doubles -/

/-- A quotient below an even number is rounded up to it from halfway to its predecessor on. -/
lemma roundHalfEven_eq_iff {n k : Nat} (hn : 0 < n) (hk : 0 < k) (hlt : num / (2 * k) < 2 * n) :
    roundHalfEven num (2 * k) = 2 * n ↔ (4 * n - 1) * k ≤ num := by
  have hnum := Nat.div_add_mod num (2 * k)
  have hmod := Nat.mod_lt num (Nat.mul_pos Nat.two_pos hk)
  have hpred : (4 * n - 1) * k + k = 2 * k * (2 * n - 1) + 2 * k := by
    obtain ⟨n, rfl⟩ : ∃ m, n = m + 1 := ⟨n - 1, by omega⟩
    have hfour : 4 * (n + 1) - 1 = 4 * n + 3 := by omega
    have htwo : 2 * (n + 1) - 1 = 2 * n + 1 := by omega
    rw [hfour, htwo]
    ring
  simp only [roundHalfEven]
  generalize num % (2 * k) = rest at *
  generalize num / (2 * k) = below at *
  rcases Nat.lt_or_ge (below + 1) (2 * n) with hfar | hge
  · have hle : 2 * k * (below + 1) ≤ 2 * k * (2 * n - 1) := Nat.mul_le_mul_left _ (by omega)
    rw [Nat.mul_succ] at hle
    split_ifs <;> omega
  · obtain rfl : below = 2 * n - 1 := by omega
    split_ifs <;> omega

/-- A quotient has a nearest double unless its exponent is too large after rounding. -/
lemma isSome_ofUnits_iff : (ofUnits negative num den).isSome ↔
    exponentOf (num / den) ≤ 2044 ∨ exponentOf (num / den) = 2045 ∧
      roundHalfEven num (den * 2 ^ exponentOf (num / den)) ≠ 2 ^ 53 := by
  obtain ⟨hbits, hnormal⟩ := exponentOf_bounds (num / den)
  simp only [ofUnits, Nat.pow_eq]
  generalize exponentOf (num / den) = exponent at *
  obtain ⟨hlower, hupper⟩ := roundHalfEven_bounds num (den * 2 ^ exponent)
  rw [← Nat.div_div_eq_div_mul] at hlower hupper
  have htoo : ∀ {significand exponent : Nat}, 2045 < exponent →
      ¬ (ofParts? negative significand exponent).isSome := by
    intro significand exponent hlarge
    rw [ofParts?, dif_neg (by omega)]
    exact Bool.false_ne_true
  split
  · next hfull =>
    rcases Nat.lt_or_ge 2044 exponent with hlarge | hle
    · exact iff_of_false (htoo (by omega)) (by omega)
    · exact iff_of_true (isSome_ofParts? (by decide) (.inr le_rfl) (by omega)) (.inl hle)
  · next hne =>
    rcases Nat.lt_or_ge 2045 exponent with hlarge | hle
    · exact iff_of_false (htoo hlarge) (by omega)
    · exact iff_of_true (isSome_ofParts? (by omega) (hnormal.imp_right (by omega)) hle)
        (by omega)

/-- A quotient has a nearest double below halfway from the largest one to the next
power of two. -/
lemma isSome_ofUnits_iff_lt (hden : 0 < den) :
    (ofUnits negative num den).isSome ↔ num < (2 ^ 54 - 1) * (den * 2 ^ 2044) := by
  rw [isSome_ofUnits_iff]
  obtain ⟨hbits, hnormal⟩ := exponentOf_bounds (num / den)
  generalize exponentOf (num / den) = exponent at *
  rw [Nat.div_div_eq_div_mul] at hbits hnormal
  have hpos : ∀ n, 0 < den * 2 ^ n := fun n => Nat.mul_pos hden (Nat.two_pow_pos n)
  have hmono : ∀ {a b : Nat}, a ≤ b → den * 2 ^ a ≤ den * 2 ^ b := fun h =>
    Nat.mul_le_mul_left _ (Nat.pow_le_pow_right (by decide) h)
  rw [Nat.div_lt_iff_lt_mul (hpos exponent)] at hbits
  have hdouble : ∀ n, den * 2 ^ (n + 1) = 2 * (den * 2 ^ n) := fun n => by ring
  rcases Nat.lt_trichotomy exponent 2045 with hlt | heq | hgt
  · have hle : den * 2 ^ exponent ≤ den * 2 ^ 2044 := hmono (by omega)
    exact iff_of_true (by omega) (by omega)
  · obtain rfl : exponent = 2044 + 1 := heq
    rw [hdouble 2044, ← Nat.div_lt_iff_lt_mul (by have := hpos 2044; omega)] at hbits
    have hfull := roundHalfEven_eq_iff (n := 2 ^ 52) (by decide) (hpos 2044) hbits
    rw [hdouble 2044]
    omega
  · have hbits := hnormal.resolve_left (by omega)
    rw [Nat.le_div_iff_mul_le (hpos exponent)] at hbits
    have hle : den * 2 ^ (2044 + 1 + 1) ≤ den * 2 ^ exponent := hmono hgt
    rw [hdouble, hdouble] at hle
    exact iff_of_false (by omega) (by omega)

/-- Halfway from the largest double to the next power of two. Magnitudes from here on are
beyond the range of doubles. -/
def rangeEnd : ℚ := 2 ^ 1024 - 2 ^ 970

lemma rangeEnd_mul : rangeEnd * unitsPerOne = (2 ^ 54 - 1) * 2 ^ 2044 := by
  have h : ∀ {a b c d : ℕ}, b = 1074 → c = 54 + a → d = a + b →
      ((2 : ℚ) ^ c - 2 ^ a) * unitsPerOne = (2 ^ 54 - 1) * 2 ^ d := by
    rintro a b _ _ hb rfl rfl
    rw [unitsPerOne_eq hb]
    push_cast
    ring
  exact h rfl rfl rfl

lemma lt_rangeEnd_iff (hden : 0 < den) :
    (num : ℚ) / den / unitsPerOne < rangeEnd ↔ num < (2 ^ 54 - 1) * (den * 2 ^ 2044) := by
  have hden : (0 : ℚ) < den := Nat.cast_pos.2 hden
  have hcast : ∀ b : ℕ, ((2 : ℚ) ^ 54 - 1) * 2 ^ b * den =
      ((2 ^ 54 - 1) * (den * 2 ^ b) : ℕ) := by
    intro b
    rw [Nat.cast_mul, Nat.cast_sub Nat.one_le_two_pow]
    push_cast
    ring
  rw [div_lt_iff₀ unitsPerOne_pos, rangeEnd_mul, div_lt_iff₀ hden, hcast, Nat.cast_lt]

/-! ### Rounding magnitudes -/

/-- What a magnitude is rounded to: the nearest double with this sign, or nothing if the
magnitude is beyond the range. -/
inductive Rounded (negative : Bool) (q : ℚ) : Option Binary64 → Prop where
  | nearest {x : Binary64} (sign : x.negative = negative) (nearest : x.Nearest q)
      (within : q < rangeEnd) : Rounded negative q (some x)
  | beyond (h : rangeEnd ≤ q) : Rounded negative q none

/-- A magnitude is rounded to one thing only. -/
theorem Rounded.eq {result result' : Option Binary64} (h : Rounded negative q result)
    (h' : Rounded negative q result') : result = result' := by
  cases h with
  | nearest sign nearest within =>
    cases h' with
    | nearest sign' nearest' _ => rw [nearest.eq nearest' (sign.trans sign'.symm)]
    | beyond h => exact absurd within (not_lt.2 h)
  | beyond h =>
    cases h' with
    | nearest _ _ within => exact absurd within (not_lt.2 h)
    | beyond _ => rfl

lemma abs_sub_magnitude (hden : 0 < den) (x : Binary64) :
    |(num : ℚ) / den / unitsPerOne - x.magnitude| =
      distance num den x.units / (den * unitsPerOne) := by
  have hden : (0 : ℚ) < den := Nat.cast_pos.2 hden
  have hone := unitsPerOne_pos
  have hquotient : (num : ℚ) / den / unitsPerOne - x.magnitude =
      (num - den * x.units) / (den * unitsPerOne) := by
    rw [magnitude]
    field_simp
  rw [hquotient, abs_div, abs_of_pos (mul_pos hden hone), distance, Nat.cast_natAbs]
  push_cast
  rfl

/-- A quotient of units is rounded. -/
theorem rounded_ofUnits (hden : 0 < den) (negative : Bool) (num : Nat) :
    Rounded negative (num / den / unitsPerOne) (ofUnits negative num den) := by
  have hrange : (ofUnits negative num den).isSome ↔ (num : ℚ) / den / unitsPerOne < rangeEnd :=
    (isSome_ofUnits_iff_lt hden).trans (lt_rangeEnd_iff hden).symm
  rcases h : ofUnits negative num den with _ | x
  · rw [h] at hrange
    exact .beyond (not_lt.1 fun hlt => Bool.false_ne_true (hrange.2 hlt))
  · rw [h] at hrange
    have hpos : (0 : ℚ) < den * unitsPerOne := mul_pos (Nat.cast_pos.2 hden) unitsPerOne_pos
    refine .nearest (parts_of_ofUnits h).1 ⟨fun y => ?_, fun y heq hne => ?_⟩ (hrange.1 rfl)
    · rw [abs_sub_magnitude hden, abs_sub_magnitude hden, div_le_div_iff_of_pos_right hpos,
        Nat.cast_le]
      exact (distance_ofUnits hden h y).1
    · rw [abs_sub_magnitude hden, abs_sub_magnitude hden, div_left_inj' hpos.ne',
        Nat.cast_inj] at heq
      exact (distance_ofUnits hden h y).2 heq (mt magnitude_inj.2 hne)

/-! ### Rounding decimals -/

variable {digits : Nat}

lemma one_lt_rangeEnd : 1 < rangeEnd := by
  have h : ∀ {a b : ℕ}, b = 54 + a → (1 : ℚ) < 2 ^ b - 2 ^ a := by
    rintro a _ rfl
    have hone : (1 : ℚ) ≤ 2 ^ a := one_le_pow₀ one_le_two
    rw [pow_add]
    linarith
  exact h rfl

lemma rangeEnd_le : rangeEnd ≤ 10 ^ 400 :=
  (sub_le_self _ (pow_nonneg zero_le_two 970)).trans (two_pow_le_ten_pow (by decide))

lemma two_mul_unitsPerOne_le : 2 * (unitsPerOne : ℚ) ≤ 10 ^ 400 := by
  obtain ⟨n, hn⟩ : ∃ n, n = 1074 := ⟨_, rfl⟩
  have htwo : 2 * (unitsPerOne : ℚ) = 2 ^ (n + 1) := by
    rw [unitsPerOne_eq hn]
    push_cast
    ring
  rw [htwo]
  exact two_pow_le_ten_pow (by omega)

/-- Zero is nearest up to half a unit. -/
lemma nearest_zero (hnonneg : 0 ≤ q) (h : q * (2 * unitsPerOne) ≤ 1) :
    (zero negative).Nearest q where
  le y := by
    have hunits : (zero negative).units = 0 := Nat.zero_mul _
    have hzero : (zero negative).magnitude = 0 := by
      rw [magnitude, hunits, Nat.cast_zero, zero_div]
    rw [hzero, sub_zero, abs_of_nonneg hnonneg]
    rcases Nat.eq_zero_or_pos y.units with hy | hy
    · rw [magnitude, hy, Nat.cast_zero, zero_div, sub_zero]
      exact le_abs_self q
    · have hone : (1 : ℚ) ≤ y.units := Nat.one_le_cast.2 hy
      have hfar : 2 * q ≤ y.magnitude := by
        rw [magnitude, le_div_iff₀ unitsPerOne_pos]
        linarith
      rw [abs_sub_comm]
      exact le_trans (by linarith) (le_abs_self _)
  even _ _ _ := rfl

/-- A decimal lies between the powers of ten that the number of its digits gives. -/
lemma decimal_bounds (h : digits ≠ 0) (exponent : Int) :
    (10 : ℚ) ^ (exponent + (Nat.toDigits 10 digits).length - 1) ≤ digits * 10 ^ exponent ∧
    (digits : ℚ) * 10 ^ exponent < 10 ^ (exponent + (Nat.toDigits 10 digits).length) := by
  obtain ⟨n, hn⟩ := Nat.exists_eq_add_of_lt (Nat.length_toDigits_pos (b := 10) (n := digits))
  have hupper : digits < 10 ^ (n + 1) :=
    (Nat.length_toDigits_le_iff (by decide) (by omega)).1 (by omega)
  have hlower : 10 ^ n ≤ digits := by
    rcases Nat.eq_zero_or_pos n with rfl | hpos
    · exact Nat.pos_of_ne_zero h
    · exact Nat.not_lt.1 fun hlt => by
        have := (Nat.length_toDigits_le_iff (by decide) hpos).2 hlt
        omega
  have hten : (0 : ℚ) < 10 ^ exponent := zpow_pos (by norm_num) exponent
  have hlast : exponent + (Nat.toDigits 10 digits).length - 1 = (n : Int) + exponent := by omega
  have hlength :
      exponent + (Nat.toDigits 10 digits).length = ((n + 1 : Nat) : Int) + exponent := by
    omega
  rw [hlast, hlength, zpow_add₀ (by norm_num), zpow_add₀ (by norm_num), zpow_natCast,
    zpow_natCast]
  exact ⟨mul_le_mul_of_nonneg_right (mod_cast hlower) hten.le,
    mul_lt_mul_of_pos_right (mod_cast hupper) hten⟩

/-- A decimal is rounded, also where it is so far away that its digits are not looked at. -/
theorem rounded_ofDecimal (negative : Bool) (digits : Nat) (exponent : Int) :
    Rounded negative (digits * 10 ^ exponent) (ofDecimal negative digits exponent) := by
  rcases Nat.eq_zero_or_pos digits with rfl | hpos
  · rw [ofDecimal_zero, Nat.cast_zero, zero_mul]
    exact .nearest rfl (nearest_zero le_rfl (by rw [zero_mul]; exact zero_le_one))
      (zero_lt_one.trans one_lt_rangeEnd)
  have hdigits : digits ≠ 0 := Nat.ne_of_gt hpos
  obtain ⟨hlower, hupper⟩ := decimal_bounds hdigits exponent
  by_cases reach : InReach digits exponent
  · obtain ⟨up, down, rfl⟩ : ∃ up down : Nat, exponent = up - down :=
      ⟨exponent.toNat, (-exponent).toNat, by omega⟩
    rw [ofDecimal_of_inReach reach]
    have hvalue : (digits : ℚ) * 10 ^ (up - down : Int) =
        ((digits * 10 ^ up * unitsPerOne : ℕ) : ℚ) / ((10 ^ down : ℕ) : ℚ) / unitsPerOne := by
      have := unitsPerOne_pos.ne'
      rw [zpow_sub₀ (by norm_num), zpow_natCast, zpow_natCast]
      push_cast
      field_simp
    rw [hvalue]
    exact rounded_ofUnits (Nat.pow_pos (by decide)) negative _
  · simp only [InReach, hdigits, ne_eq, not_false_eq_true, true_and, not_and_or, not_le] at reach
    simp only [ofDecimal, if_neg hdigits]
    rcases reach with hsmall | hlarge
    · rw [if_neg (by omega), if_pos hsmall]
      have hle : (digits : ℚ) * 10 ^ exponent ≤ (10 ^ 400)⁻¹ := by
        rw [← zpow_natCast, ← zpow_neg]
        exact hupper.le.trans (zpow_le_zpow_right₀ (by norm_num) (by omega))
      have hinv : ((10 : ℚ) ^ 400)⁻¹ ≤ 1 := inv_le_one_of_one_le₀ (one_le_pow₀ (by norm_num))
      refine .nearest rfl (nearest_zero (by positivity) ?_)
        ((hle.trans hinv).trans_lt one_lt_rangeEnd)
      calc (digits : ℚ) * 10 ^ exponent * (2 * unitsPerOne)
          ≤ (10 ^ 400)⁻¹ * 10 ^ 400 :=
            mul_le_mul hle two_mul_unitsPerOne_le (mul_nonneg zero_le_two unitsPerOne_pos.le)
              (inv_nonneg.2 (pow_nonneg (by norm_num) 400))
        _ = 1 := inv_mul_cancel₀ (pow_ne_zero 400 (by norm_num))
    · rw [if_pos hlarge]
      refine .beyond (rangeEnd_le.trans ?_)
      rw [← zpow_natCast]
      exact (zpow_le_zpow_right₀ (by norm_num) (by omega)).trans hlower

end Binary64

end OpenApiDoc
