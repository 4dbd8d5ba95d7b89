import Mathlib
import OpenApiDoc.Decimal.Shortest

/-!
# Decimals that read back

A decimal is rounded to a double by its value alone: a common factor of a quotient makes no
difference, nor do zeros at the end of the digits. So the exact expansion of a double reads back,
and with it the shortest decimal, which is either one that was tried out or the exact expansion,
without the zeros at its end.
-/

namespace OpenApiDoc

variable {num den k : Nat}

lemma roundHalfEven_mul_right (hk : 0 < k) :
    roundHalfEven (num * k) (den * k) = roundHalfEven num den := by
  have hlt : ∀ a b : Nat, a * k < b * k ↔ a < b := fun _ _ => Nat.mul_lt_mul_right hk
  simp only [roundHalfEven, Nat.mul_div_mul_right _ _ hk, Nat.mul_mod_mul_right, ← Nat.mul_assoc,
    hlt]

/-- A whole number is rounded to itself. -/
lemma roundHalfEven_mul_self (hden : 0 < den) : roundHalfEven (num * den) den = num := by
  simp [roundHalfEven, Nat.mul_div_cancel _ hden, hden]

/-- A quotient is rounded to one of its two neighbours. -/
lemma roundHalfEven_bounds (num den : Nat) :
    num / den ≤ roundHalfEven num den ∧ roundHalfEven num den ≤ num / den + 1 := by
  simp only [roundHalfEven]
  split_ifs <;> omega

namespace Binary64

variable {negative : Bool} {x : Binary64}

lemma ofUnits_mul_right (hk : 0 < k) :
    ofUnits negative (num * k) (den * k) = ofUnits negative num den := by
  have hsignificand : ∀ exponent, roundHalfEven (num * k) (den * k * Nat.pow 2 exponent) =
      roundHalfEven num (den * Nat.pow 2 exponent) := by
    intro exponent
    rw [Nat.mul_right_comm, roundHalfEven_mul_right hk]
  simp only [ofUnits, Nat.mul_div_mul_right _ _ hk, hsignificand]

/-! ### Doubles are rounded to themselves -/

lemma exponentOf_units (x : Binary64) : exponentOf x.units = x.exponent := by
  rcases Nat.eq_zero_or_pos x.exponent with hzero | hpos
  · have hunits : x.units = x.significand := by simp [units, hzero]
    rw [exponentOf, hunits, if_pos x.significand_lt, hzero]
  · have hnormal : 2 ^ 52 ≤ x.significand := x.normal.resolve_left (Nat.ne_of_gt hpos)
    have hlower : 2 ^ (52 + x.exponent) ≤ x.units := by
      rw [units, Nat.pow_eq, Nat.pow_add]
      exact Nat.mul_le_mul_right _ hnormal
    have hupper : x.units < 2 ^ (53 + x.exponent) := by
      rw [units, Nat.pow_eq, Nat.pow_add]
      exact Nat.mul_lt_mul_of_pos_right x.significand_lt (Nat.two_pow_pos _)
    have hlarge : 2 ^ 53 ≤ x.units :=
      (Nat.pow_le_pow_right (by decide) (by omega)).trans hlower
    have hlog : x.units.log2 = 52 + x.exponent := by
      refine (Nat.log2_eq_iff (by omega)).2 ⟨hlower, ?_⟩
      rwa [Nat.add_right_comm]
    rw [exponentOf, Nat.pow_eq, if_neg (Nat.not_lt.2 hlarge), hlog, Nat.add_sub_cancel_left]

theorem ofUnits_units (x : Binary64) : ofUnits x.negative x.units 1 = some x := by
  have hsignificand : roundHalfEven x.units (1 * Nat.pow 2 x.exponent) = x.significand := by
    rw [Nat.one_mul, units]
    exact roundHalfEven_mul_self (Nat.two_pow_pos _)
  have hne : x.significand ≠ Nat.pow 2 53 := Nat.ne_of_lt x.significand_lt
  simp only [ofUnits, Nat.div_one, exponentOf_units, hsignificand, if_neg hne, ofParts?]
  rw [dif_pos ⟨x.significand_lt, x.normal, x.exponent_le⟩]

/-! ### The range of doubles -/

/-- The bits of a number are 53 under its exponent, or fewer if that is the least one. -/
lemma exponentOf_bounds (n : Nat) :
    n / 2 ^ exponentOf n < 2 ^ 53 ∧ (exponentOf n = 0 ∨ 2 ^ 52 ≤ n / 2 ^ exponentOf n) := by
  rw [exponentOf, Nat.pow_eq]
  split
  · next h => exact ⟨by simpa using h, .inl rfl⟩
  · next h =>
    have hne : n ≠ 0 := by omega
    obtain ⟨hlower, hupper⟩ := (Nat.log2_eq_iff hne).1 rfl
    have hlog : 52 ≤ n.log2 := (Nat.le_log2 hne).2 (by omega)
    obtain ⟨exponent, hlength⟩ := Nat.exists_eq_add_of_le hlog
    rw [hlength] at hlower hupper ⊢
    rw [Nat.add_sub_cancel_left]
    refine ⟨?_, .inr ?_⟩
    · rw [Nat.div_lt_iff_lt_mul (Nat.two_pow_pos _), ← Nat.pow_add]
      rwa [Nat.add_right_comm] at hupper
    · rwa [Nat.le_div_iff_mul_le (Nat.two_pow_pos _), ← Nat.pow_add]

lemma isSome_ofParts? {significand exponent : Nat} (hlt : significand < 2 ^ 53)
    (hnormal : exponent = 0 ∨ 2 ^ 52 ≤ significand) (hle : exponent ≤ 2045) :
    (ofParts? negative significand exponent).isSome := by
  rw [ofParts?, dif_pos ⟨hlt, hnormal, hle⟩]
  rfl

/-- A quotient of fewer bits than the largest double has a nearest double. -/
lemma isSome_ofUnits (h : (num / den).log2 < 2097) : (ofUnits negative num den).isSome := by
  obtain ⟨hbits, hnormal⟩ := exponentOf_bounds (num / den)
  have hexponent : exponentOf (num / den) ≤ 2044 := by
    rw [exponentOf]
    split <;> omega
  simp only [ofUnits]
  generalize exponentOf (num / den) = exponent at *
  obtain ⟨hlower, hupper⟩ := roundHalfEven_bounds num (den * Nat.pow 2 exponent)
  rw [Nat.pow_eq, ← Nat.div_div_eq_div_mul] at hlower hupper
  split
  · exact isSome_ofParts? (by decide) (.inr le_rfl) (by omega)
  · next hne =>
    simp only [Nat.pow_eq] at hne ⊢
    exact isSome_ofParts? (by omega) (hnormal.imp_right (by omega)) (by omega)

/-! ### Decimals -/

/-- The digits of a number followed by zeros. -/
lemma length_toDigits_mul_pow {digits : Nat} (h : digits ≠ 0) (k : Nat) :
    (Nat.toDigits 10 (digits * 10 ^ k)).length = (Nat.toDigits 10 digits).length + k := by
  induction k with
  | zero => simp
  | succ k ih =>
    have hpos : 0 < digits * 10 ^ k :=
      Nat.mul_pos (Nat.pos_of_ne_zero h) (Nat.pow_pos (by decide))
    have hshift : digits * 10 ^ (k + 1) = 10 * (digits * 10 ^ k) + 0 := by ring
    rw [hshift, ← Nat.toDigits_append_toDigits (by decide) hpos (by decide),
      List.length_append, ih]
    rfl

/-- A decimal is not so far from one that its double is known from the number of its digits. -/
def InReach (digits : Nat) (exponent : Int) : Prop :=
  digits ≠ 0 ∧ -400 ≤ exponent + (Nat.toDigits 10 digits).length ∧
    exponent + (Nat.toDigits 10 digits).length ≤ 400

/-- A decimal in reach is rounded as the quotient that it stands for. -/
lemma ofDecimal_of_inReach {digits up down : Nat} (h : InReach digits (up - down : Int)) :
    ofDecimal negative digits (up - down : Int) =
      ofUnits negative (digits * 10 ^ up * unitsPerOne) (10 ^ down) := by
  obtain ⟨hdigits, hlow, hhigh⟩ := h
  simp only [ofDecimal, if_neg hdigits]
  rw [if_neg (by omega), if_neg (by omega)]
  rcases Nat.lt_or_ge up down with hlt | hle
  · obtain ⟨e, rfl⟩ := Nat.exists_eq_add_of_lt hlt
    have hexponent : (up - (up + e + 1 : Nat) : Int) = -(e + 1 : Nat) := by omega
    have hnum : digits * 10 ^ up * unitsPerOne = digits * unitsPerOne * 10 ^ up := by ring
    have hden : 10 ^ (up + e + 1) = 10 ^ (e + 1) * 10 ^ up := by ring
    rw [hexponent, if_neg (by omega), Int.neg_neg, Int.toNat_natCast, Nat.pow_eq, hnum, hden,
      ofUnits_mul_right (Nat.pow_pos (by decide))]
  · obtain ⟨e, rfl⟩ := Nat.exists_eq_add_of_le hle
    have hexponent : ((down + e : Nat) - down : Int) = e := by omega
    have hnum : digits * 10 ^ (down + e) * unitsPerOne =
        digits * 10 ^ e * unitsPerOne * 10 ^ down := by ring
    have hround : ofUnits negative (digits * 10 ^ e * unitsPerOne * 10 ^ down) (1 * 10 ^ down) =
        ofUnits negative (digits * 10 ^ e * unitsPerOne) 1 :=
      ofUnits_mul_right (Nat.pow_pos (by decide))
    rw [Nat.one_mul] at hround
    rw [hexponent, if_pos (by omega), Int.toNat_natCast, Nat.pow_eq, hnum, hround]

lemma ofDecimal_zero (exponent : Int) :
    ofDecimal negative 0 exponent = some (zero negative) := by
  simp [ofDecimal]

/-- The exponent stands behind a variable, so that no power of it is evaluated. -/
lemma unitsPerOne_eq {n : Nat} (hn : n = 1074) : unitsPerOne = 2 ^ n := by
  delta unitsPerOne
  rw [← hn, Nat.pow_eq]

lemma log2_mul_two_pow_lt {n bits : Nat} (hbits : 0 < bits) (h : n < 2 ^ bits) (k : Nat) :
    (n * 2 ^ k).log2 < bits + k := by
  rcases Nat.eq_zero_or_pos n with rfl | hpos
  · rw [Nat.zero_mul, Nat.log2_zero]
    omega
  · have hne : n * 2 ^ k ≠ 0 := Nat.mul_ne_zero (Nat.ne_of_gt hpos) (Nat.two_pow_pos k).ne'
    rw [Nat.log2_lt hne, Nat.pow_add]
    exact Nat.mul_lt_mul_of_pos_right h (Nat.two_pow_pos k)

lemma isSome_ofNat (negative : Bool) {n : Nat} (h : n < 2 ^ 64) : (ofNat negative n).isSome := by
  obtain ⟨k, hk⟩ : ∃ k, k = 1074 := ⟨_, rfl⟩
  refine isSome_ofUnits ?_
  rw [Nat.div_one, unitsPerOne_eq hk]
  exact (log2_mul_two_pow_lt (by decide) h k).trans_le (by omega)

/-- A whole number of 64 bits is rounded as the decimal without an exponent. -/
lemma ofDecimal_eq_ofNat {n : Nat} (h : n < 2 ^ 64) :
    ofDecimal negative n 0 = ofNat negative n := by
  rcases Nat.eq_zero_or_pos n with rfl | hpos
  · rw [ofDecimal_zero, ofNat, Nat.zero_mul]
    exact (ofUnits_units (zero negative)).symm
  · have hlength : (Nat.toDigits 10 n).length ≤ 20 :=
      (Nat.length_toDigits_le_iff (by decide) (by decide)).2 (by omega)
    have hreach : InReach n ((0 : Nat) - (0 : Nat)) := ⟨Nat.ne_of_gt hpos, by omega, by omega⟩
    have h : ofDecimal negative n ((0 : Nat) - (0 : Nat)) = _ := ofDecimal_of_inReach hreach
    rwa [Nat.pow_zero, Nat.mul_one] at h

/-- Zeros at the end of the digits count as powers of ten. -/
theorem ofDecimal_mul_pow (digits k : Nat) (exponent : Int) :
    ofDecimal negative (digits * 10 ^ k) exponent =
      ofDecimal negative digits (exponent + k) := by
  rcases Nat.eq_zero_or_pos digits with rfl | hpos
  · rw [Nat.zero_mul, ofDecimal_zero, ofDecimal_zero]
  · have hdigits : digits ≠ 0 := Nat.ne_of_gt hpos
    have hlength := length_toDigits_mul_pow hdigits k
    have hpowered : digits * 10 ^ k ≠ 0 := Nat.mul_ne_zero hdigits (by simp)
    by_cases reach : InReach digits (exponent + k)
    · have reach' : InReach (digits * 10 ^ k) exponent := by
        obtain ⟨-, hlow, hhigh⟩ := reach
        exact ⟨hpowered, by omega, by omega⟩
      obtain ⟨up, down, rfl⟩ : ∃ up down : Nat, exponent = up - down :=
        ⟨exponent.toNat, (-exponent).toNat, by omega⟩
      have hexponent : (up - down + k : Int) = (up + k : Nat) - down := by omega
      rw [hexponent] at reach ⊢
      rw [ofDecimal_of_inReach reach, ofDecimal_of_inReach reach', Nat.pow_add]
      ring_nf
    · -- out of reach both sides are known from the number of the digits
      simp only [ofDecimal, if_neg hdigits, if_neg hpowered, hlength]
      simp only [InReach, hdigits, ne_eq, not_false_eq_true, true_and, not_and_or,
        not_le] at reach
      rcases reach with reach | reach
      · rw [if_neg (by omega), if_pos (by omega), if_neg (by omega), if_pos (by omega)]
      · rw [if_pos (by omega), if_pos (by omega)]

lemma ofDecimal_stripZeros (fuel : Nat) (d : Decimal) :
    ofDecimal negative (d.stripZeros fuel).digits (d.stripZeros fuel).exponent =
      ofDecimal negative d.digits d.exponent := by
  induction fuel generalizing d with
  | zero => rfl
  | succ fuel ih =>
    rw [Decimal.stripZeros]
    split
    · next h =>
      have hdigits : d.digits / 10 * 10 ^ 1 = d.digits := by omega
      rw [ih, ← hdigits, ofDecimal_mul_pow]
      simp
    · rfl

/-! ### The shortest decimal -/

lemma units_lt (x : Binary64) {n : Nat} (hn : 2098 ≤ n) : x.units < 2 ^ n := by
  have hexponent : 53 + x.exponent ≤ n := (Nat.add_le_add_left x.exponent_le 53).trans hn
  calc x.units < 2 ^ 53 * 2 ^ x.exponent :=
        Nat.mul_lt_mul_of_pos_right x.significand_lt (Nat.two_pow_pos _)
    _ = 2 ^ (53 + x.exponent) := (Nat.pow_add 2 53 x.exponent).symm
    _ ≤ 2 ^ n := Nat.pow_le_pow_right (by decide) hexponent

lemma ten_pow (n : Nat) : 10 ^ n = 2 ^ n * 5 ^ n := Nat.mul_pow 2 5 n

lemma ten_pow_le_five_pow {a b n : Nat} (h : a ≤ 2 * b) (hn : n = b + a) : 10 ^ a ≤ 5 ^ n :=
  calc 10 ^ a = 2 ^ a * 5 ^ a := ten_pow a
    _ ≤ 2 ^ (2 * b) * 5 ^ a := by gcongr; decide
    _ = 4 ^ b * 5 ^ a := by rw [Nat.pow_mul]
    _ ≤ 5 ^ b * 5 ^ a := by gcongr; decide
    _ = 5 ^ n := by rw [hn, Nat.pow_add]

lemma two_pow_le_ten_pow {R : Type*} [CommSemiring R] [PartialOrder R] [IsStrictOrderedRing R]
    {n k : Nat} (h : n ≤ 3 * k) : (2 : R) ^ n ≤ 10 ^ k :=
  calc (2 : R) ^ n ≤ 2 ^ (3 * k) := pow_le_pow_right₀ one_le_two h
    _ = 8 ^ k := by rw [pow_mul]; norm_num
    _ ≤ 10 ^ k := pow_le_pow_left₀ (by norm_num) (by norm_num) k

lemma units_mul_five_pow_lt {a b n : Nat} (ha : 2098 ≤ a + n) (hb : a ≤ 3 * b) :
    x.units * 5 ^ n < 10 ^ (b + n) :=
  calc x.units * 5 ^ n < 2 ^ (a + n) * 5 ^ n :=
        Nat.mul_lt_mul_of_pos_right (x.units_lt ha) (Nat.pow_pos (by decide))
    _ = 2 ^ a * 10 ^ n := by rw [ten_pow, Nat.pow_add, Nat.mul_assoc]
    _ ≤ 10 ^ b * 10 ^ n := Nat.mul_le_mul_right _ (two_pow_le_ten_pow hb)
    _ = 10 ^ (b + n) := (Nat.pow_add 10 b n).symm

/-- The digits of the exact expansion are between some 673 and 1474 in number. -/
lemma inReach_units {n : Nat} (hn : n = 1074) (h : x.significand ≠ 0) :
    InReach (x.units * 5 ^ n) (-n) := by
  have hunits : 0 < x.units := Nat.mul_pos (Nat.pos_of_ne_zero h) (Nat.two_pow_pos _)
  have hlower : 10 ^ 673 ≤ x.units * 5 ^ n :=
    calc 10 ^ 673 ≤ 5 ^ n := ten_pow_le_five_pow (b := 401) (by decide) hn
      _ ≤ x.units * 5 ^ n := Nat.le_mul_of_pos_left _ hunits
  have hupper : x.units * 5 ^ n < 10 ^ (400 + n) :=
    units_mul_five_pow_lt (a := 1024) (by omega) (by decide)
  have hlong := mt (Nat.length_toDigits_le_iff (by decide) (by decide)).1 (Nat.not_lt.2 hlower)
  have hshort := (Nat.length_toDigits_le_iff (by decide) (by omega)).2 hupper
  have hpos : 0 < x.units * 5 ^ n := Nat.mul_pos hunits (Nat.pow_pos (by decide))
  exact ⟨Nat.ne_of_gt hpos, by omega, by omega⟩

/-- A whole number of units is rounded to itself when it is written with a power of five. -/
lemma ofDecimal_units {n : Nat} (hn : unitsPerOne = 2 ^ n)
    (h : InReach (x.units * 5 ^ n) (-n)) :
    ofDecimal x.negative (x.units * 5 ^ n) (-n) = some x := by
  have hexponent : (-n : Int) = (0 : Nat) - n := by omega
  have hnum : x.units * 5 ^ n * 10 ^ 0 * unitsPerOne = x.units * 10 ^ n := by
    rw [Nat.pow_zero, Nat.mul_one, hn, Nat.mul_assoc, Nat.mul_comm (5 ^ n), ← ten_pow]
  have hround : ofUnits x.negative (x.units * 10 ^ n) (1 * 10 ^ n) =
      ofUnits x.negative x.units 1 := ofUnits_mul_right (Nat.pow_pos (by decide))
  rw [hexponent] at h ⊢
  rw [ofDecimal_of_inReach h, hnum, ← ofUnits_units x, ← hround, Nat.one_mul]

lemma exact_eq (x : Binary64) {n : Nat} (hn : n = 1074) : x.exact = ⟨x.units * 5 ^ n, -n⟩ := by
  have hexponent : (-n : Int) = -1074 := by omega
  rw [exact, ← hn, Nat.pow_eq, hexponent]

/-- The exact expansion of a double reads back. -/
lemma readsBack_exact (h : x.significand ≠ 0) : x.readsBack x.exact = true := by
  obtain ⟨n, hn⟩ : ∃ n, n = 1074 := ⟨_, rfl⟩
  rw [readsBack, x.exact_eq hn]
  exact decide_eq_true (ofDecimal_units (unitsPerOne_eq hn) (inReach_units hn h))

lemma readsBack_search (h : x.significand ≠ 0) (point : Int) (digits count : Nat) :
    x.readsBack (x.search point digits count) = true := by
  induction count generalizing digits with
  | zero => exact readsBack_exact h
  | succ count ih =>
    rw [search]
    split
    · next d hfound => exact List.find?_some hfound
    · exact ih (digits + 1)

/-- The shortest decimal of a double reads back. -/
theorem ofDecimal_shortest (x : Binary64) :
    ofDecimal x.negative x.shortest.digits x.shortest.exponent = some x := by
  rw [shortest]
  split
  · next hzero =>
    obtain ⟨negative, significand, exponent, _, normal, _⟩ := x
    obtain rfl : significand = 0 := hzero
    obtain rfl : exponent = 0 := normal.resolve_right (by decide)
    rfl
  · next hne =>
    rw [ofDecimal_stripZeros]
    exact of_decide_eq_true (readsBack_search hne _ _ _)

end Binary64

end OpenApiDoc
