/-!
# Finite doubles

A finite double is a sign and a whole number of *units*, a unit being 2 to the power of -1074:
the significand has at most 53 bits and is shifted by the exponent. Arithmetic is exact on units
and then rounded to the nearest double, a tie going to the even significand; a result beyond the
largest double is `none`.
-/

namespace OpenApiDoc

/-- Round a quotient to the nearest natural number, a tie to the even one. -/
def roundHalfEven (num den : Nat) : Nat :=
  let q := num / den
  let r := num % den
  if 2 * r < den then q
  else if den < 2 * r then q + 1
  else if q % 2 = 0 then q else q + 1

/-- A finite double. -/
structure Binary64 where
  negative : Bool
  significand : Nat
  /-- The power of two, in units, that the significand is multiplied with. -/
  exponent : Nat
  significand_lt : significand < Nat.pow 2 53
  /-- A significand that does not fill its bits has the least exponent. -/
  normal : exponent = 0 ∨ Nat.pow 2 52 ≤ significand
  exponent_le : exponent ≤ 2045
deriving DecidableEq

namespace Binary64

/-- How many units of 2 to the power of -1074 one is. -/
def unitsPerOne : Nat := Nat.pow 2 1074

/-- The magnitude in units. -/
def units (x : Binary64) : Nat := x.significand * Nat.pow 2 x.exponent

/-- Zero with a sign. -/
def zero (negative : Bool) : Binary64 :=
  ⟨negative, 0, 0, by decide, .inl rfl, by decide⟩

/-- The double of these parts, where they satisfy the bounds. -/
def ofParts? (negative : Bool) (significand exponent : Nat) : Option Binary64 :=
  if h : significand < Nat.pow 2 53 ∧ (exponent = 0 ∨ Nat.pow 2 52 ≤ significand)
      ∧ exponent ≤ 2045 then
    some ⟨negative, significand, exponent, h.1, h.2.1, h.2.2⟩
  else none

/-- The exponent under which a whole number of units has 53 bits, or the least one. -/
def exponentOf (units : Nat) : Nat :=
  if units < Nat.pow 2 53 then 0 else units.log2 - 52

/-- The double nearest to `num / den` units. -/
def ofUnits (negative : Bool) (num den : Nat) : Option Binary64 :=
  let exponent := exponentOf (num / den)
  let significand := roundHalfEven num (den * Nat.pow 2 exponent)
  if significand = Nat.pow 2 53 then ofParts? negative (Nat.pow 2 52) (exponent + 1)
  else ofParts? negative significand exponent

/-- The double nearest to a whole number. -/
def ofNat (negative : Bool) (n : Nat) : Option Binary64 :=
  ofUnits negative (n * unitsPerOne) 1

/-- The product, rounded. -/
def mul (x y : Binary64) : Option Binary64 :=
  ofUnits (x.negative != y.negative) (x.units * y.units) unitsPerOne

/-- The quotient, rounded; `none` for a divisor of zero. -/
def div (x y : Binary64) : Option Binary64 :=
  if y.units = 0 then none
  else ofUnits (x.negative != y.negative) (x.units * unitsPerOne) y.units

/-- The same magnitude with this sign. -/
def withSign (x : Binary64) (negative : Bool) : Binary64 := { x with negative }

/-- The double nearest to `digits * 10 ^ exponent`.

Far beyond the range of doubles the answer is known from the number of digits alone, so that no
huge power is formed. -/
def ofDecimal (negative : Bool) (digits : Nat) (exponent : Int) : Option Binary64 :=
  let length : Int := (Nat.toDigits 10 digits).length
  if digits = 0 then some (zero negative)
  else if 400 < exponent + length then none
  else if exponent + length < -400 then some (zero negative)
  else if 0 ≤ exponent then ofUnits negative (digits * Nat.pow 10 exponent.toNat * unitsPerOne) 1
  else ofUnits negative (digits * unitsPerOne) (Nat.pow 10 (-exponent).toNat)

end Binary64

end OpenApiDoc
