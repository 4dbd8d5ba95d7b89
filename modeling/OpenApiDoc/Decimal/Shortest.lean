import OpenApiDoc.Decimal.Binary64

/-!
# The shortest decimal that reads back

`Binary64.shortest` finds the fewest significant digits that read back as a given double, and
among those the digits nearest to it, a tie going to the even digit. Reading back is tested with
the reader of decimals itself, and should no number of up to seventeen digits pass, the exact
decimal expansion of the double is taken: the answer reads back in either case.
-/

namespace OpenApiDoc

/-- The magnitude `digits * 10 ^ exponent`. -/
structure Decimal where
  digits : Nat
  exponent : Int
deriving DecidableEq, Repr

namespace Decimal

/-- Drop trailing zeros of the digits, at most `fuel` of them. -/
def stripZeros : Nat → Decimal → Decimal
  | 0, d => d
  | fuel + 1, d =>
    if d.digits ≠ 0 ∧ d.digits % 10 = 0 then stripZeros fuel ⟨d.digits / 10, d.exponent + 1⟩
    else d

end Decimal

namespace Binary64

/-- The value as a quotient after a shift by a power of ten: `value * 10 ^ shift`. -/
def scaledBy (x : Binary64) (shift : Int) : Nat × Nat :=
  if 0 ≤ shift then (x.units * Nat.pow 10 shift.toNat, unitsPerOne)
  else (x.units, unitsPerOne * Nat.pow 10 (-shift).toNat)

/-- The number of digits before the decimal point of a positive double: the value is below ten to
this power and not below the next smaller one. -/
def decimalPoint (x : Binary64) : Int :=
  let (num, den) := x.scaledBy 330
  ((Nat.toDigits 10 (num / den)).length : Int) - 330

/-- Whether a decimal is read as the magnitude of this double. -/
def readsBack (x : Binary64) (d : Decimal) : Bool :=
  ofDecimal x.negative d.digits d.exponent = some x

/-- The two neighbours of the value on the grid of this power of ten, the nearer one first. -/
def neighbours (x : Binary64) (exponent : Int) : List Decimal :=
  let (num, den) := x.scaledBy (-exponent)
  let below := num / den
  let nearer := roundHalfEven num den
  [⟨nearer, exponent⟩, ⟨if nearer = below then below + 1 else below, exponent⟩]

/-- The exact decimal expansion. -/
def exact (x : Binary64) : Decimal :=
  ⟨x.units * Nat.pow 5 1074, -1074⟩

/-- The first decimal that reads back among those of `digits`, `digits + 1`, … significant
digits, trying `count` lengths. -/
def search (x : Binary64) (point : Int) (digits : Nat) : Nat → Decimal
  | 0 => x.exact
  | count + 1 =>
    match (x.neighbours (point - digits)).find? x.readsBack with
    | some d => d
    | none => search x point (digits + 1) count

/-- The fewest digits that read back, without trailing zeros. -/
def shortest (x : Binary64) : Decimal :=
  if x.significand = 0 then ⟨0, 0⟩
  else (x.search x.decimalPoint 1 17).stripZeros 1100

end Binary64

end OpenApiDoc
