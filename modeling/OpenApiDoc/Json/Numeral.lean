import OpenApiDoc.Json
import OpenApiDoc.Decimal.Reading

/-!
# Number literals of JSON

A literal without fraction and exponent that 64 bits hold is an integer, save for minus zero.
Every other literal is a double, found in two steps. The digits are collected into a significand
of 64 bits; digits that no longer fit are dropped, and those before the point are counted. Then
the significand, rounded to a double, is multiplied or divided by the power of ten, again
rounded. The result can differ from the nearest double in the last digits.
-/

namespace OpenApiDoc

/-- The parts of a number literal. -/
structure Numeral where
  negative : Bool
  whole : List Char
  fraction : List Char
  /-- The sign and the digits of the exponent. -/
  exponent : Option (Bool × List Char)
  /-- Whether the literal has a point. -/
  pointed : Bool

namespace Numeral

/-- Split a literal into its parts. -/
def ofChars (text : List Char) : Option Numeral :=
  let (negative, rest) :=
    match text with
    | '-' :: rest => (true, rest)
    | rest => (false, rest)
  let whole := rest.takeWhile Char.isDigit
  let rest := rest.dropWhile Char.isDigit
  let (pointed, fraction, rest) :=
    match rest with
    | '.' :: rest => (true, rest.takeWhile Char.isDigit, rest.dropWhile Char.isDigit)
    | rest => (false, [], rest)
  let exponent :=
    match rest with
    | [] => some none
    | c :: rest =>
      if c = 'e' ∨ c = 'E' then
        let (minus, digits) := Decimal.splitSign rest
        if digits.isEmpty || !digits.all Char.isDigit then none else some (some (minus, digits))
      else none
  match exponent with
  | none => none
  | some exponent =>
    if whole.isEmpty || (whole.head? == some '0' && whole.length > 1)
        || (pointed && fraction.isEmpty) then none
    else some ⟨negative, whole, fraction, exponent, pointed⟩

/-- Collect digits into a significand below 2 to the power of 64; the digits from the first one
that no longer fits are returned. -/
def collect (significand : Nat) : List Char → Nat × List Char
  | [] => (significand, [])
  | c :: rest =>
    let next := 10 * significand + Decimal.digitValue c
    if next < Nat.pow 2 64 then collect next rest else (significand, c :: rest)

/-- A power of ten up to 308 as a double. -/
def powerOfTen (n : Nat) : Binary64 :=
  (Binary64.ofDecimal false 1 n).getD (.zero false)

/-- Multiply or divide by a power of ten, in steps of at most 308; `none` beyond the doubles. -/
def scale (x : Binary64) (exponent : Int) : Option Binary64 :=
  if exponent < -308 then
    if x.significand = 0 then some x
    else (x.div (powerOfTen 308)).bind fun y => scale y (exponent + 308)
  else if exponent < 0 then x.div (powerOfTen exponent.natAbs)
  else if exponent ≤ 308 then x.mul (powerOfTen exponent.natAbs)
  else if x.significand = 0 then some x
  else none
termination_by (-exponent).toNat

/-- The double that a significand and a power of ten are read as. -/
def float (negative : Bool) (significand : Nat) (exponent : Int) : Option Number :=
  (Binary64.ofNat false significand).bind fun x =>
    (scale x exponent).map fun y => .float (y.withSign negative)

/-- The largest exponent that is added to the place of the digits. -/
def exponentLimit : Nat := 2147483647

/-- The number a literal denotes; `none` for one beyond the doubles. -/
def value (n : Numeral) : Option Number :=
  let (whole, beyond) := collect 0 n.whole
  let (significand, dropped) := collect whole n.fraction
  let place : Int := beyond.length - (n.fraction.length - dropped.length : Nat)
  match n.exponent with
  | some (minus, digits) =>
    let e := Decimal.natOfDigits digits
    if exponentLimit < e then
      if significand = 0 ∨ minus then some (.float (.zero n.negative)) else none
    else float n.negative significand (if minus then place - e else place + e)
  | none =>
    if n.pointed || !beyond.isEmpty then float n.negative significand place
    else if n.negative then
      if significand = 0 then some (.float (.zero true))
      else
        match Integer.ofInt? (-(significand : Int)) with
        | some i => some (.integer i)
        | none => float true significand 0
    else (Integer.ofInt? significand).map .integer

end Numeral

end OpenApiDoc
