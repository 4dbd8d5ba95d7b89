import OpenApiDoc.Decimal.Binary64

/-!
# Numbers in text

Two readers of number texts.

`readInt64` accepts an optional sign and ASCII digits within the signed 64-bit range.
`readFloat` accepts an optional sign and either a decimal with optional fraction and exponent, in
which digits stand on at least one side of the point, or the name of an infinity or of no number
in any case. A decimal beyond the range of doubles is read as infinite.
-/

namespace OpenApiDoc.Decimal

/-- A number as the text of a floating point number spells it. -/
inductive FloatText where
  | finite (x : Binary64)
  | infinite (negative : Bool)
  | notANumber
deriving DecidableEq

/-- The value of an ASCII digit. -/
def digitValue (c : Char) : Nat := c.toNat - '0'.toNat

/-- The number that a list of ASCII digits denotes. -/
def natOfDigits (digits : List Char) : Nat :=
  digits.foldl (fun n c => 10 * n + digitValue c) 0

/-- A non-empty list of ASCII digits as a number. -/
def readNat (text : List Char) : Option Nat :=
  if text.isEmpty || !text.all Char.isDigit then none else some (natOfDigits text)

/-- Split an optional sign off; the flag tells a minus. -/
def splitSign : List Char → Bool × List Char
  | '-' :: rest => (true, rest)
  | '+' :: rest => (false, rest)
  | text => (false, text)

/-- A whole number with an optional sign. -/
def readInt (text : List Char) : Option Int :=
  let (negative, rest) := splitSign text
  (readNat rest).map fun n => if negative then -(n : Int) else n

/-- A whole number within the signed 64-bit range. -/
def readInt64 (text : List Char) : Option Int :=
  (readInt text).filter fun n => decide (-9223372036854775808 ≤ n ∧ n ≤ 9223372036854775807)

/-- The exponent part: nothing, or the letter `e` and a whole number. -/
def readExponent : List Char → Option Int
  | [] => some 0
  | c :: rest => if c = 'e' ∨ c = 'E' then readInt rest else none

/-- An unsigned decimal as its digits and the power of ten of the last one. -/
def readDecimal (text : List Char) : Option (Nat × Int) :=
  let whole := text.takeWhile Char.isDigit
  let rest := text.dropWhile Char.isDigit
  let (fraction, tail) :=
    match rest with
    | '.' :: after => (after.takeWhile Char.isDigit, after.dropWhile Char.isDigit)
    | _ => ([], rest)
  if whole.isEmpty && fraction.isEmpty then none
  else (readExponent tail).map fun e => (natOfDigits (whole ++ fraction), e - fraction.length)

/-- A floating point number in text. -/
def readFloat (text : List Char) : Option FloatText :=
  let (negative, rest) := splitSign text
  let lower := rest.map Char.toLower
  if lower = ['i', 'n', 'f'] ∨ lower = ['i', 'n', 'f', 'i', 'n', 'i', 't', 'y'] then
    some (.infinite negative)
  else if lower = ['n', 'a', 'n'] then some .notANumber
  else (readDecimal rest).map fun (digits, exponent) =>
    match Binary64.ofDecimal negative digits exponent with
    | some x => .finite x
    | none => .infinite negative

end OpenApiDoc.Decimal
