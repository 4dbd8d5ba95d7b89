import OpenApiDoc.Text.Percent

/-!
# Digits of a base

Numbers written in a base up to sixteen.
-/

namespace OpenApiDoc.Text

/-- Digits of a base as a number; the empty text is zero. -/
def readRadix (base : Nat) (digits : List Char) : Option Nat :=
  digits.foldlM (fun n c =>
    match Percent.hexValue? c.toNat with
    | some d => if d < base then some (base * n + d) else none
    | none => none) 0

end OpenApiDoc.Text
