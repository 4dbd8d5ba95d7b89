import OpenApiDoc.Text.Segments

/-!
# Punycode

A label beyond ASCII can be written in letters, digits and hyphens: its characters of ASCII, a
hyphen, and numbers that say which character is inserted next and where. A number is written with
its lowest digit first; how far its digits reach depends on the numbers before.

No text of Punycode stands for two labels, nor a label for two texts.
-/

namespace OpenApiDoc.Punycode

/-- The bound of all numbers. -/
def bound : Nat := 0x100000000

/-- The value of a digit: the small letters, then the digits. -/
def digit? (c : Char) : Option Nat :=
  if 'a' ≤ c ∧ c ≤ 'z' then some (c.toNat - 0x61)
  else if c.isDigit then some (c.toNat - 0x30 + 26)
  else none

/-- The least digit that does not end a number, at a position. -/
def threshold (bias position : Nat) : Nat :=
  if position ≤ bias then 1 else if bias + 26 ≤ position then 26 else position - bias

/-- Divide a number by 35 until it is at most 455; 36 is counted each time. -/
def shrink (n counted : Nat) : Nat × Nat :=
  if 455 < n then shrink (n / 35) (counted + 36) else (n, counted)
termination_by n
decreasing_by exact Nat.div_lt_self (by omega) (by omega)

/-- The bias after a number, when a label has come to a length. -/
def adapt (number length : Nat) (isFirst : Bool) : Nat :=
  let number := if isFirst then number / 700 else number / 2
  let (n, counted) := shrink (number + number / length) 0
  counted + 36 * n / (n + 38)

/-- Add the number at the front of a text to a value; gives the sum and the rest. -/
def readNumber (bias position weight value : Nat) : List Char → Option (Nat × List Char)
  | [] => none
  | c :: rest =>
    match digit? c with
    | none => none
    | some digit =>
      let value := value + digit * weight
      let t := threshold bias position
      if bound ≤ value then none
      else if digit < t then some (value, rest)
      else if bound ≤ weight * (36 - t) then none
      else readNumber bias (position + 36) (weight * (36 - t)) value rest

theorem length_of_readNumber {bias position weight value : Nat} {text : List Char}
    {result : Nat × List Char} (h : readNumber bias position weight value text = some result) :
    result.2.length < text.length := by
  fun_induction readNumber bias position weight value text with
  | case1 => simp at h
  | case2 => simp at h
  | case3 => simp at h
  | case4 =>
    obtain rfl := Option.some.inj h
    simp
  | case5 => simp at h
  | case6 _ _ _ _ _ _ _ _ _ _ _ _ ih =>
    have := ih h
    simp only [List.length_cons]
    omega

/-- Insert the characters that the numbers of a text name into a label; the state is the code
point and the place that were reached, and the bias. -/
def insertAll (label : List Char) (reached place bias : Nat) (text : List Char) :
    Option (List Char) :=
  if text.isEmpty then some label
  else
    match h : readNumber bias 36 1 place text with
    | none => none
    | some (sum, rest) =>
      have := length_of_readNumber h
      let length := label.length + 1
      let next := reached + sum / length
      if next.isValidChar then
        insertAll (label.insertIdx (sum % length) (Char.ofNat next)) next (sum % length + 1)
          (adapt (sum - place) length (place == 0)) rest
      else none
termination_by text.length

/-- The label that a text of Punycode in small letters stands for. -/
def decode? (text : List Char) : Option (List Char) :=
  match Text.cutAtLast '-' text with
  | none => insertAll [] 0x80 0 72 text
  | some (plain, numbers) => if plain.isEmpty then none else insertAll plain 0x80 0 72 numbers

end OpenApiDoc.Punycode
