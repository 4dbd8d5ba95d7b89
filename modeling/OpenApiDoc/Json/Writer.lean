import OpenApiDoc.Json
import OpenApiDoc.Decimal.Shortest

/-!
# Compact JSON text

`Json.text` writes a value without spaces. Strings escape the quotation mark, the backslash and
the characters below U+0020, nothing else. Integers are written in full; doubles with the fewest
digits that read back, positionally from 0.00001 up to but not including 10 to the power of 16
and always with a point, otherwise with one digit before the point and a signed exponent.
-/

namespace OpenApiDoc

/-- How doubles are laid out: from and up to which position of the decimal point they are written
positionally. The position counts the digits before the point. -/
structure FloatLayout where
  leastPoint : Int
  greatestPoint : Int

namespace FloatLayout

/-- The layout of numbers in JSON text. -/
def json : FloatLayout := ⟨-4, 16⟩

/-- The text of a decimal in this layout. -/
def render (layout : FloatLayout) (d : Decimal) : String :=
  let digits := Nat.toDigits 10 d.digits
  let point : Int := digits.length + d.exponent
  if d.digits = 0 then "0.0"
  else if layout.leastPoint ≤ point ∧ point ≤ layout.greatestPoint then
    if digits.length ≤ point then
      String.ofList (digits ++ List.replicate (point.toNat - digits.length) '0' ++ ['.', '0'])
    else if 0 < point then
      String.ofList (digits.take point.toNat ++ '.' :: digits.drop point.toNat)
    else
      String.ofList ('0' :: '.' :: List.replicate (-point).toNat '0' ++ digits)
  else
    let mantissa :=
      match digits with
      | [] => []
      | [digit] => [digit]
      | first :: rest => first :: '.' :: rest
    let exponent := point - 1
    let sign := if exponent < 0 then "-" else "+"
    String.ofList mantissa ++ "e" ++ sign ++ toString exponent.natAbs

end FloatLayout

/-- The text of a double. -/
def Binary64.text (x : Binary64) : String :=
  (if x.negative then "-" else "") ++ FloatLayout.json.render x.shortest

/-- The text of a number. -/
def Number.text : Number → String
  | .integer n => n.text
  | .float x => x.text

namespace Json

/-- The lower case hexadecimal digit of a number below 16. -/
def hexDigit (n : Nat) : Char := Nat.digitChar n

/-- A character within the quotation marks of a JSON string. -/
def escapeChar (c : Char) : List Char :=
  if c = '"' then ['\\', '"']
  else if c = '\\' then ['\\', '\\']
  else if c = '\n' then ['\\', 'n']
  else if c = '\r' then ['\\', 'r']
  else if c = '\t' then ['\\', 't']
  else if c.toNat = 8 then ['\\', 'b']
  else if c.toNat = 12 then ['\\', 'f']
  else if c.toNat < 0x20 then
    ['\\', 'u', '0', '0', hexDigit (c.toNat / 16), hexDigit (c.toNat % 16)]
  else [c]

/-- A string in quotation marks. -/
def quote (s : String) : String :=
  String.ofList ('"' :: s.toList.flatMap escapeChar ++ ['"'])

mutual

/-- The compact text of a value. -/
def text : Json → String
  | .null => "null"
  | .bool true => "true"
  | .bool false => "false"
  | .num n => n.text
  | .str s => quote s
  | .arr [] => "[]"
  | .arr (item :: rest) => "[" ++ item.text ++ textItems rest ++ "]"
  | .obj [] => "\x7b\x7d"
  | .obj ((key, value) :: rest) =>
    "\x7b" ++ quote key ++ ":" ++ value.text ++ textEntries rest ++ "\x7d"

/-- The text of further items, each after a comma. -/
def textItems : List Json → String
  | [] => ""
  | item :: rest => "," ++ item.text ++ textItems rest

/-- The text of further members, each after a comma. -/
def textEntries : List (String × Json) → String
  | [] => ""
  | (key, value) :: rest => "," ++ quote key ++ ":" ++ value.text ++ textEntries rest

end

end Json

end OpenApiDoc
