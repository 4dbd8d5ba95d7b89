import OpenApiDoc.Decimal.Reading
import OpenApiDoc.Json
import OpenApiDoc.Yaml.Node

/-!
# What a scalar means

A scalar without quotation marks and without a tag may be null, a Boolean, a whole number in one
of four bases or a floating point number; any other scalar is a text. A tag of the core schema
demands one of these readings.
-/

namespace OpenApiDoc.Yaml.Scalar

/-- Whether a word means null. -/
def isNull (text : String) : Bool := ["null", "Null", "NULL", "~"].contains text

/-- The Boolean that a word means. -/
def bool? (text : String) : Option Bool :=
  if ["true", "True", "TRUE"].contains text then some true
  else if ["false", "False", "FALSE"].contains text then some false
  else none

/-- The number that digits of a base up to 16 denote. -/
def natOfDigits? (base : Nat) (digits : List Char) : Option Nat :=
  if digits.isEmpty then none
  else digits.foldlM (fun n c => (hexValue? c).bind fun d =>
    if d < base then some (base * n + d) else none) 0

/-- Whether decimal digits, after an optional sign, begin with a zero that is not
the only one. -/
def hasLeadingZero (text : List Char) : Bool :=
  match (Decimal.splitSign text).2 with
  | '0' :: more => !more.isEmpty && more.all Char.isDigit
  | _ => false

/-- The magnitude of a whole number: decimal, or in the base that its first two
characters name. -/
def magnitude? : List Char → Option Nat
  | '0' :: 'x' :: digits => natOfDigits? 16 digits
  | '0' :: 'o' :: digits => natOfDigits? 8 digits
  | '0' :: 'b' :: digits => natOfDigits? 2 digits
  | digits => natOfDigits? 10 digits

/-- A whole number with an optional sign that 128 bits hold, signed or unsigned. -/
def int? (text : List Char) : Option Int :=
  if hasLeadingZero text then none
  else
    let (negative, rest) := Decimal.splitSign text
    ((magnitude? rest).map fun n => if negative then -(n : Int) else n).filter fun n =>
      decide (-(Nat.pow 2 127 : Int) ≤ n ∧ n < (Nat.pow 2 128 : Int))

/-- A floating point number; the infinities and the absence of a number have names of their own.
A decimal beyond the range of doubles is none. -/
def float? (text : String) : Option Decimal.FloatText :=
  if [".inf", ".Inf", ".INF", "+.inf", "+.Inf", "+.INF"].contains text then
    some (.infinite false)
  else if ["-.inf", "-.Inf", "-.INF"].contains text then some (.infinite true)
  else if [".nan", ".NaN", ".NAN"].contains text then some .notANumber
  else
    match Decimal.readFloat text.toList with
    | some (.finite x) => some (.finite x)
    | _ => none

/-- JSON has whole numbers of 64 bits only. -/
def jsonOfInt? (n : Int) : Option Json := (Integer.ofInt? n).map fun i => .num (.integer i)

/-- JSON has finite numbers only. -/
def jsonOfFloat : Decimal.FloatText → Json
  | .finite x => .num (.float x)
  | _ => .null

/-- The value of a scalar without quotation marks and without a tag. -/
def plainJson? (text : String) : Option Json :=
  if text.isEmpty || isNull text then some .null
  else
    match bool? text, int? text.toList with
    | some b, _ => some (.bool b)
    | none, some n => jsonOfInt? n
    | none, none =>
      if hasLeadingZero text.toList then some (.str text)
      else some ((float? text).elim (.str text) jsonOfFloat)

/-- The value of a scalar with a tag. A tag with an exclamation mark whose octets are no text is
as good as none where no quotation marks are written. -/
def taggedJson? (tag : Tag) (style : Style) (text : String) : Option Json :=
  if tag.isLocal then none
  else if tag = .core "bool" then (bool? text).map .bool
  else if tag = .core "int" then (int? text.toList).bind jsonOfInt?
  else if tag = .core "float" then (float? text).map jsonOfFloat
  else if tag = .core "null" then (if isNull text then some .null else none)
  else if tag.isMarked && style == .plain then plainJson? text
  else some (.str text)

/-- The value of a scalar. -/
def json? (own : Properties) (style : Style) (text : String) : Option Json :=
  match own.tag with
  | some tag => taggedJson? tag style text
  | none => if style = .plain then plainJson? text else some (.str text)

end OpenApiDoc.Yaml.Scalar
