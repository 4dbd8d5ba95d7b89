import OpenApiDoc.Json.Numeral

/-!
# Tokens of JSON text

The text is read one character at a time. Between characters the reader is in one of a few
states: between tokens, within a bare word (a literal or a number), or within a string.
-/

namespace OpenApiDoc.Json

/-- A token of JSON text. -/
inductive Token where
  | openArr | closeArr | openObj | closeObj | comma | colon
  | scalar (value : Json)

namespace Token

/-- What has been read of the token under way; characters are held in reverse. A string remembers
the first half of a surrogate pair until the second one is read. -/
inductive State where
  | between
  | bare (seen : List Char)
  | string (seen : List Char) (half : Option Nat)
  | escape (seen : List Char) (half : Option Nat)
  | unicode (left : Nat) (unit : Nat) (seen : List Char) (half : Option Nat)

/-- The value of a hexadecimal digit. -/
def hexValue? (c : Char) : Option Nat :=
  if c.isDigit then some (c.toNat - '0'.toNat)
  else if 'a' ≤ c ∧ c ≤ 'f' then some (c.toNat - 'a'.toNat + 10)
  else if 'A' ≤ c ∧ c ≤ 'F' then some (c.toNat - 'A'.toNat + 10)
  else none

/-- The token of a bare word. -/
def ofBare (word : List Char) : Option Token :=
  match String.ofList word with
  | "null" => some (.scalar .null)
  | "true" => some (.scalar (.bool true))
  | "false" => some (.scalar (.bool false))
  | _ => ((Numeral.ofChars word).bind Numeral.value).map fun n => .scalar (.num n)

/-- The character of a one-letter escape. -/
def escaped? : Char → Option Char
  | '"' => some '"'
  | '\\' => some '\\'
  | '/' => some '/'
  | 'b' => some (Char.ofNat 8)
  | 'f' => some (Char.ofNat 12)
  | 'n' => some '\n'
  | 'r' => some '\r'
  | 't' => some '\t'
  | _ => none

/-- The state after a UTF-16 unit within a string: a first half waits for the second one. -/
def afterUnit (unit : Nat) (seen : List Char) : Option Nat → Option State
  | none =>
    if 0xD800 ≤ unit ∧ unit < 0xDC00 then some (.string seen (some unit))
    else if 0xDC00 ≤ unit ∧ unit < 0xE000 then none
    else some (.string (Char.ofNat unit :: seen) none)
  | some half =>
    if 0xDC00 ≤ unit ∧ unit < 0xE000 then
      let code := 0x10000 + (half - 0xD800) * 0x400 + (unit - 0xDC00)
      some (.string (Char.ofNat code :: seen) none)
    else none

/-- The tokens and the state after a character that no token has begun with. -/
def start (c : Char) : Option (List Token × State) :=
  match c with
  | ' ' => some ([], .between)
  | '\n' => some ([], .between)
  | '\r' => some ([], .between)
  | '\t' => some ([], .between)
  | '[' => some ([.openArr], .between)
  | ']' => some ([.closeArr], .between)
  | '\x7b' => some ([.openObj], .between)
  | '\x7d' => some ([.closeObj], .between)
  | ',' => some ([.comma], .between)
  | ':' => some ([.colon], .between)
  | '"' => some ([], .string [] none)
  | c => some ([], .bare [c])

/-- Whether a character continues a bare word. -/
def isBare (c : Char) : Bool :=
  c.isAlphanum || c = '-' || c = '+' || c = '.'

/-- The tokens completed by one character, and the state after it. -/
def step (state : State) (c : Char) : Option (List Token × State) :=
  match state with
  | .between => start c
  | .bare seen =>
    if isBare c then some ([], .bare (c :: seen))
    else
      match ofBare seen.reverse, start c with
      | some token, some (tokens, next) => some (token :: tokens, next)
      | _, _ => none
  | .string seen half =>
    if c = '\\' then some ([], .escape seen half)
    else if half.isSome then none
    else if c = '"' then some ([.scalar (.str (String.ofList seen.reverse))], .between)
    else if c.toNat < 0x20 then none
    else some ([], .string (c :: seen) none)
  | .escape seen half =>
    if c = 'u' then some ([], .unicode 4 0 seen half)
    else if half.isSome then none
    else (escaped? c).map fun e => ([], .string (e :: seen) none)
  | .unicode left unit seen half =>
    (hexValue? c).bind fun d =>
      let unit := 16 * unit + d
      if left = 1 then (afterUnit unit seen half).map fun next => ([], next)
      else some ([], .unicode (left - 1) unit seen half)

/-- The tokens of a text, from a state on. -/
def scanFrom (state : State) : List Char → Option (List Token)
  | [] =>
    match state with
    | .between => some []
    | .bare seen => (ofBare seen.reverse).map fun token => [token]
    | _ => none
  | c :: rest =>
    (step state c).bind fun (tokens, next) =>
      (scanFrom next rest).map fun more => tokens ++ more

/-- The tokens of a text. -/
def scan (text : List Char) : Option (List Token) := scanFrom .between text

end Token

end OpenApiDoc.Json
