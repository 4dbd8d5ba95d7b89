import OpenApiDoc.Text.Percent
import OpenApiDoc.Yaml.Cursor
import OpenApiDoc.Yaml.Gap

/-!
# Scalars between quotation marks

Between single quotes a quote is written twice, and nothing else is escaped. Between double
quotes a backslash begins an escape; before the end of a line it joins the two lines.
-/

namespace OpenApiDoc.Yaml

/-- The value of a hexadecimal digit. -/
def hexValue? (c : Char) : Option Nat := Text.Percent.hexValue? c.toNat

namespace QuotedScalar

/-- What is read within the quotation marks. -/
inductive State where
  /-- Words, after a gap that may be empty. -/
  | words (gap : Gap)
  /-- A code point of which some digits are due. -/
  | codePoint (due : Nat) (value : Nat)

/-- The character of a one-letter escape. -/
def escaped? : Char → Option Char
  | '0' => some '\x00'
  | 'a' => some '\x07'
  | 'b' => some '\x08'
  | 't' => some '\t'
  | '\t' => some '\t'
  | 'n' => some '\n'
  | 'v' => some '\x0B'
  | 'f' => some '\x0C'
  | 'r' => some '\r'
  | 'e' => some '\x1B'
  | ' ' => some ' '
  | '"' => some '"'
  | '/' => some '/'
  | '\\' => some '\\'
  | 'N' => some '\x85'
  | '_' => some '\xA0'
  | 'L' => some '\u2028'
  | 'P' => some '\u2029'
  | _ => none

/-- How many digits of a code point follow a letter. -/
def codeLength? : Char → Option Nat
  | 'x' => some 2
  | 'u' => some 4
  | 'U' => some 8
  | _ => none

/-- The character with a code point. -/
def ofCodePoint? (n : Nat) : Option Char :=
  if h : n.isValidChar then some (Char.ofNatAux n h) else none

/-- Read on after `seen`, which is held in reverse, up to the closing quotation mark. -/
def readFrom (double : Bool) (seen : List Char) (state : State) (p : Position) :
    List Char → Option (String × Cursor)
  | [] => none
  | c :: rest =>
    let next := p.after c
    match state with
    | .codePoint due value =>
      (hexValue? c).bind fun digit =>
        let value := 16 * value + digit
        if due = 1 then
          (ofCodePoint? value).bind fun x => readFrom double (x :: seen) (.words {}) next rest
        else readFrom double seen (.codePoint (due - 1) value) next rest
    | .words gap =>
      if isGap c then readFrom double seen (.words (gap.add c)) next rest
      else if Cursor.atDocumentMark ⟨p, c :: rest⟩ then none
      else
        let seen := gap.text.reverse ++ seen
        if double then
          if c = '"' then some (String.ofList seen.reverse, ⟨next, rest⟩)
          else if c = '\\' then
            match rest with
            | [] => none
            | e :: more =>
              if isBreak e then
                readFrom double seen (.words { escaped := true }) (next.after e) more
              else
                match codeLength? e with
                | some due => readFrom double seen (.codePoint due 0) (next.after e) more
                | none =>
                  (escaped? e).bind fun x =>
                    readFrom double (x :: seen) (.words {}) (next.after e) more
          else readFrom double (c :: seen) (.words {}) next rest
        else if c = '\'' then
          match rest with
          | '\'' :: more => readFrom double ('\'' :: seen) (.words {}) (next.after '\'') more
          | _ => some (String.ofList seen.reverse, ⟨next, rest⟩)
        else readFrom double (c :: seen) (.words {}) next rest

/-- The text between the quotation marks after the opening one, and the place after the closing
one. -/
def read? (double : Bool) (cursor : Cursor) : Option (String × Cursor) :=
  readFrom double [] (.words {}) cursor.position cursor.rest

end QuotedScalar

end OpenApiDoc.Yaml
