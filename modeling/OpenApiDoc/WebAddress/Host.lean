import OpenApiDoc.DomainName
import OpenApiDoc.Text.Percent
import OpenApiDoc.Text.Radix

/-!
# Hosts

The host of an address of the web is a number of 4 octets, a number of 8 groups in brackets, or a
domain name, which may be percent encoded. A domain name whose last label is a number has to be
one of 4 octets, as it is written.
-/

namespace OpenApiDoc

/-- A host as a number or as a name. -/
inductive Host where
  | name (labels : DomainName)
  | version4 (address : Nat)
  | version6 (groups : List Nat)
deriving DecidableEq

namespace Host

/-! ### Numbers -/

/-- A part of a numeric host: decimal, octal after `0` or hexadecimal after `0x`. -/
def readPart : List Char → Option Nat
  | [] => none
  | '0' :: c :: digits =>
    if c = 'x' then Text.readRadix 16 digits else Text.readRadix 8 (c :: digits)
  | digits => Text.readRadix 10 digits

/-- Whether the last label of a host makes it a number. -/
def endsInNumber (labels : List (List Char)) : Bool :=
  match labels.getLast? with
  | none => false
  | some label =>
    (!label.isEmpty && label.all Char.isDigit)
      || (label.take 2 == ['0', 'x'] && (Text.readRadix 16 (label.drop 2)).isSome)

/-- The number that the parts of a numeric host spell: the last part fills what is left. -/
def combineParts : List Nat → Nat → Option Nat
  | [], _ => none
  | [last], room => if last < Nat.pow 256 room then some last else none
  | part :: rest, room =>
    if part < 256 then
      (combineParts rest (room - 1)).map fun tail => part * Nat.pow 256 (room - 1) + tail
    else none

/-- A numeric host of four octets. -/
def readVersion4 (labels : List (List Char)) : Option Nat :=
  if labels.length > 4 then none
  else (labels.mapM readPart).bind fun parts => combineParts parts 4

/-- The groups between colons; the last one may be a host of four octets. -/
def readGroups : List (List Char) → Option (List Nat)
  | [] => some []
  | group :: rest =>
    if rest.isEmpty && group.contains '.' then
      let labels := Text.segments (· == '.') group
      if labels.length = 4
          && labels.all fun l => l.all Char.isDigit &&
            !(l.head? == some '0' && l.length > 1) then
        (readVersion4 labels).map fun n => [n / 65536, n % 65536]
      else none
    else if group.isEmpty || group.length > 4 then none
    else
      match Text.readRadix 16 group, readGroups rest with
      | some n, some more => some (n :: more)
      | _, _ => none

/-- Split at the first double colon. -/
def cutDoubleColon : List Char → Option (List Char × List Char)
  | ':' :: ':' :: rest => some ([], rest)
  | c :: rest => (cutDoubleColon rest).map fun (before, after) => (c :: before, after)
  | [] => none

/-- A host of eight groups, in which one double colon stands for groups of zero. -/
def readVersion6 (text : List Char) : Option (List Nat) :=
  let groups (part : List Char) : Option (List Nat) :=
    if part.isEmpty then some [] else readGroups (Text.segments (· == ':') part)
  match cutDoubleColon text with
  | none => (groups text).filter fun all => all.length == 8
  | some (before, after) =>
    if before.contains '.' then none
    else
      match groups before, groups after with
      | some first, some last =>
        if first.length + last.length ≤ 7 then
          some (first ++ List.replicate (8 - first.length - last.length) 0 ++ last)
        else none
      | _, _ => none

/-! ### Hosts -/

/-- The host that a domain name stands for; an empty label at its end tells nothing. -/
def ofDomainName? (labels : DomainName) : Option Host :=
  if labels = [[]] then none
  else
    let written := if labels.getLast? = some [] then labels.dropLast else labels
    if endsInNumber written then (readVersion4 written).map .version4 else some (.name labels)

/-- The host of an address of the web. -/
def ofText? (text : List Char) : Option Host :=
  match text with
  | '[' :: rest =>
    if rest.getLast? = some ']' then (readVersion6 rest.dropLast).map .version6 else none
  | _ => (DomainName.ofText? (Text.Percent.decode text)).bind ofDomainName?

/-- Whether a text can be the host of an address of another scheme. -/
def isPlain (text : List Char) : Bool :=
  match text with
  | '[' :: rest => rest.getLast? == some ']' && (readVersion6 rest.dropLast).isSome
  | _ =>
    !text.any fun c =>
      c.toNat == 0 || [' ', '#', '/', ':', '<', '>', '?', '@', '[', '\\', ']', '^',
        '|'].contains c

end Host

end OpenApiDoc
