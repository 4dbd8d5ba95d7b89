import OpenApiDoc.WebAddress.Host
import OpenApiDoc.WebAddress.Path

/-!
# Web addresses

Absolute addresses are read as browsers read them, as far as the site and the path go: scheme and
host in lower case, default ports dropped, backslashes of web schemes read as slashes, dot
segments resolved, and the characters that a path cannot hold percent encoded.

Only the schemes of the web have a *site* that two addresses can share, and addresses of the
scheme `blob`, whose path is itself an address, have the site of that one. A file or an address
of another scheme has none.
-/

namespace OpenApiDoc

/-- Where an address of a web scheme is served. -/
structure Site where
  scheme : List Char
  host : Host
  port : Nat
deriving DecidableEq

/-- The parts of an address that tell documents apart. -/
structure WebAddress where
  site : Option Site
  path : List Char

namespace WebAddress

/-- The text without control characters and spaces around it and without line breaks and tabs. -/
def cleaned (text : List Char) : List Char :=
  let isControl (c : Char) : Bool := c.toNat ≤ 0x20
  (((text.dropWhile isControl).reverse.dropWhile isControl).reverse).filter fun c =>
    c != '\t' && c != '\n' && c != '\r'

/-- A slash or a backslash. -/
def isEitherSlash (c : Char) : Bool := c == '/' || c == '\\'

/-- Where a path ends: at a query or a fragment. -/
def endsPath (c : Char) : Bool := c == '?' || c == '#'

/-! ### Authorities -/

/-- What follows the credentials of an authority, and whether there are any. The authority ends
where a test says. Credentials that are empty are none, but a host has to follow them. -/
def afterCredentials? (isEnd : Char → Bool) (text : List Char) : Option (Bool × List Char) :=
  let rest := text.dropWhile fun c => !isEnd c
  match Text.cutAtLast '@' (text.takeWhile fun c => !isEnd c) with
  | none => some (false, text)
  | some (credentials, host) =>
    if credentials.isEmpty && host.isEmpty && !rest.isEmpty then none
    else some (!credentials.isEmpty && credentials != [':'], host ++ rest)

/-- Split a text after its host: at the end of the authority or at the first colon outside
brackets. -/
def cutHost (isEnd : Char → Bool) (inBrackets : Bool) : List Char → List Char × List Char
  | [] => ([], [])
  | c :: rest =>
    if isEnd c || (c == ':' && !inBrackets) then ([], c :: rest)
    else
      let inBrackets := if c = '[' then true else if c = ']' then false else inBrackets
      let (host, rest) := cutHost isEnd inBrackets rest
      (c :: host, rest)

/-- The port at the front of a text, if any, and the rest. -/
def cutPort? : List Char → Option (Option Nat × List Char)
  | ':' :: text =>
    let digits := text.takeWhile Char.isDigit
    let rest := text.dropWhile Char.isDigit
    if rest.head?.any fun c => !isEitherSlash c && !endsPath c then none
    else if digits.isEmpty then some (none, rest)
    else ((Text.readRadix 10 digits).filter (· < 65536)).map fun port => (some port, rest)
  | text => some (none, text)

/-! ### Addresses of the web -/

/-- The schemes of the web with their default ports. -/
def defaultPort? (scheme : List Char) : Option Nat :=
  match String.ofList scheme with
  | "http" => some 80
  | "https" => some 443
  | "ws" => some 80
  | "wss" => some 443
  | "ftp" => some 21
  | _ => none

/-- The path after the host of a web scheme: its first slash may be missing. -/
def pathAfterHost (mayBeDrive : Bool) (text : List Char) : List Char :=
  let text := text.takeWhile fun c => !endsPath c
  resolvePath isEitherSlash mayBeDrive
    (if text.head?.any isEitherSlash then text.drop 1 else text)

/-- An address of a web scheme, from after the colon. -/
def ofWeb? (scheme : List Char) (standard : Nat) (text : List Char) : Option WebAddress := do
  let isEnd (c : Char) : Bool := isEitherSlash c || endsPath c
  let (_, text) ← afterCredentials? isEnd (text.dropWhile isEitherSlash)
  let (host, rest) := cutHost isEnd false text
  let host ← Host.ofText? host
  let (port, rest) ← cutPort? rest
  return ⟨some ⟨scheme, host, port.getD standard⟩, pathAfterHost false rest⟩

/-! ### Addresses of files -/

/-- The path to a file: slashes at its front are one. -/
def filePath (mayBeDrive : Bool) (text : List Char) : List Char :=
  '/' :: (pathAfterHost mayBeDrive text).dropWhile (· == '/')

/-- An address of a file, from after the colon. After two slashes stands a host, which may be
empty, or the drive at which the path begins. The path itself can begin with a drive if it does
not begin with a slash, or if a host stands before that slash. -/
def ofFile? (text : List Char) : Option WebAddress :=
  match text with
  | a :: b :: rest =>
    if isEitherSlash a && isEitherSlash b then
      let isEnd (c : Char) : Bool := isEitherSlash c || endsPath c
      let host := rest.takeWhile fun c => !isEnd c
      let path := rest.dropWhile fun c => !isEnd c
      if isDrive host then some ⟨none, filePath true rest⟩
      else if host.isEmpty then some ⟨none, filePath false path⟩
      else
        (Host.ofText? host).map fun host =>
          ⟨none, filePath (host != .name ["localhost".toList]) path⟩
    else some ⟨none, filePath (!isEitherSlash a) text⟩
  | _ => some ⟨none, filePath false text⟩

/-! ### Other addresses -/

/-- The site of the web address that a path spells. -/
def siteOfWeb? (path : List Char) : Option Site :=
  match Text.cutAt ':' (cleaned path) with
  | none => none
  | some (scheme, rest) =>
    let scheme := scheme.map Char.toLower
    (defaultPort? scheme).bind fun standard => (ofWeb? scheme standard rest).bind site

/-- The site of the address that the path of a `blob` address spells. -/
def siteOfBlob? : List Char → Option Site
  | ' ' :: path => siteOfBlob? path
  | b :: l :: o :: d :: ':' :: path =>
    if [b, l, o, d].map Char.toLower = "blob".toList then siteOfBlob? path
    else siteOfWeb? (b :: l :: o :: d :: ':' :: path)
  | path => siteOfWeb? path

/-- The path of an address of another scheme, from where it begins. One that begins with a slash
is made of segments; any other is kept, but for characters beyond those of print. -/
def otherPath (text : List Char) : List Char :=
  match text.takeWhile fun c => !endsPath c with
  | '/' :: path => resolvePath (· == '/') false path
  | path => escape (fun c => c.toNat < 0x20 || 0x7F ≤ c.toNat) path

/-- The path of an address of another scheme than those of the web, from after the colon. -/
def pathOfOther? (text : List Char) : Option (List Char) :=
  match text with
  | '/' :: '/' :: text => do
    let isEnd (c : Char) : Bool := c == '/' || endsPath c
    let (hasCredentials, text) ← afterCredentials? isEnd text
    let (host, rest) := cutHost isEnd false text
    if !Host.isPlain host ||
      (host.isEmpty && (hasCredentials || rest.head? == some ':')) then none
    let (_, rest) ← cutPort? rest
    let path := rest.takeWhile fun c => !endsPath c
    return otherPath (if path.isEmpty || path.head? == some '/' then path else '/' :: path)
  | _ => some (otherPath text)

/-- An address of another scheme, from after the colon. -/
def ofOther? (scheme text : List Char) : Option WebAddress :=
  (pathOfOther? text).map fun path =>
    ⟨if String.ofList scheme = "blob" then siteOfBlob? path else none, path⟩

/-! ### Any address -/

/-- Whether a character can stand in a scheme after its first letter. -/
def isSchemeChar (c : Char) : Bool := c.isAlphanum || c == '+' || c == '-' || c == '.'

/-- Read an absolute address. -/
def ofText? (text : List Char) : Option WebAddress :=
  let text := cleaned text
  match Text.cutAt ':' text with
  | none => none
  | some (scheme, rest) =>
    if scheme.head?.any Char.isAlpha && scheme.all isSchemeChar then
      let scheme := scheme.map Char.toLower
      match defaultPort? scheme with
      | some standard => ofWeb? scheme standard rest
      | none => if String.ofList scheme = "file" then ofFile? rest else ofOther? scheme rest
    else none

/-- Whether two addresses have a common site and the same path. -/
def same (a b : WebAddress) : Bool :=
  a.site.isSome && a.site == b.site && a.path == b.path

end WebAddress

end OpenApiDoc
