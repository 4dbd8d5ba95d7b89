import OpenApiDoc.FilePath
import OpenApiDoc.WebAddress

/-!
# References

A reference is a text whose part before the first `#` designates a document and whose part after
it points into that document. Other documents are never fetched: a reference is *local* when its
document part is empty or designates the document itself by its `$self` address.

`Reference.componentName?` is the name under which a local reference finds a reusable part, and
`Reference.definitionName` the name of the definition that any reference stands for.
-/

namespace OpenApiDoc.Reference

/-! ### Pointer segments -/

/-- Replace `~1` by a slash and `~0` by a tilde. -/
def unescape : List Char → List Char
  | [] => []
  | '~' :: '1' :: rest => '/' :: unescape rest
  | '~' :: '0' :: rest => '~' :: unescape rest
  | c :: rest => c :: unescape rest

/-- The name that a segment of a pointer spells: tilde escapes first, then percent escapes. -/
def decodeSegment (segment : List Char) : List Char :=
  Text.Percent.decode (unescape segment)

/-! ### Local references -/

/-- Whether the document part of a reference designates the document with this address: the same
text, the same site and path of two web addresses, the path of one when the address is an
absolute path, or the same file path when neither is a web address. -/
def designates (document self : List Char) : Bool :=
  document == self ||
    match WebAddress.ofText? document, WebAddress.ofText? self with
    | some a, some b => a.same b
    | some a, none => self.head? == some '/' && a.path == self
    | none, none => FilePath.same document self
    | none, some _ => false

/-- The pointer of a local reference: what follows the first `#`. -/
def localPointer? (self : Option String) (reference : String) : Option (List Char) :=
  match Text.cutAt '#' reference.toList with
  | none => none
  | some (document, pointer) =>
    if document.isEmpty || self.any fun s => designates document s.toList then some pointer
    else none

/-! ### Names -/

/-- The last segment of a pointer into a section: `/components/<section>/<name>` or
`/<section>/<name>`. -/
def segmentIn? (sectionName : String) (segments : List (List Char)) : Option (List Char) :=
  match segments with
  | [components, part, name] =>
    if components = "components".toList ∧ part = sectionName.toList then some name else none
  | [part, name] => if part = sectionName.toList then some name else none
  | _ => none

/-- The name of the reusable part of a section that a local reference points at. -/
def componentName? (self : Option String) (sectionName : String) (reference : String) :
    Option String :=
  match localPointer? self reference with
  | none => none
  | some pointer =>
    let path := (pointer.dropWhile (· == '#')).dropWhile (· == '/')
    match segmentIn? sectionName (Text.segments (· == '/') path) with
    | none => none
    | some segment =>
      let name := decodeSegment segment
      if name.isEmpty then none else some (String.ofList name)

/-- Whether an ending of a name is that of a document file. -/
def isFileEnding (ending : List Char) : Bool :=
  ending == "json".toList || ending == "yaml".toList || ending == "yml".toList

/-- A name without the ending of a document file. -/
def withoutFileEnding (name : List Char) : List Char :=
  match Text.cutAtLast '.' name with
  | some (stem, ending) => if !stem.isEmpty && isFileEnding ending then stem else name
  | none => name

/-- The last segment that is not empty, of a text between slashes and `#`. -/
def lastSegment? (text : List Char) : Option (List Char) :=
  (Text.segments (fun c => c == '/' || c == '#') text).reverse.find? fun s => !s.isEmpty

/-- The definition that a reference stands for. A text without slash and `#` is a name itself;
a reference into the schemas or definitions of the document gives the name pointed at; any other
gives its last segment. -/
def definitionName (self : Option String) (reference : String) : String :=
  let text := reference.toList
  if !text.contains '#' && !text.contains '/' then reference
  else
    match componentName? self "schemas" reference with
    | some name => name
    | none =>
      match componentName? self "definitions" reference with
      | some name => name
      | none =>
        String.ofList (decodeSegment (withoutFileEnding ((lastSegment? text).getD text)))

end OpenApiDoc.Reference
