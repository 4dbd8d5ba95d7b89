import OpenApiDoc.Decoding

/-!
# Configuration

The switches of a conversion. Every key is optional; an absent key keeps its default.
-/

namespace OpenApiDoc

/-- The markup of the documents written; it decides their file extension. -/
inductive Markup where
  | asciidoc
  | markdown
  | confluence
deriving DecidableEq

namespace Markup

/-- The name of the markup. -/
def text : Markup → String
  | .asciidoc => "asciidoc"
  | .markdown => "markdown"
  | .confluence => "confluence"

/-- The file extension with its dot. -/
def extension : Markup → String
  | .asciidoc => ".adoc"
  | .markdown => ".md"
  | .confluence => ".txt"

/-- The words that name a markup, as they are listed when none of them is met. -/
def words : List String :=
  ["ASCIIDOC", "asciidoc", "MARKDOWN", "markdown", "CONFLUENCE_MARKUP", "confluence",
    "confluence_markup"]

/-- The markup that a word names. -/
def ofWord : String → Decoded Markup
  | "asciidoc" => .ok .asciidoc
  | "ASCIIDOC" => .ok .asciidoc
  | "markdown" => .ok .markdown
  | "MARKDOWN" => .ok .markdown
  | "confluence" => .ok .confluence
  | "confluence_markup" => .ok .confluence
  | "CONFLUENCE_MARKUP" => .ok .confluence
  | word => .error (.unknownWord word words)

end Markup

/-- The switches of a conversion. -/
structure Config where
  markup : Markup := .asciidoc
  /-- Generate examples where the description has none. -/
  generatesExamples : Bool := false
  /-- Put optional query parameters into generated request paths. -/
  showsOptionalQuery : Bool := false
  /-- Put optional properties into generated objects. -/
  showsOptionalProperties : Bool := true
  /-- Take inline objects out into definitions of their own. -/
  hoistsInline : Bool := true
  /-- Leave the object of a body in its place. -/
  flatBody : Bool := false
  /-- One document for each definition. -/
  separateDefinitions : Bool := false
  /-- One document for each operation. -/
  separateOperations : Bool := false
  /-- Link from document to document. -/
  crossReferences : Bool := false
  /-- What stands before the target of a link between documents. -/
  linkPrefix : Option String := none
  definitionsDocument : String := "definitions"
  pathsDocument : String := "paths"
  securityDocument : String := "security"
  definitionsFolder : String := "definitions"
  operationsFolder : String := "operations"
deriving DecidableEq

namespace Config

/-- What stands before the target of a link, empty unless configured. -/
def linkStart (c : Config) : String := c.linkPrefix.getD ""

/-- Link from document to document, with this before each target. -/
def withLinkStart (c : Config) (start : String) : Config :=
  { c with crossReferences := true, linkPrefix := some start }

/-- The name of a document with the extension of its markup. -/
def fileName (c : Config) (name : String) : String := name ++ c.markup.extension

/-! ### Settings -/

/-- What kind of value a setting has, with the change that a value makes. -/
inductive Setting where
  | markup (set : Markup → Config → Config)
  | switch (set : Bool → Config → Config)
  | text (set : String → Config → Config)
  | optionalText (set : Option String → Config → Config)

/-- The settings by their keys, in the order of their declaration. -/
def settings : List (String × Setting) :=
  [ ("markupLanguage", .markup fun v c => { c with markup := v }),
    ("generatedExamplesEnabled", .switch fun v c => { c with generatesExamples := v }),
    ("generatedOptionalQueryParameterExampleEnabled",
      .switch fun v c => { c with showsOptionalQuery := v }),
    ("generatedOptionalPropertyExampleEnabled",
      .switch fun v c => { c with showsOptionalProperties := v }),
    ("inlineSchemaEnabled", .switch fun v c => { c with hoistsInline := v }),
    ("flatBodyEnabled", .switch fun v c => { c with flatBody := v }),
    ("separatedDefinitionsEnabled", .switch fun v c => { c with separateDefinitions := v }),
    ("separatedOperationsEnabled", .switch fun v c => { c with separateOperations := v }),
    ("interDocumentCrossReferencesEnabled", .switch fun v c => { c with crossReferences := v }),
    ("interDocumentCrossReferencesPrefix", .optionalText fun v c => { c with linkPrefix := v }),
    ("definitionsDocument", .text fun v c => { c with definitionsDocument := v }),
    ("pathsDocument", .text fun v c => { c with pathsDocument := v }),
    ("securityDocument", .text fun v c => { c with securityDocument := v }),
    ("separatedDefinitionsFolder", .text fun v c => { c with definitionsFolder := v }),
    ("separatedOperationsFolder", .text fun v c => { c with operationsFolder := v }) ]

/-! ### Decoding -/

namespace Setting

open Decoder

/-- Decode the value of a setting. -/
def assign (value : Json) (c : Config) : Setting → Decoded Config
  | .markup set => (word Markup.ofWord value).map fun v => set v c
  | .switch set => (boolean value).map fun v => set v c
  | .text set => (string value).map fun v => set v c
  | .optionalText set => (optional string value).map fun v => set v c

end Setting

/-- A configuration; a list may leave any of its fields out. -/
def decode : Decoder Config :=
  Decoder.record "ConversionConfig"
    (settings.map fun (name, setting) =>
      { name, hasDefault := true, assign := fun value c => setting.assign value c }) {}

end Config

end OpenApiDoc
