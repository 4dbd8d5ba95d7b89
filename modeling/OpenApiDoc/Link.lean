import OpenApiDoc.Config
import OpenApiDoc.FilePath
import OpenApiDoc.Operation
import OpenApiDoc.Resolver
import OpenApiDoc.Text.FileName

/-!
# Documents and links

Which document holds a definition or an operation, and how a document links to it. Links are
relative to the document that they stand in. There are none unless links between documents are
switched on and the output folder is known.
-/

namespace OpenApiDoc

/-- The configuration of a conversion with its output folder, once that is known. -/
structure Conversion where
  config : Config := {}
  output : Option String := none

namespace Config

/-- The document that holds a definition, below the output folder. -/
def definitionDocument (c : Config) (name : String) : String :=
  if c.separateDefinitions then
    FilePath.join c.definitionsFolder (c.fileName (Text.FileName.ofName name))
  else c.fileName c.definitionsDocument

/-- The document that holds an operation, below the output folder. -/
def operationDocument (c : Config) (operation : Operation) : String :=
  if c.separateOperations then
    FilePath.join c.operationsFolder (c.fileName (Text.FileName.ofName operation.id))
  else c.fileName c.pathsDocument

end Config

/-- The kind of document that a link stands in. -/
inductive CallSite where
  /-- A document in the output folder itself. -/
  | root
  | operation
  | definition
deriving DecidableEq

namespace Conversion

/-- Whether there are links between documents. -/
def links (c : Conversion) : Bool := c.config.crossReferences && c.output.isSome

/-- The document of a definition, as seen from the output folder. -/
def rootTarget (c : Conversion) (name : String) : String :=
  c.config.linkStart ++ c.config.definitionDocument name

/-- The target of a link to a definition. -/
def definitionLink (c : Conversion) (site : CallSite) : LinkTargets := fun name =>
  if !c.links then none
  else
    match site with
    | .operation =>
      if c.config.separateOperations then some (FilePath.join ".." (c.rootTarget name))
      else some (c.rootTarget name)
    | .definition =>
      if c.config.separateDefinitions then
        some (c.config.linkStart ++ c.config.fileName (Text.FileName.ofName name))
      else some (c.rootTarget name)
    | .root => some (c.rootTarget name)

/-- The target of a link to a security scheme. -/
def securityLink (c : Conversion) : LinkTargets := fun _ =>
  if c.links then some (c.config.linkStart ++ c.config.fileName c.config.securityDocument)
  else none

/-- The target of a link to an operation. -/
def operationLink (c : Conversion) (operation : Operation) : Option String :=
  if c.links then some (c.config.linkStart ++ c.config.operationDocument operation) else none

end Conversion

/-- Links that never leave the current document. -/
def LinkTargets.sameDocument : LinkTargets := fun _ => none

end OpenApiDoc
