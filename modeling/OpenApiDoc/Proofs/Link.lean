import OpenApiDoc.Link
import OpenApiDoc.Proofs.FilePath
import OpenApiDoc.Proofs.Text.FileName

/-!
# Documents and where links lead

Documents that are kept apart are named for what they hold. They are told apart by the wording of
names and identities, and by nothing else.

A link to a definition stands in the overview, in the document of an operation or in the document
of a definition. It is relative to the folder of that document, and it should lead to the
document that holds the definition.

The document of the definition lies below the output folder, and so do the other documents, in
folders that the configuration names. A link climbs one folder from a separate document of an
operation, and none from other documents. It leads to its target just if that is how deep the
document lies.
-/

namespace OpenApiDoc

open FilePath

/-! ### Documents below the output folder -/

lemma Markup.length_extension (m : Markup) : 3 ≤ m.extension.toList.length := by
  cases m <;> decide

lemma Markup.ne_slash_of_mem_extension (m : Markup) : ∀ c ∈ m.extension.toList, c ≠ '/' := by
  cases m <;> simp [extension]

namespace Config

variable {c : Config}

/-- The names of documents and folders that a configuration sets lead down from the output
folder. -/
structure Relative (c : Config) : Prop where
  definitionsDocument : Descends c.definitionsDocument.toList
  pathsDocument : Descends c.pathsDocument.toList
  definitionsFolder : Descends c.definitionsFolder.toList
  operationsFolder : Descends c.operationsFolder.toList

lemma descends_fileName {name : String} (h : Descends name.toList) :
    Descends (c.fileName name).toList := by
  rw [fileName, String.toList_append]
  exact h.append c.markup.ne_slash_of_mem_extension c.markup.length_extension

lemma ne_slash_of_mem_fileName_ofName (name : String) :
    ∀ x ∈ (c.fileName (Text.FileName.ofName name)).toList, x ≠ '/' := by
  intro x hx
  rw [fileName, String.toList_append, List.mem_append] at hx
  rcases hx with hx | hx
  · exact Text.FileName.ne_slash_of_mem_ofName hx
  · exact c.markup.ne_slash_of_mem_extension x hx

/-- The document that is named for a definition or an operation. -/
lemma components_fileName_ofName (name : String) :
    Descends (c.fileName (Text.FileName.ofName name)).toList ∧
      ∃ file, components (c.fileName (Text.FileName.ofName name)).toList = [file] := by
  have hslash := c.ne_slash_of_mem_fileName_ofName name
  have hlength : 3 ≤ (c.fileName (Text.FileName.ofName name)).toList.length := by
    have := c.markup.length_extension
    rw [fileName, String.toList_append, List.length_append]
    omega
  exact ⟨descends_of_name hslash hlength, _, components_of_name hslash hlength⟩

lemma descends_definitionDocument (relative : c.Relative) (name : String) :
    Descends (c.definitionDocument name).toList := by
  rw [definitionDocument]
  split
  · exact descends_join relative.definitionsFolder (components_fileName_ofName name).1
  · exact descends_fileName relative.definitionsDocument

lemma descends_operationDocument (relative : c.Relative) (o : Operation) :
    Descends (c.operationDocument o).toList := by
  rw [operationDocument]
  split
  · exact descends_join relative.operationsFolder (components_fileName_ofName o.id).1
  · exact descends_fileName relative.pathsDocument

/-! ### Separate documents -/

open Text.FileName

/-- Files in one folder that are named for names are one file just if the names
have one wording. -/
lemma join_fileName_ofName_eq_iff (folder : String) {a b : String} :
    FilePath.join folder (c.fileName (ofName a)) = FilePath.join folder (c.fileName (ofName b)) ↔
      wording a.toList = wording b.toList := by
  have hrelative : ∀ name : String, (c.fileName (ofName name)).toList.head? ≠ some '/' :=
    fun name hslash => c.ne_slash_of_mem_fileName_ofName name '/'
      (List.mem_of_mem_head? hslash) rfl
  rw [FilePath.join_inj folder (hrelative a) (hrelative b), fileName, fileName,
    String.append_left_inj, ofName_eq_iff]

/-- Where definitions are documented separately, two of them share a document just if their names
have one wording, and likewise operations and their identities. -/
theorem separateDocuments_eq_iff (c : Config) :
    (c.separateDefinitions = true → ∀ a b : String,
      c.definitionDocument a = c.definitionDocument b ↔ wording a.toList = wording b.toList) ∧
    (c.separateOperations = true → ∀ o p : Operation,
      c.operationDocument o = c.operationDocument p ↔
        wording o.id.toList = wording p.id.toList) := by
  constructor
  · intro separate a b
    rw [definitionDocument, definitionDocument, if_pos separate, if_pos separate,
      join_fileName_ofName_eq_iff]
  · intro separate o p
    rw [operationDocument, operationDocument, if_pos separate, if_pos separate,
      join_fileName_ofName_eq_iff]

/-- A document for each definition and for each operation. -/
def separating : Config := { separateDefinitions := true, separateOperations := true }

/-- The operation that reads a path. -/
def reading (path : String) : Operation := { method := .get, path }

/-- A gap that begins with a hyphen differs from one that begins otherwise; braces and slashes at
the ends of a path say nothing. -/
theorem separateDocuments_eq_iff_orders :
    separating.separateDefinitions = true ∧ separating.separateOperations = true ∧
    separating.definitionDocument "Order-Item" ≠ separating.definitionDocument "Order.Item" ∧
    separating.operationDocument (reading "/orders/{id}") =
      separating.operationDocument (reading "orders/id/") := by
  obtain ⟨hdefinitions, hoperations⟩ := separateDocuments_eq_iff separating
  refine ⟨rfl, rfl, ?_, ?_⟩
  · rw [ne_eq, hdefinitions rfl]
    decide
  · rw [hoperations rfl]
    decide +kernel

/-- Definitions with distinct names are written to one document, and so are operations
with distinct identities. -/
theorem separateDocuments_coincide :
    separating.separateDefinitions = true ∧ "Order.Item" ≠ "Order_Item" ∧
    separating.definitionDocument "Order.Item" = separating.definitionDocument "Order_Item" ∧
    separating.separateOperations = true ∧
    (reading "/pets/{petId}").id ≠ (reading "/pets/petId").id ∧
    separating.operationDocument (reading "/pets/{petId}") =
      separating.operationDocument (reading "/pets/petId") := by
  refine ⟨rfl, by decide, by decide +kernel, rfl, by decide, by decide +kernel⟩

end Config

/-! ### The document that a link stands in -/

/-- A document that is written. -/
inductive Written where
  | overview
  | operation (o : Operation)
  | definition (name : String)

namespace Written

/-- The kind of the document. -/
def site : Written → CallSite
  | .overview => .root
  | .operation _ => .operation
  | .definition _ => .definition

/-- The folder that the document is written into. -/
def folder (c : Config) (output : String) : Written → List Component
  | .overview => components output.toList
  | .operation o => (components (join output (c.operationDocument o)).toList).dropLast
  | .definition name => (components (join output (c.definitionDocument name)).toList).dropLast

end Written

/-- A document lies where links from it are made for: just one folder down if it is a separate
document of an operation, in the folder of definitions if it is a separate document of a
definition, and else in the output folder itself. -/
def Config.Fits (c : Config) : Written → Prop
  | .overview => True
  | .operation _ =>
    if c.separateOperations then (components c.operationsFolder.toList).length = 1
    else (components (c.fileName c.pathsDocument).toList).length = 1
  | .definition _ =>
    c.separateDefinitions = true ∨
      (components (c.fileName c.definitionsDocument).toList).length = 1

instance (c : Config) (w : Written) : Decidable (c.Fits w) :=
  match w with
  | .overview => isTrue trivial
  | .operation _ =>
    inferInstanceAs (Decidable (if c.separateOperations = true
      then (components c.operationsFolder.toList).length = 1
      else (components (c.fileName c.pathsDocument).toList).length = 1))
  | .definition _ =>
    inferInstanceAs (Decidable (c.separateDefinitions = true ∨
      (components (c.fileName c.definitionsDocument).toList).length = 1))

/-- A way that starts with a detour leads to the same place only if there is no detour. -/
lemma append_detour_iff {folder detour way : List Component} (h : detour ≠ []) :
    folder ++ detour.dropLast ++ way = folder ++ way ↔ detour.length = 1 := by
  rw [List.append_assoc, List.append_cancel_left_eq]
  have hpos := List.length_pos_of_ne_nil h
  constructor
  · intro heq
    have hlength := congrArg List.length heq
    rw [List.length_append, List.length_dropLast] at hlength
    omega
  · intro hone
    have hnil : detour.dropLast = [] := List.eq_nil_of_length_eq_zero (by simp [hone])
    rw [hnil, List.nil_append]

/-- The folder of a document below another folder. -/
lemma dropLast_components_join (output : String) {document : String}
    (h : Descends document.toList) :
    (components (join output document).toList).dropLast =
      components output.toList ++ (components document.toList).dropLast := by
  rw [components_join output h, List.dropLast_append_of_ne_nil h.ne_nil]

/-- The folder of a file in a folder. -/
lemma dropLast_components_fileName (c : Config) (folder name : String) :
    (components (join folder (c.fileName (Text.FileName.ofName name))).toList).dropLast =
      components folder.toList := by
  obtain ⟨hdescends, file, hfile⟩ := c.components_fileName_ofName name
  rw [dropLast_components_join folder hdescends, hfile]
  exact List.append_nil _

namespace Conversion

variable {c : Conversion} {output : String}

lemma links_eq_true (crossing : c.config.crossReferences = true)
    (known : c.output = some output) : c.links = true := by
  simp [links, crossing, known]

lemma rootTarget_of_plain (plain : c.config.linkStart = "") (name : String) :
    c.rootTarget name = c.config.definitionDocument name := by
  rw [rootTarget, plain, String.empty_append]

/-- Where the links of an operation lead. -/
lemma operation_reaches_iff (o : Operation) (name : String) (hlinks : c.links = true)
    (plain : c.config.linkStart = "") (relative : c.config.Relative) :
    ∃ link, c.definitionLink .operation name = some link ∧
      (resolve ((Written.operation o).folder c.config output) link =
          components (join output (c.config.definitionDocument name)).toList ↔
        c.config.Fits (.operation o)) := by
  have htarget := c.config.descends_definitionDocument relative name
  have hroot := rootTarget_of_plain plain name
  have hwritten :=
    dropLast_components_join output (c.config.descends_operationDocument relative o)
  rw [Written.folder, hwritten, components_join output htarget]
  by_cases separate : c.config.separateOperations = true
  · refine ⟨join ".." (c.config.definitionDocument name), ?_, ?_⟩
    · simp [definitionLink, hlinks, separate, hroot]
    have hfolder := relative.operationsFolder
    -- The folder above an operation is found by taking the last part off its folder.
    have habove :
        parent (components output.toList ++ components c.config.operationsFolder.toList) =
          components output.toList ++
            (components c.config.operationsFolder.toList).dropLast := by
      obtain ⟨init, last, hparts⟩ := List.eq_nil_or_concat _ |>.resolve_left hfolder.ne_nil
      have hlast : last.Down := hfolder.down last (by simp [hparts])
      rw [hparts, List.concat_eq_append, ← List.append_assoc, parent_concat hlast,
        List.dropLast_concat]
    rw [resolve_join_above htarget, Config.operationDocument, if_pos separate,
      dropLast_components_fileName, habove, append_detour_iff hfolder.ne_nil, Config.Fits,
      if_pos separate]
  · refine ⟨c.config.definitionDocument name, ?_, ?_⟩
    · simp [definitionLink, hlinks, separate, hroot]
    have hdocument := Config.descends_fileName (c := c.config) relative.pathsDocument
    rw [resolve_of_descends htarget, Config.operationDocument, if_neg separate,
      append_detour_iff hdocument.ne_nil, Config.Fits, if_neg separate]

/-- Where the links of a definition lead. -/
lemma definition_reaches_iff (source name : String) (hlinks : c.links = true)
    (plain : c.config.linkStart = "") (relative : c.config.Relative) :
    ∃ link, c.definitionLink .definition name = some link ∧
      (resolve ((Written.definition source).folder c.config output) link =
          components (join output (c.config.definitionDocument name)).toList ↔
        c.config.Fits (.definition source)) := by
  have htarget := c.config.descends_definitionDocument relative name
  have hroot := rootTarget_of_plain plain name
  have hwritten := dropLast_components_join output
    (c.config.descends_definitionDocument relative source)
  rw [Written.folder, hwritten, components_join output htarget]
  by_cases separate : c.config.separateDefinitions = true
  · refine ⟨c.config.fileName (Text.FileName.ofName name), ?_, ?_⟩
    · simp [definitionLink, hlinks, separate, plain]
    obtain ⟨hfile, -⟩ := c.config.components_fileName_ofName name
    rw [resolve_of_descends hfile, Config.definitionDocument, if_pos separate,
      dropLast_components_fileName, Config.definitionDocument, if_pos separate,
      components_join _ hfile, List.append_assoc]
    exact iff_of_true rfl (.inl separate)
  · refine ⟨c.config.definitionDocument name, ?_, ?_⟩
    · simp [definitionLink, hlinks, separate, hroot]
    have hdocument := Config.descends_fileName (c := c.config) relative.definitionsDocument
    rw [resolve_of_descends htarget, Config.definitionDocument, if_neg separate,
      Config.definitionDocument, if_neg separate, append_detour_iff hdocument.ne_nil,
      Config.Fits]
    simp [separate]

/-- A link to a definition leads to the document that holds it just if the document that the link
stands in lies where links from it are made for. -/
theorem definitionLink_reaches_iff (w : Written) (name : String)
    (crossing : c.config.crossReferences = true) (known : c.output = some output)
    (plain : c.config.linkStart = "") (relative : c.config.Relative) :
    ∃ link, c.definitionLink w.site name = some link ∧
      (resolve (w.folder c.config output) link =
          components (join output (c.config.definitionDocument name)).toList ↔
        c.config.Fits w) := by
  have hlinks := links_eq_true crossing known
  cases w with
  | overview =>
    have htarget := c.config.descends_definitionDocument relative name
    refine ⟨c.config.definitionDocument name, ?_, ?_⟩
    · simp [definitionLink, hlinks, rootTarget_of_plain plain, Written.site]
    · rw [resolve_of_descends htarget, components_join output htarget]
      exact iff_of_true rfl trivial
  | operation o => exact operation_reaches_iff o name hlinks plain relative
  | definition source => exact definition_reaches_iff source name hlinks plain relative

/-- Separate documents of operations and definitions in given folders. -/
def separated (operationsFolder definitionsFolder : String) : Conversion where
  config :=
    { separateDefinitions := true
      separateOperations := true
      crossReferences := true
      operationsFolder
      definitionsFolder }
  output := some "out"

/-- An operation of the pet store. -/
def listPets : Operation := { method := .get, path := "/pets" }

/-- From a folder in the output folder, the links of an operation lead to definitions in a folder
that lies deeper. -/
theorem definitionLink_reaches_deeper :
    (separated "operations" "api/definitions").config.Relative ∧
    ∃ link, (separated "operations" "api/definitions").definitionLink .operation "Order Item" =
        some link ∧
      resolve ((Written.operation listPets).folder
          (separated "operations" "api/definitions").config "out") link =
        [.named "out".toList, .named "api".toList, .named "definitions".toList,
          .named "Order_Item.adoc".toList] := by
  have relative : (separated "operations" "api/definitions").config.Relative := by
    constructor <;> exact ⟨by decide, by decide⟩
  obtain ⟨link, hlink, hreaches⟩ := definitionLink_reaches_iff (.operation listPets) "Order Item"
    (c := separated "operations" "api/definitions") rfl rfl rfl relative
  refine ⟨relative, link, hlink, ?_⟩
  rw [hreaches.2 (by decide +kernel)]
  decide +kernel

/-- From a deeper folder they do not climb far enough. -/
theorem definitionLink_astray :
    (separated "api/operations" "definitions").config.crossReferences = true ∧
    (separated "api/operations" "definitions").config.linkStart = "" ∧
    (separated "api/operations" "definitions").config.Relative ∧
    (separated "api/operations" "definitions").definitionLink .operation "Pet" =
      some "../definitions/Pet.adoc" ∧
    resolve ((Written.operation listPets).folder
        (separated "api/operations" "definitions").config "out") "../definitions/Pet.adoc" ≠
      components (join "out"
        ((separated "api/operations" "definitions").config.definitionDocument
          "Pet")).toList := by
  refine ⟨rfl, rfl, ?_, by decide +kernel, by decide +kernel⟩
  constructor <;> exact ⟨by decide, by decide⟩

end Conversion

end OpenApiDoc
