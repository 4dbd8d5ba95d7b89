import OpenApiDoc.Config
import OpenApiDoc.Text.Blank
import OpenApiDoc.Yaml.Reader
import OpenApiDoc.Yaml.Scalar

/-!
# Configuration files

A configuration is written as a mapping in YAML. A setting that takes a text accepts any scalar
as it is written. Keys that name no setting are passed over, with whatever stands under them; a
setting that is given twice is a fault. A blank text and an empty document change nothing.
-/

namespace OpenApiDoc

/-- Why no configuration can be read from a text. -/
inductive ConfigFault where
  | unreadable
deriving DecidableEq

/-- The wording. -/
def ConfigFault.message : ConfigFault → String
  | .unreadable => "Config Error: Failed to parse config YAML"

namespace Config

open Yaml (Node Properties Style)

/-- The text of a scalar, of whatever type. -/
def textOf? : Node → Option String
  | .scalar _ _ text => some text
  | _ => none

/-- A Boolean is written without quotation marks, or with its tag as a block of lines. -/
def switchOf? : Node → Option Bool
  | .scalar own style text =>
    if style = .plain ∨ (style = .literal ∧ own.tag = some (.core "bool")) then
      Yaml.Scalar.bool? text
    else none
  | _ => none

/-- A text that may be null. A tag other than that of null makes a text of any scalar. -/
def optionalTextOf? : Node → Option (Option String)
  | .scalar own style text =>
    if style ≠ .plain then some (some text)
    else
      match own.tag with
      | none => some (if text.isEmpty || Yaml.Scalar.isNull text then none else some text)
      | some tag =>
        if tag ≠ .core "null" then some (some text)
        else if Yaml.Scalar.isNull text then some none
        else none
  | _ => none

/-- The word that names a choice: a scalar, or the name in a local tag with nothing after it. -/
def wordOf? : Node → Option String
  | .scalar own style text =>
    match own.tag.bind Yaml.Tag.localName? with
    | none => some text
    | some name =>
      if style = .plain ∧ (text.isEmpty || Yaml.Scalar.isNull text) then some name else none
  | _ => none

/-- The change that a node makes to the value of a setting. -/
def Setting.assignNode? (node : Node) (c : Config) : Setting → Option Config
  | .markup set =>
    (wordOf? node).bind fun word => (Markup.ofWord word).toOption.map fun v => set v c
  | .switch set => (switchOf? node).map fun v => set v c
  | .text set => (textOf? node).map fun v => set v c
  | .optionalText set => (optionalTextOf? node).map fun v => set v c

/-- Assign the entries of a mapping within a document to their settings in order; `given` are the
settings already met. -/
def assignEntries? (root : Node) (given : List String) (c : Config) :
    List (Node × Node) → Option Config
  | [] => some c
  | (key, value) :: rest => do
    let name ← (root.follow key).bind textOf?
    match settings.lookup name with
    | none => assignEntries? root given c rest
    | some setting =>
      if given.contains name then none
      else
        let c ← setting.assignNode? (← root.follow value) c
        assignEntries? root (name :: given) c rest

/-- The configuration that a document holds. -/
def ofNode? : Node → Option Config
  | .mapping own entries => assignEntries? (.mapping own entries) [] {} entries
  | .scalar _ style text => if style = .plain ∧ text.isEmpty then some {} else none
  | _ => none

/-- The configuration that a text holds. -/
def ofText (text : String) : Except ConfigFault Config :=
  if Text.allBlank text.toList then .ok {}
  else
    match (Node.ofText? text).bind ofNode? with
    | some c => .ok c
    | none => .error .unreadable

end Config

end OpenApiDoc
