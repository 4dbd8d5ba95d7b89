import OpenApiDoc.Yaml.Reader
import OpenApiDoc.Yaml.Scalar

/-!
# The JSON value of a YAML document

Aliases are replaced by the nodes that they stand for. Since a node may hold an alias of itself,
collections may be nested 128 deep at most, and aliases are followed a number of times that the
size of the document bounds.

Keys are the texts of scalars, of whatever type; a repeated key keeps its first place and takes
the last value.
-/

namespace OpenApiDoc.Yaml

/-- A reading that may fail, with the number of aliases that may still be followed. -/
abbrev Reading := StateT Nat Option

namespace Node

/-- The node that a node stands for. -/
def followed (root : Node) (node : Node) : Reading Node :=
  match node with
  | .alias number => do
    let left ← get
    if left = 0 then failure
    else
      set (left - 1)
      liftM (root.numbered? number)
  | node => pure node

/-- The text of a key. -/
def keyText (root : Node) (node : Node) : Reading String := do
  match ← root.followed node with
  | .scalar _ _ text => pure text
  | _ => failure

/-- Whether a collection has a tag that names a type of the application itself. -/
def isLocal (own : Properties) : Bool := own.tag.any Tag.isLocal

/-- The value of a node, where `within` reads the parts of collections; without it there is no
room for a collection. -/
def valueWith (root : Node) (within : Option (Node → Reading Json)) (node : Node) :
    Reading Json := do
  match ← root.followed node, within with
  | .scalar own style text, _ => liftM (Scalar.json? own style text)
  | .sequence own items, some read =>
    if isLocal own then failure else return .arr (← items.mapM read)
  | .mapping own entries, some read =>
    if isLocal own then failure
    else
      return .obj (← entries.foldlM (fun members (key, value) => do
        let key ← root.keyText key
        return Entries.insert key (← read value) members) [])
  | _, _ => failure

/-- The value of a node in which collections are nested to this depth at most. -/
def valueWithin (root : Node) : Nat → Node → Reading Json
  | 0 => root.valueWith none
  | depth + 1 => root.valueWith (some (root.valueWithin depth))

/-- How deep collections may be nested. -/
def maxDepth : Nat := 128

/-- The JSON value of a document. -/
def json? (root : Node) : Option Json :=
  ((root.valueWithin maxDepth root).run (100 * root.size)).map Prod.fst

end Node

/-- The JSON value of the document that a text holds. -/
def jsonOfText? (text : String) : Option Json := (Node.ofText? text).bind Node.json?

end OpenApiDoc.Yaml
