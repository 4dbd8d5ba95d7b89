import OpenApiDoc.Yaml.Token

/-!
# Nodes of a YAML document

A node is a scalar, a sequence, a mapping, or an alias that stands for another node. Nodes that
aliases may stand for carry a number; where several nodes carry one number, the last of them to
begin counts.
-/

namespace OpenApiDoc.Yaml

/-- What is written before a node: the number of its anchor, and its tag. -/
structure Properties where
  anchor : Option Nat := none
  tag : Option Tag := none
deriving DecidableEq

/-- Whether nothing is written before a node. -/
def Properties.isEmpty (p : Properties) : Bool := p.anchor.isNone && p.tag.isNone

/-- A node of a document. -/
inductive Node where
  | alias (number : Nat)
  | scalar (own : Properties) (style : Style) (text : String)
  | sequence (own : Properties) (items : List Node)
  | mapping (own : Properties) (entries : List (Node × Node))

namespace Node

/-- A node of which nothing is written but its properties. -/
def empty (own : Properties) : Node := .scalar own .plain ""

/-- What is written before a node. -/
def own : Node → Properties
  | .alias _ => {}
  | .scalar own _ _ => own
  | .sequence own _ => own
  | .mapping own _ => own

mutual

/-- The number of scalars, aliases, and ends of collections within a node. -/
def size : Node → Nat
  | .alias _ => 1
  | .scalar _ _ _ => 1
  | .sequence _ items => sizeList items + 2
  | .mapping _ entries => sizeEntries entries + 2

/-- The sum of the sizes of nodes. -/
def sizeList : List Node → Nat
  | [] => 0
  | node :: rest => node.size + sizeList rest

/-- The sum of the sizes of keys and values. -/
def sizeEntries : List (Node × Node) → Nat
  | [] => 0
  | (key, value) :: rest => key.size + value.size + sizeEntries rest

end

mutual

/-- The last node to begin with this number. -/
def numbered? (number : Nat) : Node → Option Node
  | .alias _ => none
  | .scalar own style text =>
    if own.anchor = some number then some (.scalar own style text) else none
  | .sequence own items =>
    (numberedIn? number items).or
      (if own.anchor = some number then some (.sequence own items) else none)
  | .mapping own entries =>
    (numberedInEntries? number entries).or
      (if own.anchor = some number then some (.mapping own entries) else none)

/-- The last node within a list to begin with this number. -/
def numberedIn? (number : Nat) : List Node → Option Node
  | [] => none
  | node :: rest => (numberedIn? number rest).or (node.numbered? number)

/-- The last node within entries to begin with this number. -/
def numberedInEntries? (number : Nat) : List (Node × Node) → Option Node
  | [] => none
  | (key, value) :: rest =>
    (numberedInEntries? number rest).or ((value.numbered? number).or (key.numbered? number))

end

/-- The node that a node within a document stands for. -/
def follow (root : Node) : Node → Option Node
  | .alias number => root.numbered? number
  | node => some node

end Node

end OpenApiDoc.Yaml
