import OpenApiDoc.Yaml.Layout
import OpenApiDoc.Yaml.Node

/-!
# From tokens to a document

Tokens are put together to a node by a machine with a stack of open collections. Before a token
is taken, a node that it leaves out is filled in: an item after a dash, a key, or a value of
which nothing is written is an empty scalar.

A text holds one document at most; a text without a document counts as an empty scalar.
-/

namespace OpenApiDoc.Yaml

/-- How an open collection is written. -/
inductive Form where
  /-- As lines at a column of their own. -/
  | block
  /-- As items at the column of the mapping around them. -/
  | bare
  /-- Between brackets. -/
  | flow
  /-- As a single entry within the brackets of a sequence. -/
  | single
deriving DecidableEq

/-- What an open mapping waits for. -/
inductive Phase where
  /-- An entry, or the end. -/
  | entry
  /-- The key announced by its token. -/
  | key
  /-- The colon after a key. -/
  | keyed (key : Node)
  /-- The value of a key. -/
  | value (key : Node)
  /-- A comma, or the end. -/
  | separator

/-- An open collection; its parts are held in reverse. -/
inductive OpenCollection where
  /-- A sequence, and whether an item is due. -/
  | sequence (form : Form) (own : Properties) (items : List Node) (due : Bool)
  | mapping (form : Form) (own : Properties) (entries : List (Node × Node)) (phase : Phase)

/-- A document under way. -/
structure Builder where
  /-- The open collections, innermost first. -/
  stack : List OpenCollection := []
  /-- The properties read for the node that is due. -/
  own : Properties := {}
  root : Option Node := none
  /-- The names of anchors with their numbers, latest first. -/
  names : List (String × Nat) := []
  /-- The beginnings of tags by their handles. -/
  handles : List (String × Tag) := []

namespace Builder

/-- What a mapping waits for after an entry. -/
def afterEntry : Form → Phase
  | .flow => .separator
  | _ => .entry

/-- Put a node into the innermost collection. An entry that stands alone among the items of a
sequence is complete with its value. -/
def putInto (node : Node) : List OpenCollection → List OpenCollection × Option Node
  | [] => ([], some node)
  | .sequence form own items _ :: rest =>
    (.sequence form own (node :: items) false :: rest, none)
  | .mapping form own entries phase :: rest =>
    match phase with
    | .key => (.mapping form own entries (.keyed node) :: rest, none)
    | .value key =>
      if form = .single then putInto (.mapping own [(key, node)]) rest
      else (.mapping form own ((key, node) :: entries) (afterEntry form) :: rest, none)
    | _ => (.mapping form own ((node, .empty {}) :: entries) (afterEntry form) :: rest, none)

/-- Put a node where one is due. -/
def put (s : Builder) (node : Node) : Builder :=
  let (stack, root) := putInto node s.stack
  { s with stack, root, own := {} }

/-- Close the innermost collection with a node that it has become. -/
def closeWith (s : Builder) (node : Node) (rest : List OpenCollection) : Builder :=
  { s with stack := rest }.put node

/-! ### Where a node is due -/

/-- Which nodes may be written where one is due. -/
inductive Slot where
  | flow
  | block
  /-- Items without a column of their own are allowed as well. -/
  | blockOrBare
deriving DecidableEq

/-- The place of the node that is due. -/
def slot? (s : Builder) : Option Slot :=
  match s.stack with
  | [] => if s.root.isNone then some .block else none
  | .sequence form _ _ due :: _ =>
    if !due then none else if form = .flow then some .flow else some .block
  | .mapping form _ _ phase :: _ =>
    match phase with
    | .key => some (if form = .block then .blockOrBare else .flow)
    | .value _ => some (if form = .block then .blockOrBare else .flow)
    | .entry => if form = .flow then some .flow else none
    | _ => none

/-- Whether a token belongs to the node that is due. -/
def belongs (own : Properties) (slot : Slot) : Token → Bool
  | .alias _ => own.isEmpty
  | .anchor _ => own.anchor.isNone
  | .tag _ _ => own.tag.isNone
  | .scalar _ _ => true
  | .flowSequenceStart => true
  | .flowMappingStart => true
  | .blockSequenceStart => slot != .flow
  | .blockMappingStart => slot != .flow
  | .blockEntry => slot == .blockOrBare
  | _ => false

/-- Whether the node that is due may be left out before a token. -/
def mayOmit (s : Builder) (t : Token) : Bool :=
  match s.stack with
  | .sequence .block _ _ _ :: _ => [.blockEntry, .blockEnd].contains t
  | .sequence .bare _ _ _ :: _ => [.blockEntry, .key, .value, .blockEnd].contains t
  | .mapping .block _ _ _ :: _ => [.key, .value, .blockEnd].contains t
  | .mapping .flow _ _ .key :: _ => [.value, .flowEntry, .flowMappingEnd].contains t
  | .mapping .flow _ _ (.value _) :: _ => [.flowEntry, .flowMappingEnd].contains t
  | .mapping .single _ _ (.value _) :: _ => [.flowEntry, .flowSequenceEnd].contains t
  | _ => false

/-- Fill in a node of which nothing is written but perhaps its properties. -/
def fillNode (s : Builder) (t : Token) : Builder :=
  match s.slot? with
  | none => s
  | some slot =>
    if belongs s.own slot t then s
    else if !s.own.isEmpty || s.mayOmit t then s.put (.empty s.own)
    else s

/-- Close items without a column of their own before a token that is no further item. -/
def closeBare (s : Builder) (t : Token) : Builder :=
  match s.stack with
  | .sequence .bare own items false :: rest =>
    if t = .blockEntry then s else s.closeWith (.sequence own items.reverse) rest
  | _ => s

/-- Fill in the value of a key that no colon follows. -/
def fillValue (s : Builder) (t : Token) : Builder :=
  match s.stack with
  | .mapping form own entries (.keyed key) :: rest =>
    if t = .value then s
    else { s with stack := .mapping form own entries (.value key) :: rest }.put (.empty {})
  | _ => s

/-- Whether a token is lost: the first one after a question mark that announces an entry among
items, where no key is written. -/
def swallows (s : Builder) (t : Token) : Bool :=
  match s.stack with
  | .mapping .single _ _ .key :: _ =>
    s.own.isEmpty && [.value, .flowEntry, .flowSequenceEnd].contains t
  | _ => false

/-! ### Tokens -/

/-- Open a collection where a node is due. -/
def openWith (s : Builder) (collection : OpenCollection) : Builder :=
  { s with stack := collection :: s.stack, own := {} }

/-- Open a collection that may be a node where one is due. -/
def openNode (s : Builder) (t : Token) (collection : Properties → OpenCollection) :
    Option Builder :=
  match s.slot? with
  | some slot => if belongs s.own slot t then some (s.openWith (collection s.own)) else none
  | none => none

/-- The whole tag that a handle and a suffix stand for. -/
def tagOf? (s : Builder) (handle : String) (suffix : Tag) : Option Tag :=
  if handle.isEmpty then some suffix
  else (s.handles.lookup handle).map fun start => start.append suffix

/-- Take a token that belongs to the node that is due. -/
def takeNode (s : Builder) (t : Token) : Option Builder :=
  match t with
  | .alias name => (s.names.lookup name).map fun number => s.put (.alias number)
  | .anchor name =>
    -- an anchor is numbered by the names known so far, so a name used again shares its number
    let number := s.names.length
    some { s with
      own := { s.own with anchor := some number }
      names := (name, number) :: s.names.filter fun (known, _) => known != name }
  | .tag handle suffix =>
    (s.tagOf? handle suffix).map fun tag => { s with own := { s.own with tag := some tag } }
  | .scalar style text => some (s.put (.scalar s.own style text))
  | .flowSequenceStart => some (s.openWith (.sequence .flow s.own [] true))
  | .flowMappingStart => some (s.openWith (.mapping .flow s.own [] .entry))
  | .blockSequenceStart => some (s.openWith (.sequence .block s.own [] false))
  | .blockMappingStart => some (s.openWith (.mapping .block s.own [] .entry))
  | .blockEntry => some (s.openWith (.sequence .bare s.own [] true))
  | _ => none

/-- Take a token that belongs to the innermost collection itself. -/
def takeSeparator (s : Builder) (t : Token) : Option Builder :=
  match t, s.stack with
  | .blockEntry, .sequence form own items false :: rest =>
    if form = .flow then none else some { s with stack := .sequence form own items true :: rest }
  | .blockEnd, .sequence .block own items false :: rest =>
    some (s.closeWith (.sequence own items.reverse) rest)
  | .blockEnd, .mapping .block own entries .entry :: rest =>
    some (s.closeWith (.mapping own entries.reverse) rest)
  | .key, .mapping form own entries .entry :: rest =>
    some { s with stack := .mapping form own entries .key :: rest }
  | .key, .sequence .flow _ _ true :: _ => some (s.openWith (.mapping .single {} [] .key))
  | .value, .mapping form own entries (.keyed key) :: rest =>
    some { s with stack := .mapping form own entries (.value key) :: rest }
  | .flowEntry, .sequence .flow own items false :: rest =>
    some { s with stack := .sequence .flow own items true :: rest }
  | .flowEntry, .mapping .flow own entries .separator :: rest =>
    some { s with stack := .mapping .flow own entries .entry :: rest }
  | .flowSequenceEnd, .sequence .flow own items _ :: rest =>
    some (s.closeWith (.sequence own items.reverse) rest)
  | .flowMappingEnd, .mapping .flow own entries .entry :: rest =>
    some (s.closeWith (.mapping own entries.reverse) rest)
  | .flowMappingEnd, .mapping .flow own entries .separator :: rest =>
    some (s.closeWith (.mapping own entries.reverse) rest)
  | _, _ => none

/-- Take a token. -/
def step (s : Builder) (t : Token) : Option Builder :=
  if s.swallows t then some (s.put (.empty {}))
  else
    let s := ((s.fillNode t).closeBare t).fillValue t
    match s.slot? with
    | some slot => if belongs s.own slot t then s.takeNode t else s.takeSeparator t
    | none => s.takeSeparator t

/-- The document once all of its tokens are taken. A document with a line that starts it may have
nothing more. -/
def finish (s : Builder) (explicit : Bool) : Option Node :=
  match s.stack, s.root with
  | [], some root => some root
  | [], none => if explicit || !s.own.isEmpty then some (.empty s.own) else none
  | _, _ => none

end Builder

namespace Node

/-- The handles of tags that need no directive. -/
def defaultHandles : List (String × Tag) := [("!", .ofText "!"), ("!!", .core "")]

/-- Whether a token stands within a document. -/
def isContent : Token → Bool
  | .versionDirective _ _ => false
  | .tagDirective _ _ => false
  | .documentStart => false
  | .documentEnd => false
  | _ => true

/-- The node of the tokens of one document, with nothing but ends of documents after it. -/
def ofContent? (handles : List (String × Tag)) (explicit : Bool) (tokens : List Token) :
    Option Node :=
  if (tokens.dropWhile isContent).all (· = .documentEnd) then
    ((tokens.takeWhile isContent).foldlM Builder.step { handles }).bind (·.finish explicit)
  else none

/-- Read the directives before a document, of which one at most tells the version. -/
def ofTokensFrom? (versioned : Bool) (handles : List (String × Tag)) :
    List Token → Option Node
  | .versionDirective major minor :: rest =>
    if versioned || major != 1 || (minor != 1 && minor != 2) then none
    else ofTokensFrom? true handles rest
  | .tagDirective handle start :: rest =>
    if (handles.lookup handle).isSome then none
    else ofTokensFrom? versioned ((handle, start) :: handles) rest
  | .documentStart :: rest => ofContent? (handles ++ defaultHandles) true rest
  | _ => none

/-- The node of the one document that tokens make up. -/
def ofTokens? : List Token → Option Node
  | [] => some (.empty {})
  | t :: rest =>
    if isContent t then ofContent? defaultHandles false (t :: rest)
    else ofTokensFrom? false [] (t :: rest)

/-- The document that a text holds. -/
def ofText? (text : String) : Option Node := (Token.ofText? text).bind ofTokens?

end Node

end OpenApiDoc.Yaml
