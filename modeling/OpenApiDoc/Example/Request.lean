import OpenApiDoc.Example.Generator
import OpenApiDoc.Text.Percent
import OpenApiDoc.Text.Replace

/-!
# Examples of requests and responses

The examples of a request are kept by the location of the parameters. The entry `path` starts as
the path template; path parameters are put into it and query parameters behind it, written as in
a form. The examples of the responses are kept by their codes.
-/

namespace OpenApiDoc.Example

/-- The text of a value in a path or a query: a string as it is, anything else as JSON. -/
def valueText : Json → String
  | .str s => s
  | value => value.text

/-- A value as written in a form. -/
def encodeValue (value : Json) : String :=
  String.ofList (Text.Form.encode (valueText value).toList)

/-- The first of several examples with names, or the value itself where it holds none. -/
def firstNamed : Json → Json
  | .obj ((_, first) :: _) => first.exampleValue
  | examples => examples

/-- The placeholder of a path parameter in a template. -/
def placeholder (name : String) : List Char := '\x7b' :: name.toList ++ ['\x7d']

/-- Put a value in place of a path parameter. -/
def expandPath (path name : String) (value : Json) : String :=
  String.ofList (Text.replace (placeholder name) (encodeValue value).toList path.toList)

/-- Put a query parameter behind a path. -/
def appendQuery (path name : String) (value : Json) : String :=
  path ++ (if path.toList.contains '?' then "&" else "?") ++ name ++ "=" ++ encodeValue value

/-- The path among the examples of a request. -/
def pathOf (examples : List (String × Json)) : String :=
  match Entries.get? "path" examples with
  | some (.str path) => path
  | _ => ""

namespace Generator

/-- The value that stands for a schema of which nothing is authored outside: the example of the
schema or of its definition, else a generated one if examples are generated. -/
def referencedExample (g : Generator) (s : Schema) : Draft (Option Json) :=
  match s.reference with
  | some reference => g.definitionExample (g.definitions.referenceName reference)
  | none => if g.options.generates then some <$> g.generate s else pure none

/-- The authored example of a body, from the first of the places that may hold it. -/
def authoredBody (p : Parameter) : Option Json :=
  p.authored
    <|> p.namedExamples.map firstNamed
    <|> p.schema.bind (fun s => s.authored)
    <|> p.extension "x-examples"
    <|> p.schema.bind (fun s => s.extension "x-examples")

/-- The example of a body. -/
def bodyExample (g : Generator) (p : Parameter) : Draft (Option Json) :=
  match authoredBody p with
  | some value => pure (some value)
  | none =>
    match p.schema with
    | none => pure none
    | some s => g.referencedExample s

/-- The example that an extension of a parameter gives: a text is read under the
declared kind. -/
def extensionExample (p : Parameter) (s : Schema) : Noted (Option Json) :=
  match p.extension "x-example" with
  | none => pure none
  | some (.str text) => some <$> convert text s.kind
  | some value => pure (some value)

/-- The generated value of a parameter; for an array it is that of one item. -/
def generatedValue (g : Generator) (s : Schema) : Draft Json :=
  match s.isArray, s.items with
  | true, some items =>
    match g.authoredExample items with
    | some value => pure value
    | none => g.generate items
  | _, _ => g.generate s

/-- The value of a parameter that is no body. -/
def parameterValue (g : Generator) (p : Parameter) (s : Schema) : Draft Json :=
  match p.authored with
  | some value => pure value
  | none => do
    match ← Draft.ofNoted (extensionExample p s) with
    | some value => pure value
    | none => g.generatedValue s

/-- The examples with the value of a parameter put where its location wants it. -/
def place (g : Generator) (p : Parameter) (s : Schema) (value : Json)
    (examples : List (String × Json)) : List (String × Json) :=
  match p.location with
  | .header =>
    let text := p.name ++ ":\"" ++ s.kind.getD untypedText ++ "\""
    Entries.insert "header" (.str text) examples
  | .path => Entries.insert "path" (.str (expandPath (pathOf examples) p.name value)) examples
  | .query =>
    if p.required || g.options.showsOptionalQuery then
      Entries.insert "path" (.str (appendQuery (pathOf examples) p.name value)) examples
    else examples
  | location => Entries.insert location.text value examples

/-- The examples with that of one more value, if there is one, under the location of the
parameter. -/
def record (p : Parameter) (examples : List (String × Json)) :
    Option Json → List (String × Json)
  | some value => Entries.insert p.location.text value examples
  | none => examples

/-- The examples with that of one more parameter. -/
def addParameter (g : Generator) (examples : List (String × Json)) (p : Parameter) :
    Draft (List (String × Json)) :=
  if p.isBody then record p examples <$> g.bodyExample p
  else
    match p.reference with
    | some reference =>
      record p examples <$> g.definitionExample (g.definitions.referenceName reference)
    | none =>
      match p.schema with
      | none => pure examples
      | some s =>
        if g.options.generates then do
          let value ← g.parameterValue p s
          pure (g.place p s value examples)
        else pure examples

/-- The examples of a request by the locations of its parameters. -/
def requestExamples (g : Generator) (o : Operation) : Draft (List (String × Json)) :=
  o.parameters.foldlM g.addParameter
    (if g.options.generates then [("path", .str o.path)] else [])

/-- The example of a response from its first media type. -/
def responseExample (g : Generator) (r : Response) : Draft (Option Json) :=
  match firstMedia r.content with
  | none => pure none
  | some media =>
    match media.authored with
    | some value => pure (some value)
    | none =>
      match media.schema with
      | none => pure none
      | some s =>
        match s.authored with
        | some value => pure (some value)
        | none => g.referencedExample s

/-- The examples of the responses by their codes; a response without one is left out. -/
def responseExamples (g : Generator) (o : Operation) : Draft (List (String × Json)) := do
  let examples ← o.responses.mapM fun entry => do
    let value ← g.responseExample entry.2
    pure (value.map fun v => (entry.1, v))
  pure (examples.filterMap id)

end Generator

end OpenApiDoc.Example
