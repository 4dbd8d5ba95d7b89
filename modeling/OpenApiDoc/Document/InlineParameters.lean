import OpenApiDoc.Json

/-!
# Parameters with inline schemas

A parameter that is no body may carry the keywords of its schema itself. They are moved under the
key `schema`, which is put behind the other keys.
-/

namespace OpenApiDoc.Document

/-- The keywords that a parameter may carry for its schema. -/
def inlineKeywords : List String :=
  ["type", "format", "items", "enum", "default", "minimum", "maximum", "exclusiveMinimum",
    "exclusiveMaximum", "minLength", "maxLength", "pattern", "minItems", "maxItems"]

/-- Take keywords out of members, one after the other: those found, and the members left. -/
def takeKeywords (members : List (String × Json)) :
    List String → List (String × Json) × List (String × Json)
  | [] => ([], members)
  | key :: keys =>
    match Entries.get? key members with
    | none => takeKeywords members keys
    | some value =>
      let (found, left) := takeKeywords (Entries.eraseSwap key members) keys
      ((key, value) :: found, left)

/-- The members of a parameter with its inline keywords moved under `schema`. -/
def liftKeywords (members : List (String × Json)) : List (String × Json) :=
  if Entries.has "schema" members || Entries.has "$ref" members
      || ((Entries.get? "in" members).bind Json.str? == some "body") then
    members
  else
    match takeKeywords members inlineKeywords with
    | ([], _) => members
    | (found, left) => Entries.insert "schema" (.obj found) left

/-- A parameter with its inline keywords moved. -/
def liftParameter : Json → Json := .mapEntries liftKeywords

/-- A list of parameters with their inline keywords moved. -/
def liftParameterList : Json → Json := .mapItems liftParameter

/-- A member of a path item: its own list of parameters, or an operation with one. -/
def liftPathMember (member : String × Json) : String × Json :=
  if member.1 = "parameters" then (member.1, liftParameterList member.2)
  else (member.1, member.2.modify "parameters" liftParameterList)

/-- A document with the inline keywords of all its parameters moved. -/
def withLiftedParameters (document : Json) : Json :=
  ((document.modify "parameters" (.mapValues liftParameter)).modify "components"
    (.modify "parameters" (.mapValues liftParameter))).modify "paths"
      (.mapValues (.mapEntries (List.map liftPathMember)))

end OpenApiDoc.Document
