/-!
# Notices

Reading and resolving a description never stops at a dangling reference or a cycle. What was
passed over is said in a notice beside the result: `Noted α` is a value with the notices made on
the way to it, in order.
-/

namespace OpenApiDoc

universe u v

/-- Something worth saying about a description. -/
inductive Notice where
  /-- A document was read. -/
  | loaded (definitions operations : Nat)
  | danglingParameter (reference : String)
  | danglingRequestBody (reference : String)
  | emptyRequestBody
  | danglingResponse (reference code : String)
  | danglingDefinition (name : String)
  /-- A definition is reached again while it is being expanded. -/
  | definitionReentered (name : String)
  /-- A branch of a composition is no object. -/
  | branchSkipped
  | objectHoisted (uniqueName : String)
  | danglingExample (name : String)
  /-- An example is cut off because a definition was entered as often as allowed. -/
  | exampleBounded (name : String)
  /-- The text of an example does not spell a value of the declared kind. -/
  | exampleKept (text kind : String)
deriving DecidableEq

/-- How much a notice matters. -/
inductive Severity where
  | debug
  | warning
deriving DecidableEq

namespace Notice

/-- How much a notice matters. -/
def severity : Notice → Severity
  | .danglingParameter _ | .danglingRequestBody _ | .danglingResponse _ _
  | .danglingDefinition _ | .danglingExample _ | .exampleKept _ _ => .warning
  | .loaded _ _ | .emptyRequestBody | .definitionReentered _ | .branchSkipped
  | .objectHoisted _ | .exampleBounded _ => .debug

/-- The wording of a notice. -/
def message : Notice → String
  | .loaded definitions operations =>
    "Loaded " ++ toString definitions ++ " definitions and " ++ toString operations
      ++ " operations"
  | .danglingParameter reference => "Unresolved parameter reference '" ++ reference ++ "'"
  | .danglingRequestBody reference => "Unresolved request body reference '" ++ reference ++ "'"
  | .emptyRequestBody => "Request body without content ignored"
  | .danglingResponse reference code =>
    "Unresolved response reference '" ++ reference ++ "' for " ++ code
  | .danglingDefinition name => "Unresolved reference to definition '" ++ name ++ "'"
  | .definitionReentered name =>
    "Definition '" ++ name ++ "' re-entered while expanding, using a stub"
  | .branchSkipped => "Skipping non-object allOf branch"
  | .objectHoisted uniqueName => "Hoisting inline object '" ++ uniqueName ++ "'"
  | .danglingExample name => "Example for unresolved reference '" ++ name ++ "'"
  | .exampleBounded name => "Recursion bound reached for '" ++ name ++ "'"
  | .exampleKept text kind =>
    "Example '" ++ text ++ "' cannot be converted to Some(\"" ++ kind ++ "\")"

/-- The line of a notice in a log. -/
def line (notice : Notice) : String :=
  (match notice.severity with
    | .debug => "DEBUG "
    | .warning => "WARN ") ++ notice.message

end Notice

/-- A value with the notices made on the way to it. -/
@[ext]
structure Noted (α : Type u) where
  value : α
  notices : List Notice := []

namespace Noted

variable {α : Type u} {β : Type v}

instance : Monad Noted where
  pure value := ⟨value, []⟩
  bind x f := ⟨(f x.value).value, x.notices ++ (f x.value).notices⟩

/-- Make a notice. -/
def say (notice : Notice) : Noted Unit := ⟨(), [notice]⟩

@[simp] theorem value_pure {α : Type u} (a : α) : (pure a : Noted α).value = a := rfl

@[simp] theorem value_bind {α β : Type u} (x : Noted α) (f : α → Noted β) :
    (x >>= f).value = (f x.value).value := rfl

@[simp] theorem value_map {α β : Type u} (f : α → β) (x : Noted α) :
    (f <$> x).value = f x.value := rfl

@[simp] theorem notices_pure {α : Type u} (a : α) : (pure a : Noted α).notices = [] := rfl

@[simp] theorem notices_bind {α β : Type u} (x : Noted α) (f : α → Noted β) :
    (x >>= f).notices = x.notices ++ (f x.value).notices := rfl

@[simp] theorem notices_map {α β : Type u} (f : α → β) (x : Noted α) :
    (f <$> x).notices = x.notices :=
  List.append_nil x.notices

instance : LawfulMonad Noted := by
  refine LawfulMonad.mk' _ ?_ ?_ ?_ <;> intros <;> ext1 <;> simp

@[simp] theorem value_say (notice : Notice) : (say notice).value = () := rfl

@[simp] theorem notices_say (notice : Notice) : (say notice).notices = [notice] := rfl

end Noted

end OpenApiDoc
