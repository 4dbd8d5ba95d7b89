import OpenApiDoc.Notice
import OpenApiDoc.ResolvedType

/-!
# Hoisting inline objects

An object with properties that stands inside another type is taken out, so that it can have a
table of its own, and a link to it takes its place. Hoisting looks into arrays, and into maps
whose values are objects. At most one object is taken out of a type.
-/

namespace OpenApiDoc

/-- A result with the inline objects that were taken out of it. -/
structure Hoisted (α : Type) where
  value : α
  inline : List ObjectType := []

namespace ObjectType

/-- The object named for its place, unless it has a display name. -/
def nameFor (display unique : String) (o : ObjectType) : ObjectType :=
  match o.names.display with
  | none => { o with names := ⟨some display, some unique⟩ }
  | some _ => o

end ObjectType

namespace ResolvedType

/-- Take an inline object out of a type. An object without a name is named for its place. -/
def hoist (display unique : String) : ResolvedType → Noted (Hoisted ResolvedType)
  | .object shape =>
    if shape.properties.isEmpty then pure { value := .object shape }
    else
      let named := shape.nameFor display unique
      do
        Noted.say (.objectHoisted (named.names.identity.getD display))
        pure { value := .linkTo none (.object named), inline := [named] }
  | .array names element collection => do
    let hoisted ← element.hoist display unique
    pure { hoisted with value := .array names hoisted.value collection }
  | .map names value =>
    if value.isObject then do
      let hoisted ← value.hoist display unique
      pure { hoisted with value := .map names hoisted.value }
    else pure { value := .map names value }
  | t => pure { value := t }

end ResolvedType

end OpenApiDoc
