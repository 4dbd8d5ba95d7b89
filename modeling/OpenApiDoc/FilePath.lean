import OpenApiDoc.Text.Segments

/-!
# File paths

Paths are texts of segments divided by slashes. `FilePath.join` puts a path below a folder, and
`FilePath.components` are what a path designates: repeated and trailing slashes and the segment
`.` within a path say nothing, a leading slash and a leading `.` do.
-/

namespace OpenApiDoc.FilePath

/-- Put a path below a folder. An absolute path stays as it is, and a slash is added only where
the folder does not end in one. -/
def join (folder path : String) : String :=
  if path.toList.head? = some '/' then path
  else
    match folder.toList.getLast? with
    | none => path
    | some last => if last = '/' then folder ++ path else folder ++ "/" ++ path

/-- A part of a path. -/
inductive Component where
  | root
  | current
  | named (name : List Char)
deriving DecidableEq

/-- The segments that name something. -/
def namedParts (parts : List (List Char)) : List Component :=
  (parts.filter fun part => !part.isEmpty && part != ['.']).map Component.named

/-- The parts that a path designates. -/
def components (path : List Char) : List Component :=
  let parts := Text.segments (· == '/') path
  if path.head? = some '/' then .root :: namedParts parts
  else if parts.head? = some ['.'] then .current :: namedParts parts
  else namedParts parts

/-- Whether two texts designate the same path. -/
def same (a b : List Char) : Bool := components a = components b

end OpenApiDoc.FilePath
