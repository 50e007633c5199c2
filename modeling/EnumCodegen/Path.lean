import EnumCodegen.Text.Basic

/-!
# Slash-separated paths

A path is a text cut into segments by slashes; it is rooted if it starts with a slash. Paths are
handled by their spelling alone, without a file system.

## Main definitions

* `Path.clean`: the shortest path with the same meaning
* `Path.resolve`: the directory a path leads to from another
* `Path.baseName`, `Path.stem`: the last segment, and without the extension of a schema file
-/

namespace EnumCodegen.Path

/-- Whether a path starts at the root. -/
def isRooted (path : Text) : Bool :=
  path.head? == some '/'

/-- The segments of a path. -/
def segments (path : Text) : List Text :=
  path.splitOn '/'

/-- **One step of cleaning.** The segments kept so far stand innermost first. An empty segment and
`.` go, `..` takes the segment before it along, and where none is left it stays, unless the path is
rooted. -/
def cleanStep (rooted : Bool) (kept : List Text) (segment : Text) : List Text :=
  if segment = [] ∨ segment = ['.'] then kept
  else if segment = ['.', '.'] then
    match kept with
    | last :: outer => if last = ['.', '.'] then segment :: kept else outer
    | [] => if rooted then [] else [segment]
  else segment :: kept

/-- The segments of a cleaned path, outermost first. -/
def cleanSegments (path : Text) : List Text :=
  ((segments path).foldl (cleanStep (isRooted path)) []).reverse

/-- **Cleaning**: the path without empty segments, `.` and every `..` that a segment before it can
answer. A relative path that leads nowhere is cleaned to the empty text. -/
def clean (path : Text) : Text :=
  (if isRooted path then ['/'] else []) ++ ['/'].intercalate (cleanSegments path)

/-- **One step of resolution.** The directory stands innermost segment first; `..` stays at the
root. -/
def resolveStep (directory : List Text) (segment : Text) : List Text :=
  if segment = [] ∨ segment = ['.'] then directory
  else if segment = ['.', '.'] then directory.tail
  else segment :: directory

/-- **Resolution**: the directory, innermost segment first, to which a path leads from a base
directory. -/
def resolve (base : List Text) (path : Text) : List Text :=
  (segments path).foldl resolveStep (if isRooted path then [] else base)

/-- The part of a path behind its last slash. -/
def baseName (path : Text) : Text :=
  (segments path).getLastD []

/-- The extensions of schema files; the first that fits counts. -/
def schemaExtensions : List Text :=
  [".proto", ".protodevel"]

/-- A path without the extension of a schema file. -/
def withoutExtension (path : Text) : Text :=
  (schemaExtensions.findSome? (·.isSuffixOf? path)).getD path

/-- **The stem** of a schema file: its base name without extension. -/
def stem (path : Text) : Text :=
  withoutExtension (baseName path)

end EnumCodegen.Path
