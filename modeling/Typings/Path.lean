import Typings.Text.Split

/-!
# Paths

The text of a path, as a configuration or a command line gives it and as
messages show it. A path is put together and taken apart without looking at
any file, so an empty part, a part `.` and a part `..` stay where they are
until the path is followed.

## Main definitions

* `join`: A path seen from another.
* `parents`: What lies above a path.
* `parts`: The parts of a path.
-/

namespace Typings

namespace Path

/-- Whether a path begins at the root. -/
def isAbsolute (path : String) : Bool :=
  path.toList.head? = some '/'

/-- A path seen from another, with one separator between them. An absolute
    path is the same from everywhere. -/
def join (base path : String) : String :=
  if isAbsolute path then path
  else if base.isEmpty || base.toList.getLast? = some '/' then base ++ path
  else base ++ "/" ++ path

/-- The parts of a path, between separators. -/
def parts (path : String) : List String :=
  Text.split (· = '/') path

/-- Whether a part leads nowhere else. -/
def isIdle (part : String) : Bool :=
  part.isEmpty || part = "."

/-- The paths that consist of the first parts of a path, given its parts from
    the last to the first. The nearest comes first, and none ends in an idle
    part. -/
def beginnings : List String → List String
  | [] => [""]
  | [""] => ["/"]
  | part :: before =>
    if isIdle part then beginnings before
    else Text.join "/" (part :: before).reverse :: beginnings before

/-- The directories above a path, from the nearest to the farthest. -/
def parents (path : String) : List String :=
  match (parts path).reverse.dropWhile isIdle with
  | [] => []
  | _ :: before => beginnings before

/-- The directory that a path is in. -/
def parent? (path : String) : Option String :=
  (parents path).head?

end Path

end Typings
