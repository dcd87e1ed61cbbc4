import Typings.Text.Split

/-!
# Qualified Type Paths

A declared type has a name of several segments, `sap.ui.core.Control`, and
the same name is also spelled with slashes. The last segment is the short
name under which the type is exported, and the segments before it are the
module that exports it.

## Main definitions

* `isSeparator`: The two characters between segments.
* `segments`: The pieces of a path.
* `isQualified`: Whether a path has more than one segment.
* `lastSegment`: The short name.
* `moduleOf`: The exporting module, spelled with slashes.
* `toModulePath`, `toDotted`: The two spellings of one path.
-/

namespace Typings

namespace TypePath

/-- A dot or a slash stands between two segments. -/
def isSeparator (c : Char) : Bool :=
  c = '.' || c = '/'

/-- The pieces of a path, at least one. -/
def segments (path : String) : List String :=
  Text.split isSeparator path

/-- Whether a path names something inside a module. -/
def isQualified (path : String) : Bool :=
  path.toList.any isSeparator

/-- The short name of a path. -/
def lastSegment (path : String) : String :=
  (segments path).getLast?.getD path

/-- The module that exports the type of a path; a path of one segment has
    none. -/
def moduleOf (path : String) : String :=
  Text.join "/" (segments path).dropLast

/-- A path spelled with slashes. -/
def toModulePath (path : String) : String :=
  Text.replaceChar '.' '/' path

/-- A path spelled with dots. -/
def toDotted (path : String) : String :=
  Text.replaceChar '/' '.' path

end TypePath

end Typings
